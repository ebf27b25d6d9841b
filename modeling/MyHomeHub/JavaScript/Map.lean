import MyHomeHub.Library.Assignments

/-!
# Maps

A `Map` of the language: its entries in the order in which their keys were first set. To
set a key again changes its value and leaves its place.
-/

namespace JavaScript

open Library

/-- A `Map`. -/
structure Map (Key Value : Type) where
  entries : List (Key × Value)
  distinct : (entries.map Prod.fst).Nodup

namespace Map

variable {Key Value : Type} [DecidableEq Key]

/-- `new Map()` -/
def empty : Map Key Value :=
  ⟨[], List.nodup_nil⟩

/-- `set` -/
def set (map : Map Key Value) (key : Key) (value : Value) : Map Key Value where
  entries := assign key value map.entries
  distinct := nodup_assign map.distinct

/-- `new Map(entries)` -/
def ofEntries (entries : List (Key × Value)) : Map Key Value :=
  entries.foldl (fun map entry => map.set entry.1 entry.2) empty

/-- `get` -/
def get (map : Map Key Value) (key : Key) : Option Value :=
  map.entries.lookup key

/-- `Array.from(map.values())` -/
def values (map : Map Key Value) : List Value :=
  map.entries.map Prod.snd

variable {map : Map Key Value} {key other : Key} {value : Value}

theorem get_eq_some_iff : map.get key = some value ↔ (key, value) ∈ map.entries := by
  constructor
  · exact mem_of_lookup
  · intro hmem
    obtain ⟨before, after, hsplit⟩ := List.append_of_mem hmem
    refine List.lookup_eq_some_iff.mpr ⟨before, after, hsplit, fun entry hentry => ?_⟩
    have hdistinct := map.distinct
    rw [hsplit, List.map_append, List.map_cons] at hdistinct
    have hne := (List.nodup_append.mp hdistinct).2.2 entry.1 (List.mem_map_of_mem hentry) key
      List.mem_cons_self
    exact bne_iff_ne.mpr hne.symm

theorem lookup_cons_eq (entry : Key × Value) (rest : List (Key × Value)) (key : Key) :
    (entry :: rest).lookup key = if key = entry.1 then some entry.2 else rest.lookup key := by
  obtain ⟨first, value⟩ := entry
  by_cases hsame : key = first
  · rw [if_pos hsame, hsame, List.lookup_cons_self]
  · rw [if_neg hsame, List.lookup_cons, beq_eq_false_iff_ne.mpr hsame]

theorem get_set : (map.set key value).get other =
    if other = key then some value else map.get other := by
  show (assign key value map.entries).lookup other = _
  split
  · rename_i hsame
    rw [hsame, lookup_assign_self]
  · rename_i hother
    exact lookup_assign_other hother

/-- The last entry of a key counts. -/
theorem get_of_entries (entries : List (Key × Value)) (key : Key) :
    (ofEntries entries).get key = entries.reverse.lookup key := by
  induction entries using List.reverseRecOn with
  | nil => rfl
  | append_singleton entries entry ih =>
      rw [ofEntries, List.foldl_append]
      show (Map.set (ofEntries entries) entry.1 entry.2).get key = _
      rw [get_set, List.reverse_append, ih]
      exact (lookup_cons_eq entry _ key).symm

end Map

end JavaScript
