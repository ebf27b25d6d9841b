import Mathlib.Data.List.Basic
import Mathlib.Data.List.Induction
import Mathlib.Data.List.Nodup

/-!
# Assignments

Entries in which a key is assigned a value: in place if the key is there, behind the others if
it is not. The assignments of several keys, one after another, are known by what is looked up
afterwards.
-/

namespace Library

variable {κ β : Type*} [DecidableEq κ] {entries : List (κ × β)} {key other : κ} {value : β}

/-- What is looked up is an entry. -/
theorem mem_of_lookup (hlookup : entries.lookup key = some value) : (key, value) ∈ entries := by
  obtain ⟨before, after, hsplit, -⟩ := List.lookup_eq_some_iff.mp hlookup
  rw [hsplit]
  exact List.mem_append_right _ List.mem_cons_self

/-- A key without a value is that of no entry. -/
theorem ne_of_lookup_none (hlookup : entries.lookup key = none) {entry : κ × β}
    (hentry : entry ∈ entries) : entry.1 ≠ key := by
  rintro rfl
  exact absurd hlookup (by simpa using ⟨entry.2, hentry⟩)

/-- The entries after an assignment. -/
def assign (key : κ) (value : β) : List (κ × β) → List (κ × β)
  | [] => [(key, value)]
  | entry :: rest =>
      if entry.1 = key then (key, value) :: rest else entry :: assign key value rest

theorem lookup_assign_self : (assign key value entries).lookup key = some value := by
  induction entries with
  | nil => exact List.lookup_cons_self
  | cons entry rest ih =>
      unfold assign
      split
      · exact List.lookup_cons_self
      · rename_i hentry
        rw [List.lookup_cons, beq_false_of_ne (Ne.symm hentry)]
        exact ih

theorem lookup_assign_other (hother : other ≠ key) :
    (assign key value entries).lookup other = entries.lookup other := by
  induction entries with
  | nil =>
      show List.lookup other [(key, value)] = none
      rw [List.lookup_cons, beq_false_of_ne hother]
      rfl
  | cons entry rest ih =>
      unfold assign
      split
      · rename_i hentry
        rw [List.lookup_cons, List.lookup_cons, hentry, beq_false_of_ne hother]
      · rw [List.lookup_cons, List.lookup_cons, ih]

/-- To assign what is there changes nothing. -/
theorem assign_of_lookup (hlookup : entries.lookup key = some value) :
    assign key value entries = entries := by
  induction entries with
  | nil => cases hlookup
  | cons entry rest ih =>
      unfold assign
      split
      · rename_i hentry
        rw [List.lookup_cons, hentry, beq_self_eq_true] at hlookup
        cases hlookup
        rw [← hentry]
      · rename_i hentry
        rw [List.lookup_cons, beq_false_of_ne (Ne.symm hentry)] at hlookup
        rw [ih hlookup]

/-- An entry is the assigned one or was there before. -/
theorem mem_of_mem_assign {entry : κ × β} (hentry : entry ∈ assign key value entries) :
    entry = (key, value) ∨ entry ∈ entries := by
  induction entries with
  | nil => exact .inl (List.mem_singleton.mp hentry)
  | cons first rest ih =>
      unfold assign at hentry
      split at hentry
      · exact (List.mem_cons.mp hentry).imp_right (List.mem_cons_of_mem first)
      · rcases List.mem_cons.mp hentry with rfl | hentry
        · exact .inr List.mem_cons_self
        · exact (ih hentry).imp_right (List.mem_cons_of_mem first)

/-- Different keys stay different. -/
theorem nodup_assign (hnodup : (entries.map (·.1)).Nodup) :
    ((assign key value entries).map (·.1)).Nodup := by
  induction entries with
  | nil => exact List.nodup_singleton key
  | cons first rest ih =>
      rw [List.map_cons, List.nodup_cons] at hnodup
      unfold assign
      split
      · rename_i hfirst
        rw [List.map_cons, List.nodup_cons]
        exact hfirst ▸ hnodup
      · rename_i hfirst
        rw [List.map_cons, List.nodup_cons]
        refine ⟨fun hmem => ?_, ih hnodup.2⟩
        obtain ⟨entry, hentry, hkey⟩ := List.mem_map.mp hmem
        rcases mem_of_mem_assign hentry with rfl | hentry
        · exact hfirst hkey.symm
        · exact hnodup.1 (hkey ▸ List.mem_map_of_mem hentry)

/-! ## The assignments of a list of items -/

section

variable {ι : Type*} {assigns : ι → Nat → Option (κ × β)} {items : List ι} {item : ι} {i : Nat}

/-- The entries after the assignment of one item, if it makes one. -/
def assignItem (assigns : ι → Nat → Option (κ × β)) (entries : List (κ × β)) :
    ι × Nat → List (κ × β)
  | (item, i) =>
      match assigns item i with
      | some (key, value) => assign key value entries
      | none => entries

/-- The entries after the assignments of all items, each of which knows its position. -/
def assignItems (assigns : ι → Nat → Option (κ × β)) (items : List ι) : List (κ × β) :=
  items.zipIdx.foldl (assignItem assigns) []

theorem assign_items_append :
    assignItems assigns (items ++ [item]) =
      assignItem assigns (assignItems assigns items) (item, items.length) := by
  rw [assignItems, List.zipIdx_append, List.foldl_append, Nat.zero_add]
  rfl

omit [DecidableEq κ]

/-- The item at a position assigns the value to the key. -/
def AssignsAt (assigns : ι → Nat → Option (κ × β)) (items : List ι) (i : Nat) (key : κ)
    (value : β) : Prop :=
  ∃ item, items[i]? = some item ∧ assigns item i = some (key, value)

/-- No item behind the position assigns to the key. -/
def LastAt (assigns : ι → Nat → Option (κ × β)) (items : List ι) (i : Nat) (key : κ) : Prop :=
  ∀ j value, i < j → ¬ AssignsAt assigns items j key value

theorem AssignsAt.lt_length (h : AssignsAt assigns items i key value) : i < items.length := by
  obtain ⟨item, hitem, -⟩ := h
  exact (List.getElem?_eq_some_iff.mp hitem).1

theorem assigns_at_append :
    AssignsAt assigns (items ++ [item]) i key value ↔
      AssignsAt assigns items i key value ∨
        i = items.length ∧ assigns item i = some (key, value) := by
  rcases Nat.lt_trichotomy i items.length with hi | rfl | hi
  · unfold AssignsAt
    rw [List.getElem?_append_left hi]
    exact (or_iff_left fun h => Nat.lt_irrefl _ (h.1 ▸ hi)).symm
  · unfold AssignsAt
    rw [List.getElem?_concat_length]
    refine ⟨fun ⟨_, hitem, h⟩ => .inr ⟨rfl, Option.some.inj hitem ▸ h⟩, ?_⟩
    rintro (h | ⟨-, h⟩)
    · exact absurd (AssignsAt.lt_length h) (Nat.lt_irrefl _)
    · exact ⟨item, rfl, h⟩
  · refine iff_of_false (fun h => ?_) ?_
    · have hlength := h.lt_length
      rw [List.length_append, List.length_singleton] at hlength
      omega
    · rintro (h | h)
      · exact absurd h.lt_length (Nat.lt_asymm hi)
      · exact Nat.lt_irrefl _ (h.1 ▸ hi)

/-- A last item that assigns to the key is the last that does. -/
theorem last_at_append_iff (hassigns : assigns item items.length = some (key, value)) :
    LastAt assigns (items ++ [item]) i key ↔ items.length ≤ i := by
  refine ⟨fun hlast => Nat.le_of_not_lt fun hi => ?_, fun hi j other hj h => ?_⟩
  · exact hlast items.length value hi (assigns_at_append.mpr (.inr ⟨rfl, hassigns⟩))
  · have hlength := h.lt_length
    rw [List.length_append, List.length_singleton] at hlength
    omega

/-- A last item that does not assign to the key leaves what is last. -/
theorem last_at_append_other (hassigns : ∀ value, assigns item items.length ≠ some (key, value)) :
    LastAt assigns (items ++ [item]) i key ↔ LastAt assigns items i key := by
  refine ⟨fun hlast j other hj h => hlast j other hj (assigns_at_append.mpr (.inl h)),
    fun hlast j other hj h => ?_⟩
  rcases assigns_at_append.mp h with h | ⟨rfl, h⟩
  · exact hlast j other hj h
  · exact hassigns other h

end

variable {ι : Type*} {assigns : ι → Nat → Option (κ × β)} {items : List ι} {item : ι} {i : Nat}

theorem lookup_assign_item_self (hassigns : assigns item i = some (key, value)) :
    (assignItem assigns entries (item, i)).lookup key = some value := by
  rw [assignItem, hassigns]
  exact lookup_assign_self

theorem lookup_assign_item_other (hassigns : ∀ value, assigns item i ≠ some (key, value)) :
    (assignItem assigns entries (item, i)).lookup key = entries.lookup key := by
  rw [assignItem]
  split
  · rename_i name value heq
    exact lookup_assign_other fun h => hassigns value (h ▸ heq)
  · rfl

/-- A key has the value of its last assignment. -/
theorem lookup_assign_items :
    (assignItems assigns items).lookup key = some value ↔
      ∃ i, AssignsAt assigns items i key value ∧ LastAt assigns items i key := by
  induction items using List.reverseRecOn generalizing value with
  | nil =>
      refine iff_of_false (fun h => by cases h) ?_
      rintro ⟨i, h, -⟩
      exact Nat.not_lt_zero i h.lt_length
  | append_singleton items item ih =>
      rw [assign_items_append]
      -- Whether the last item assigns to the key decides.
      by_cases hkey : ∃ assigned, assigns item items.length = some (key, assigned)
      · obtain ⟨assigned, hassigns⟩ := hkey
        rw [lookup_assign_item_self hassigns]
        refine ⟨fun h => ⟨items.length, ?_, (last_at_append_iff hassigns).mpr (Nat.le_refl _)⟩, ?_⟩
        · exact assigns_at_append.mpr (.inr ⟨rfl, Option.some.inj h ▸ hassigns⟩)
        · rintro ⟨i, h, hlast⟩
          have hi := (last_at_append_iff hassigns).mp hlast
          rcases assigns_at_append.mp h with h | ⟨rfl, h⟩
          · exact absurd h.lt_length (Nat.not_lt.mpr hi)
          · cases hassigns.symm.trans h
            rfl
      · have hother : ∀ assigned, assigns item items.length ≠ some (key, assigned) :=
          fun assigned h => hkey ⟨assigned, h⟩
        rw [lookup_assign_item_other hother, ih]
        refine exists_congr fun i => and_congr ?_ (last_at_append_other hother).symm
        rw [assigns_at_append]
        refine (or_iff_left ?_).symm
        rintro ⟨rfl, h⟩
        exact hother value h

/-- A key that an item assigns to has a value. -/
theorem exists_lookup_assign_items (hassigns : AssignsAt assigns items i key value) :
    ∃ last, (assignItems assigns items).lookup key = some last := by
  induction items using List.reverseRecOn with
  | nil => exact absurd hassigns.lt_length (Nat.not_lt_zero i)
  | append_singleton items item ih =>
      rw [assign_items_append]
      by_cases hkey : ∃ assigned, assigns item items.length = some (key, assigned)
      · obtain ⟨assigned, hassigned⟩ := hkey
        exact ⟨assigned, lookup_assign_item_self hassigned⟩
      · rw [lookup_assign_item_other fun assigned h => hkey ⟨assigned, h⟩]
        rcases assigns_at_append.mp hassigns with h | ⟨rfl, h⟩
        · exact ih h
        · exact absurd ⟨value, h⟩ hkey

/-- A key that no item assigns to has no value. -/
theorem lookup_assign_items_none
    (hnone : ∀ i value, ¬ AssignsAt assigns items i key value) :
    (assignItems assigns items).lookup key = none := by
  cases hlookup : (assignItems assigns items).lookup key with
  | none => rfl
  | some value =>
      obtain ⟨i, h, -⟩ := lookup_assign_items.mp hlookup
      exact absurd h (hnone i value)

end Library
