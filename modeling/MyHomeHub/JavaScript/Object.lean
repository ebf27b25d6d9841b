import MyHomeHub.JavaScript.Value

/-!
# ECMAScript objects used as records

An `Object α` is a finite map from property names to values that keeps the order in which
the names were first assigned. Property reads are `lookup`, `{ ...base, ...overriding }` is
`spread`, and a loop of property assignments is `ofAssignments`. Two objects are deeply
equal when they have the same lookups, whatever the order of their entries, which is
`SameFields`.

The order of integer-like property names is not modelled, and neither are writes to
`__proto__`.
-/

namespace JavaScript

/-- A plain object whose own properties hold values of type `α`. -/
abbrev Object (α : Type) := AList fun _ : String => α

namespace Object

variable {α : Type}

/-- The names every object inherits from `Object.prototype`. -/
def prototypeNames : List String :=
  ["constructor", "hasOwnProperty", "isPrototypeOf", "propertyIsEnumerable", "toLocaleString",
    "toString", "valueOf", "__proto__", "__defineGetter__", "__defineSetter__",
    "__lookupGetter__", "__lookupSetter__"]

/-- `name in object`: own or inherited. -/
def hasProperty (object : Object α) (name : String) : Bool :=
  (object.lookup name).isSome || prototypeNames.contains name

/-- `object[name]` of an own property, undefined when it is absent. -/
def get (object : Object Value) (name : String) : Value :=
  .ofOption (object.lookup name)

/-- Whether `object[name]` is null or undefined. An inherited property is neither. -/
def isEmptyAt (object : Object Value) (name : String) : Bool :=
  match object.lookup name with
  | some value => value.isNullish
  | none => !prototypeNames.contains name

/-- `object[name] = value`: in its place if the object has the name, behind the others if not. -/
def assign (object : Object α) (name : String) (value : α) : Object α :=
  if hname : name ∈ object then object.replace name value
  else
    { entries := object.entries ++ [⟨name, value⟩]
      nodupKeys := by
        show (List.map Sigma.fst (object.entries ++ [⟨name, value⟩])).Nodup
        rw [List.map_append, List.nodup_append]
        refine ⟨object.keys_nodup, List.nodup_singleton name, fun other hother last hlast => ?_⟩
        rw [List.mem_singleton.mp hlast]
        rintro rfl
        exact hname hother }

/-- The assignments of the entries one after the other: the last assignment to a name wins. -/
def assignAll (object : Object α) (entries : List (Σ _ : String, α)) : Object α :=
  entries.foldl (fun object entry => object.assign entry.1 entry.2) object

/-- `{ ...base, ...overriding }`. -/
def spread (base overriding : Object α) : Object α :=
  base.assignAll overriding.entries

/-- The object built by assigning the entries one after the other. -/
def ofAssignments (entries : List (Σ _ : String, α)) : Object α :=
  assignAll ∅ entries

/-- Deep equality: the same names with the same values. -/
def SameFields (a b : Object α) : Prop :=
  ∀ name, a.lookup name = b.lookup name

/-- The executable form of `SameFields`. -/
def sameFields [DecidableEq α] (a b : Object α) : Bool :=
  (a.keys ++ b.keys).all fun name => a.lookup name = b.lookup name

/-! ## Deep equality -/

/-- `sameFields` decides `SameFields`. -/
theorem same_fields_iff [DecidableEq α] {a b : Object α} :
    sameFields a b = true ↔ SameFields a b := by
  simp only [sameFields, List.all_eq_true, decide_eq_true_eq, List.mem_append]
  constructor
  · intro h name
    by_cases hname : name ∈ a.keys ∨ name ∈ b.keys
    · exact h name hname
    · rw [not_or] at hname
      rw [AList.lookup_eq_none.mpr hname.1, AList.lookup_eq_none.mpr hname.2]
  · exact fun h name _ => h name

theorem SameFields.symm {a b : Object α} (h : SameFields a b) : SameFields b a :=
  fun name => (h name).symm

/-! ## Reading -/

/-- A property of all entries is a property of all lookups. -/
theorem forall_entries {object : Object α} {p : String → α → Prop} :
    (∀ entry ∈ object.entries, p entry.1 entry.2) ↔
      ∀ name value, object.lookup name = some value → p name value := by
  constructor
  · intro h name value hlookup
    exact h ⟨name, value⟩ (AList.mem_lookup_iff.mp hlookup)
  · intro h entry hentry
    exact h entry.1 entry.2 (AList.mem_lookup_iff.mpr hentry)

/-- A name is present when it has a value. -/
theorem mem_iff_lookup {object : Object α} {name : String} :
    name ∈ object ↔ ∃ value, object.lookup name = some value := by
  rw [← AList.lookup_isSome, Option.isSome_iff_exists]

/-! ## Assignments -/

/-- A replaced value is found under its name. -/
theorem dlookup_replaced {entries : List (Σ _ : String, α)} {name : String} {value : α}
    (hname : name ∈ entries.keys) (other : String) :
    (entries.kreplace name value).dlookup other =
      if other = name then some value else entries.dlookup other := by
  induction entries with
  | nil => cases hname
  | cons entry rest ih =>
      obtain ⟨first, old⟩ := entry
      by_cases hfirst : name = first
      · subst hfirst
        have hreplaced : List.kreplace name value (⟨name, old⟩ :: rest) =
            ⟨name, value⟩ :: rest := List.lookmap_cons_some _ _ (dif_pos rfl)
        rw [hreplaced]
        split
        · rename_i hother
          rw [hother, List.dlookup_cons_eq]
        · rename_i hother
          rw [List.dlookup_cons_ne _ _ hother, List.dlookup_cons_ne _ _ hother]
      · have hreplaced : List.kreplace name value (⟨first, old⟩ :: rest) =
            ⟨first, old⟩ :: rest.kreplace name value :=
          List.lookmap_cons_none _ _ (dif_neg hfirst)
        rw [List.keys_cons, List.mem_cons, or_iff_right hfirst] at hname
        rw [hreplaced]
        by_cases hother : other = first
        · subst hother
          rw [List.dlookup_cons_eq, List.dlookup_cons_eq, if_neg (Ne.symm hfirst)]
        · rw [List.dlookup_cons_ne _ _ hother, List.dlookup_cons_ne _ _ hother, ih hname]

/-- An assignment is read back, and the other names keep their values. -/
theorem lookup_assign (object : Object α) (name : String) (value : α) (other : String) :
    (object.assign name value).lookup other =
      if other = name then some value else object.lookup other := by
  unfold assign
  split
  · rename_i hname
    exact dlookup_replaced hname other
  · rename_i hname
    show List.dlookup other (object.entries ++ [⟨name, value⟩]) = _
    rw [List.dlookup_append]
    split
    · rename_i hother
      have hnone : object.entries.dlookup other = none := by
        rw [List.dlookup_eq_none, hother]
        exact hname
      rw [hnone, hother, List.dlookup_cons_eq, Option.none_or]
    · rename_i hother
      rw [List.dlookup_cons_ne _ _ hother, List.dlookup_nil, Option.or_none]
      rfl

/-- A name reads as its last assignment, or as before if it was not assigned. -/
theorem lookup_assign_all (object : Object α) (entries : List (Σ _ : String, α)) (name : String) :
    (object.assignAll entries).lookup name =
      (entries.reverse.dlookup name).or (object.lookup name) := by
  induction entries using List.reverseRecOn with
  | nil => rfl
  | append_singleton entries entry ih =>
      obtain ⟨last, value⟩ := entry
      rw [assignAll, List.foldl_append]
      show ((object.assignAll entries).assign last value).lookup name = _
      rw [lookup_assign, ih, List.reverse_append]
      split
      · rename_i hname
        rw [hname]
        show _ = Option.or (List.dlookup last (⟨last, value⟩ :: entries.reverse)) _
        rw [List.dlookup_cons_eq, Option.some_or]
      · rename_i hname
        show _ = Option.or (List.dlookup name (⟨last, value⟩ :: entries.reverse)) _
        rw [List.dlookup_cons_ne _ _ hname]

/-- The last assignment to a name is what an assignment loop leaves. -/
theorem lookup_assignments (entries : List (Σ _ : String, α)) (name : String) :
    (ofAssignments entries).lookup name = entries.reverse.dlookup name := by
  rw [ofAssignments, lookup_assign_all, AList.lookup_empty, Option.or_none]

/-- Every value of an assignment loop was assigned. -/
theorem mem_of_lookup_of_assignments {entries : List (Σ _ : String, α)} {name : String}
    {value : α} (h : (ofAssignments entries).lookup name = some value) :
    ⟨name, value⟩ ∈ entries := by
  rw [lookup_assignments] at h
  exact List.mem_reverse.mp (List.of_mem_dlookup h)

/-- The names of an assignment loop are the assigned ones. -/
theorem mem_of_assignments {entries : List (Σ _ : String, α)} {name : String} :
    name ∈ ofAssignments entries ↔ ∃ value, ⟨name, value⟩ ∈ entries := by
  rw [← AList.lookup_isSome, lookup_assignments, List.dlookup_isSome, List.mem_keys]
  simp only [List.mem_reverse]

/-- The last assignment to a name wins. -/
theorem lookup_of_assignments_concat (entries : List (Σ _ : String, α)) (name : String)
    (value : α) : (ofAssignments (entries ++ [⟨name, value⟩])).lookup name = some value := by
  rw [lookup_assignments, List.reverse_append]
  exact List.dlookup_cons_eq _ _ _

/-- When no name is assigned two different values, every assignment is kept. -/
theorem lookup_of_assignments {entries : List (Σ _ : String, α)} {name : String} {value : α}
    (hunique : ∀ a b, ⟨name, a⟩ ∈ entries → ⟨name, b⟩ ∈ entries → a = b) :
    (ofAssignments entries).lookup name = some value ↔ ⟨name, value⟩ ∈ entries := by
  refine ⟨mem_of_lookup_of_assignments, fun h => ?_⟩
  obtain ⟨other, hother⟩ := mem_iff_lookup.mp (mem_of_assignments.mpr ⟨value, h⟩)
  rw [hother, hunique other value (mem_of_lookup_of_assignments hother) h]

/-- Each assignment makes an entry of its own exactly if no name is assigned twice. -/
theorem length_of_assignments_iff {entries : List (Σ _ : String, α)} :
    (ofAssignments entries).entries.length = entries.length ↔
      (entries.map (·.1)).Nodup := by
  have hsame : (ofAssignments entries).keys.toFinset = (entries.map (·.1)).toFinset := by
    ext name
    rw [List.mem_toFinset, List.mem_toFinset, List.mem_map]
    refine mem_of_assignments.trans ⟨?_, ?_⟩
    · rintro ⟨value, hentry⟩
      exact ⟨⟨name, value⟩, hentry, rfl⟩
    · rintro ⟨entry, hentry, rfl⟩
      exact ⟨entry.2, hentry⟩
  have hlength : (ofAssignments entries).entries.length = (entries.map (·.1)).toFinset.card := by
    rw [← hsame, List.toFinset_card_of_nodup (ofAssignments entries).keys_nodup]
    exact (List.length_map _).symm
  rw [hlength]
  refine ⟨fun hcard => ?_, fun hnodup => ?_⟩
  · exact Multiset.toFinset_card_eq_card_iff_nodup.mp (hcard.trans (List.length_map _).symm)
  · exact (List.toFinset_card_of_nodup hnodup).trans (List.length_map _)

/-- Copying some of the entries keeps exactly those. -/
theorem lookup_of_filter {object : Object α} {p : (Σ _ : String, α) → Bool} {name : String}
    {value : α} :
    (ofAssignments (object.entries.filter p)).lookup name = some value ↔
      object.lookup name = some value ∧ p ⟨name, value⟩ = true := by
  rw [lookup_of_assignments, List.mem_filter, AList.mem_lookup_iff.symm]
  · rfl
  · intro a b ha hb
    have hfirst := AList.mem_lookup_iff.mpr (List.mem_of_mem_filter ha)
    have hsecond := AList.mem_lookup_iff.mpr (List.mem_of_mem_filter hb)
    exact Option.some.inj (hfirst.symm.trans hsecond)

/-! ## Spreading -/

/-- A spread reads the overriding object first. -/
theorem lookup_spread (base overriding : Object α) (name : String) :
    (spread base overriding).lookup name =
      (overriding.lookup name).or (base.lookup name) := by
  have hreversed : overriding.entries.reverse.dlookup name = overriding.lookup name :=
    List.perm_dlookup name
      ((List.perm_nodupKeys overriding.entries.reverse_perm).mpr overriding.nodupKeys)
      overriding.entries.reverse_perm
  rw [spread, lookup_assign_all, hreversed]

@[simp] theorem mem_spread {base overriding : Object α} {name : String} :
    name ∈ spread base overriding ↔ name ∈ overriding ∨ name ∈ base := by
  rw [← AList.lookup_isSome, lookup_spread, Option.isSome_or, Bool.or_eq_true, AList.lookup_isSome,
    AList.lookup_isSome]

end Object

end JavaScript
