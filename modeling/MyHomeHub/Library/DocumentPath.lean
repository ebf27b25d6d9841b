import MyHomeHub.JavaScript.Object

/-!
# Updates of dotted paths

`$set` and `$unset` of a document database name the fields they change by dotted paths: a
path leads from an entry of the document into the objects and arrays below it. Missing
objects on the way of a `$set` are created, and a `$set` through any other value is
refused, as are two updates of which one leads into the other. An update operation is
applied as a whole or refused as a whole.

Each entry of the document changes by the updates whose path begins with its name and by
no others, which is `lookup_apply_all`.
-/

namespace Library.DocumentPath

open JavaScript

/-- The components of a dotted path. -/
def components (path : String) : List String :=
  (path.toList.splitOn '.').map String.ofList

/-- The position in an array that a component names. -/
def arrayIndex? (component : String) : Option Nat :=
  component.toNat?.filter fun index => index.repr = component

/-- The objects that a `$set` creates on its way. -/
def nest : List String → Value → Value
  | [], value => value
  | component :: rest, value => .object [(component, nest rest value)]

/-- The fields of an object after a field was set or removed. -/
def putField (fields : List (String × Value)) (name : String) : Option Value →
    List (String × Value)
  | none => fields.filter fun field => field.1 ≠ name
  | some value =>
      if fields.any fun field => field.1 = name then
        fields.map fun field => if field.1 = name then (name, value) else field
      else fields ++ [(name, value)]

/-- The elements of an array after an element was set or unset: a missing element is padded with
null, and an unset element becomes null. -/
def putElement (elements : List Value) (index : Nat) : Option Value → List Value
  | none => elements.set index .null
  | some value =>
      if index < elements.length then elements.set index value
      else elements ++ List.replicate (index - elements.length) .null ++ [value]

/-- A field of a document after the value at a path below it was set, or unset when there is no new
value; `none` when the change is refused. -/
def changeAt : List String → Option Value → Option Value → Option (Option Value)
  | [], change, _ => some change
  | component :: rest, change, none => some (change.map (nest (component :: rest)))
  | component :: rest, change, some (.object fields) =>
      (changeAt rest change (fields.lookup component)).map fun field =>
        some (.object (putField fields component field))
  | component :: rest, change, some (.array elements) =>
      match arrayIndex? component with
      | none => if change.isSome then none else some (some (.array elements))
      | some index =>
          (changeAt rest change elements[index]?).map fun element =>
            some (.array (putElement elements index element))
  | _ :: _, change, some value => if change.isSome then none else some (some value)

/-- One update: a path, and the value to set or none to unset. -/
structure FieldUpdate where
  path : List String
  change : Option Value

/-- The entries of a document after an entry was set or removed. -/
def putEntry (document : Object Value) (name : String) : Option Value → Object Value
  | none => document.erase name
  | some value => document.insert name value

/-- The document after one update. -/
def FieldUpdate.apply (document : Object Value) (update : FieldUpdate) : Option (Object Value) :=
  match update.path with
  | [] => none
  | name :: rest =>
      (changeAt rest update.change (document.lookup name)).map (putEntry document name)

/-- The document after all updates. -/
def applyAll (updates : List FieldUpdate) (document : Object Value) : Option (Object Value) :=
  updates.foldlM FieldUpdate.apply document

/-- One path leads into the other. -/
def Conflict (a b : FieldUpdate) : Prop :=
  a.path <+: b.path ∨ b.path <+: a.path

instance : DecidableRel Conflict :=
  fun a b => inferInstanceAs (Decidable (a.path <+: b.path ∨ b.path <+: a.path))

/-- No two updates conflict, and the database accepts every path. -/
def Acceptable (acceptsPath : List String → Bool) (updates : List FieldUpdate) : Prop :=
  (∀ update ∈ updates, acceptsPath update.path = true) ∧
    updates.Pairwise fun a b => ¬ Conflict a b

instance (acceptsPath : List String → Bool) (updates : List FieldUpdate) :
    Decidable (Acceptable acceptsPath updates) :=
  inferInstanceAs (Decidable (_ ∧ _))

/-- What an update makes of the entry of a name. -/
def entryStep (name : String) (entry : Option Value) (update : FieldUpdate) :
    Option (Option Value) :=
  match update.path with
  | [] => none
  | first :: rest => if first = name then changeAt rest update.change entry else some entry

/-- The updates of the entry of a name. -/
def updatesOf (updates : List FieldUpdate) (name : String) : List FieldUpdate :=
  updates.filter fun update => update.path.head? = some name

variable {updates : List FieldUpdate} {document final : Object Value} {name : String}
  {entry : Option Value}

/-! ## Paths -/

theorem components_ne_nil (path : String) : components path ≠ [] := by
  simp [components, List.splitOn_ne_nil]

/-- A path of one component is that component. -/
theorem eq_of_components {path component : String} (h : components path = [component]) :
    path = component := by
  unfold components at h
  obtain ⟨chars, hchars, rfl⟩ := List.map_eq_singleton_iff.mp h
  have hjoin : ['.'].intercalate (path.toList.splitOn '.') = path.toList :=
    List.intercalate_splitOn _
  rw [hchars, List.intercalate_singleton] at hjoin
  rw [hjoin, String.ofList_toList]

theorem components_injective : Function.Injective components := by
  intro path other h
  unfold components at h
  have hpieces := List.map_injective_iff.mpr (fun a b h => String.ofList_injective h) h
  have hjoin : ['.'].intercalate (path.toList.splitOn '.') = path.toList :=
    List.intercalate_splitOn _
  rw [hpieces, List.intercalate_splitOn] at hjoin
  exact String.toList_injective hjoin.symm

/-- A name without a dot is a path of its own. -/
theorem components_of_no_dot {name : String} (h : '.' ∉ name.toList) :
    components name = [name] := by
  rw [components, List.splitOn_eq_singleton h, List.map_singleton, String.ofList_toList]

/-- No path begins with a name that holds a dot. -/
theorem no_dot_of_head {path first : String} (h : (components path).head? = some first) :
    '.' ∉ first.toList := by
  by_cases hdot : '.' ∈ path.toList
  · obtain ⟨before, behind, hsplit, hbefore⟩ := List.eq_append_cons_of_mem hdot
    rw [components, hsplit, List.splitOn_append_cons_self_of_not_mem hbefore, List.map_cons,
      List.head?_cons, Option.some.injEq] at h
    rwa [← h, String.toList_ofList]
  · rw [components_of_no_dot hdot, List.head?_cons, Option.some.injEq] at h
    rwa [← h]

/-! ## Entries -/

theorem lookup_put_entry (document : Object Value) (name other : String) (entry : Option Value) :
    (putEntry document name entry).lookup other =
      if other = name then entry else document.lookup other := by
  by_cases hother : other = name
  · subst hother
    cases entry with
    | none => simp [putEntry]
    | some value => simp [putEntry]
  · rw [if_neg hother]
    cases entry with
    | none => exact AList.lookup_erase_ne hother
    | some value => exact AList.lookup_insert_ne hother

theorem lookup_apply {update : FieldUpdate} (h : update.apply document = some final)
    (name : String) :
    entryStep name (document.lookup name) update = some (final.lookup name) := by
  unfold FieldUpdate.apply at h
  unfold entryStep
  cases hpath : update.path with
  | nil => simp [hpath] at h
  | cons first rest =>
      simp only [hpath, Option.map_eq_some_iff] at h
      obtain ⟨changed, hchanged, rfl⟩ := h
      dsimp only
      rw [lookup_put_entry]
      by_cases hfirst : first = name
      · subst hfirst
        rw [if_pos rfl, if_pos rfl, hchanged]
      · rw [if_neg hfirst, if_neg (Ne.symm hfirst)]

/-- Every entry changes by the updates of its name. -/
theorem lookup_apply_all (h : applyAll updates document = some final) (name : String) :
    updates.foldlM (entryStep name) (document.lookup name) = some (final.lookup name) := by
  induction updates generalizing document with
  | nil =>
      cases h
      rfl
  | cons update updates ih =>
      rw [applyAll, List.foldlM_cons] at h
      obtain ⟨next, hnext, hrest⟩ := Option.bind_eq_some_iff.mp h
      rw [List.foldlM_cons, lookup_apply hnext name]
      exact ih hrest

/-- Updates of other names leave an entry. -/
theorem foldl_m_entry_step (hpaths : ∀ update ∈ updates, update.path ≠ []) :
    updates.foldlM (entryStep name) entry =
      (updatesOf updates name).foldlM (entryStep name) entry := by
  induction updates generalizing entry with
  | nil => rfl
  | cons update updates ih =>
      have hrest (entry : Option Value) : updates.foldlM (entryStep name) entry =
          (updatesOf updates name).foldlM (entryStep name) entry :=
        ih fun other hother => hpaths other (List.mem_cons_of_mem _ hother)
      have hpath := hpaths update List.mem_cons_self
      obtain ⟨first, rest, hcons⟩ := List.exists_cons_of_ne_nil hpath
      by_cases hfirst : first = name
      · have hmem : updatesOf (update :: updates) name = update :: updatesOf updates name := by
          simp [updatesOf, hcons, hfirst]
        rw [hmem, List.foldlM_cons, List.foldlM_cons]
        exact congrArg _ (funext hrest)
      · have hmem : updatesOf (update :: updates) name = updatesOf updates name := by
          simp [updatesOf, hcons, hfirst]
        have hstep : entryStep name entry update = some entry := by
          simp [entryStep, hcons, hfirst]
        rw [hmem, List.foldlM_cons, hstep]
        exact hrest entry

theorem prefix_of_head {a b : FieldUpdate} (ha : a.path = [name])
    (hb : b.path.head? = some name) : a.path <+: b.path := by
  obtain ⟨rest, hrest⟩ := List.head?_eq_some_iff.mp hb
  rw [ha, hrest]
  exact ⟨rest, rfl⟩

/-- Of updates without conflicts, the one of a whole entry is the only one of its name. -/
theorem updates_of_whole_entry {update : FieldUpdate} (hupdate : update ∈ updates)
    (hpath : update.path = [name]) (hconflicts : updates.Pairwise fun a b => ¬ Conflict a b) :
    updatesOf updates name = [update] := by
  have hhead : update.path.head? = some name := by rw [hpath, List.head?_cons]
  induction updates with
  | nil => cases hupdate
  | cons first updates ih =>
      obtain ⟨hfirst, hrest⟩ := List.pairwise_cons.mp hconflicts
      rcases List.mem_cons.mp hupdate with rfl | hmem
      · have hnone : updatesOf updates name = [] := by
          refine List.filter_eq_nil_iff.mpr fun other hother hname => ?_
          exact hfirst other hother (.inl (prefix_of_head hpath (of_decide_eq_true hname)))
        unfold updatesOf at hnone ⊢
        rw [List.filter_cons_of_pos (by simpa using hhead), hnone]
      · have hother : first.path.head? ≠ some name := fun hname =>
          hfirst update hmem (.inr (prefix_of_head hpath hname))
        rw [updatesOf, List.filter_cons_of_neg (by simpa using hother)]
        exact ih hmem hrest

/-- An entry that no path begins with stays as it is. -/
theorem lookup_untouched (h : applyAll updates document = some final)
    (hpaths : ∀ update ∈ updates, update.path ≠ [])
    (hnone : ∀ update ∈ updates, update.path.head? ≠ some name) :
    final.lookup name = document.lookup name := by
  have hentry := lookup_apply_all h name
  have hempty : updatesOf updates name = [] :=
    List.filter_eq_nil_iff.mpr fun update hupdate hhead =>
      hnone update hupdate (of_decide_eq_true hhead)
  rw [foldl_m_entry_step hpaths, hempty] at hentry
  exact (Option.some.inj hentry).symm

/-- The update of a whole entry decides it. -/
theorem lookup_whole_entry {update : FieldUpdate} (h : applyAll updates document = some final)
    (hpaths : ∀ update ∈ updates, update.path ≠ [])
    (hconflicts : updates.Pairwise fun a b => ¬ Conflict a b) (hupdate : update ∈ updates)
    (hpath : update.path = [name]) : final.lookup name = update.change := by
  have hentry := lookup_apply_all h name
  have hstep : entryStep name (document.lookup name) update = some update.change := by
    simp [entryStep, hpath, changeAt]
  rw [foldl_m_entry_step hpaths, updates_of_whole_entry hupdate hpath hconflicts,
    List.foldlM_cons, hstep] at hentry
  exact (Option.some.inj hentry).symm

/-- Updates of whole entries are carried out on every document. -/
theorem apply_all_of_whole_entries (document : Object Value)
    (h : ∀ update ∈ updates, ∃ name, update.path = [name]) :
    ∃ final, applyAll updates document = some final := by
  induction updates generalizing document with
  | nil => exact ⟨document, rfl⟩
  | cons update updates ih =>
      obtain ⟨name, hpath⟩ := h update List.mem_cons_self
      have hstep : update.apply document = some (putEntry document name update.change) := by
        simp [FieldUpdate.apply, hpath, changeAt]
      obtain ⟨final, hfinal⟩ := ih (putEntry document name update.change) fun other hother =>
        h other (List.mem_cons_of_mem _ hother)
      refine ⟨final, ?_⟩
      rw [applyAll, List.foldlM_cons, hstep]
      exact hfinal

/-- Updates of different whole entries do not conflict. -/
theorem no_conflict_of_whole_entries (h : ∀ update ∈ updates, ∃ name, update.path = [name])
    (hunique : (updates.map (·.path)).Nodup) : updates.Pairwise fun a b => ¬ Conflict a b := by
  refine (List.pairwise_map.mp hunique).imp_of_mem fun {a b} ha hb hne hconflict => hne ?_
  obtain ⟨first, hfirst⟩ := h a ha
  obtain ⟨second, hsecond⟩ := h b hb
  rw [Conflict, hfirst, hsecond] at hconflict
  rw [hfirst, hsecond]
  rcases hconflict with hbegins | hbegins
  · exact hbegins.eq_of_length rfl
  · exact (hbegins.eq_of_length rfl).symm

end Library.DocumentPath
