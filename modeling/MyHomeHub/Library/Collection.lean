import Mathlib.Data.List.Perm.Basic
import Mathlib.Data.List.Pairwise

/-!
# Document collections with unique indexes

A collection is a list of documents in their natural order together with the proof that
its unique indexes hold. An index gives a document at most one key, and no two documents
share a key of an index. A write that would duplicate a key is refused, so a collection
with a duplicate cannot be built.
-/

namespace Library

variable {Doc Key : Type}

/-- Two documents share no key of the indexes. -/
def KeysDiffer (indexes : List (Doc → Option Key)) (a b : Doc) : Prop :=
  ∀ index ∈ indexes, index a = none ∨ index a ≠ index b

instance [DecidableEq Key] (indexes : List (Doc → Option Key)) :
    DecidableRel (KeysDiffer indexes) := fun a b =>
  inferInstanceAs (Decidable (∀ index ∈ indexes, index a = none ∨ index a ≠ index b))

theorem KeysDiffer.symm {indexes : List (Doc → Option Key)} {a b : Doc}
    (h : KeysDiffer indexes a b) : KeysDiffer indexes b a := by
  intro index hindex
  rcases h index hindex with hnone | hne
  · by_cases hb : index b = none
    · exact .inl hb
    · exact .inr fun heq => hb (heq.trans hnone)
  · exact .inr (Ne.symm hne)

instance (indexes : List (Doc → Option Key)) : Std.Symm (KeysDiffer indexes) :=
  ⟨fun _ _ h => h.symm⟩

/-- Documents in their natural order, of which no two share a key. -/
structure Collection (Doc Key : Type) (indexes : List (Doc → Option Key)) where
  docs : List Doc
  unique : docs.Pairwise (KeysDiffer indexes)

/-- Why a write is refused. -/
inductive WriteError where
  | noDocument
  | duplicateKey
  deriving DecidableEq, Repr

namespace Collection

variable {indexes : List (Doc → Option Key)}

/-- The collection without documents. -/
def empty : Collection Doc Key indexes :=
  ⟨[], List.Pairwise.nil⟩

instance : Inhabited (Collection Doc Key indexes) := ⟨empty⟩

instance : Membership Doc (Collection Doc Key indexes) := ⟨fun c doc => doc ∈ c.docs⟩

/-- Add a document behind the others, unless that would duplicate a key. -/
def insert? [DecidableEq Key] (c : Collection Doc Key indexes) (doc : Doc) :
    Option (Collection Doc Key indexes) :=
  if h : ∀ other ∈ c.docs, KeysDiffer indexes other doc then
    some ⟨c.docs ++ [doc], List.pairwise_append.mpr
      ⟨c.unique, List.pairwise_singleton _ _, fun other hother _ hdoc =>
        List.mem_singleton.mp hdoc ▸ h other hother⟩⟩
  else none

theorem pairwise_set {docs : List Doc} (h : docs.Pairwise (KeysDiffer indexes)) {i : Nat}
    {doc : Doc} (hdoc : ∀ other ∈ docs.eraseIdx i, KeysDiffer indexes doc other) :
    (docs.set i doc).Pairwise (KeysDiffer indexes) := by
  by_cases hi : i < docs.length
  · rw [(List.set_perm_cons_eraseIdx hi doc).pairwise_iff
      (fun {_ _} h => h.symm), List.pairwise_cons]
    exact ⟨hdoc, h.sublist (List.eraseIdx_sublist docs i)⟩
  · rwa [List.set_eq_of_length_le (Nat.le_of_not_lt hi)]

/-- Replace the document at a position, unless that would duplicate a key. -/
def replaceAt? [DecidableEq Key] (c : Collection Doc Key indexes) (i : Nat) (doc : Doc) :
    Option (Collection Doc Key indexes) :=
  if h : ∀ other ∈ c.docs.eraseIdx i, KeysDiffer indexes doc other then
    some ⟨c.docs.set i doc, pairwise_set c.unique h⟩
  else none

/-- Change the first document that satisfies a condition. -/
def updateFirst [DecidableEq Key] (c : Collection Doc Key indexes) (p : Doc → Bool)
    (f : Doc → Doc) : Except WriteError (Collection Doc Key indexes) :=
  match h : c.docs.findIdx? p with
  | none => .error .noDocument
  | some i =>
      have hi : i < c.docs.length := (List.findIdx?_eq_some_iff_getElem.mp h).1
      match c.replaceAt? i (f (c.docs.get ⟨i, hi⟩)) with
      | none => .error .duplicateKey
      | some c' => .ok c'

/-- Keep the documents that satisfy a condition. -/
def filter (c : Collection Doc Key indexes) (p : Doc → Bool) : Collection Doc Key indexes :=
  ⟨c.docs.filter p, c.unique.sublist List.filter_sublist⟩

/-- Change every document without changing its keys. -/
def mapDocs (c : Collection Doc Key indexes) (f : Doc → Doc)
    (hkeys : ∀ doc, ∀ index ∈ indexes, index (f doc) = index doc) :
    Collection Doc Key indexes :=
  ⟨c.docs.map f, List.pairwise_map.mpr (c.unique.imp fun {a b} h index hindex => by
    rw [hkeys a index hindex, hkeys b index hindex]
    exact h index hindex)⟩

/-! ## Membership -/

variable {c c' : Collection Doc Key indexes} {doc other : Doc}

theorem mem_filter {p : Doc → Bool} : doc ∈ (c.filter p) ↔ doc ∈ c ∧ p doc = true :=
  List.mem_filter

theorem mem_map_docs {f : Doc → Doc}
    (hkeys : ∀ doc, ∀ index ∈ indexes, index (f doc) = index doc) :
    doc ∈ (c.mapDocs f hkeys) ↔ ∃ old ∈ c, f old = doc :=
  List.mem_map

/-- After an insertion the new document is there, and the others are unchanged. -/
theorem mem_of_insert [DecidableEq Key] (h : c.insert? doc = some c') :
    other ∈ c' ↔ other ∈ c ∨ other = doc := by
  rw [insert?] at h
  split at h
  · cases h
    show other ∈ c.docs ++ [doc] ↔ _
    rw [List.mem_append, List.mem_singleton]
    rfl
  · cases h

/-- An inserted document shares no key with the others. -/
theorem keys_differ_of_insert [DecidableEq Key] (h : c.insert? doc = some c') (hother : other ∈ c) :
    KeysDiffer indexes other doc := by
  rw [insert?] at h
  split at h
  · rename_i hdiffer
    exact hdiffer other hother
  · cases h

/-- A document whose keys no other document has can be inserted. -/
theorem insert_some [DecidableEq Key] (h : ∀ other ∈ c, KeysDiffer indexes other doc) :
    ∃ c', c.insert? doc = some c' :=
  ⟨_, dif_pos h⟩

/-- Two documents with the same key of an index are the same document. -/
theorem eq_of_key {index : Doc → Option Key} (hindex : index ∈ indexes) {key : Key}
    (hdoc : doc ∈ c) (hother : other ∈ c) (hkey : index doc = some key)
    (hotherKey : index other = some key) : doc = other := by
  by_contra hne
  rcases c.unique.forall hdoc hother hne index hindex with
    hnone | hdiffer
  · rw [hkey] at hnone
    cases hnone
  · exact hdiffer (hkey.trans hotherKey.symm)

/-- No document is there twice if each has a key of an index. -/
theorem nodup_of_key {index : Doc → Option Key} (hindex : index ∈ indexes)
    (hsome : ∀ doc, index doc ≠ none) : c.docs.Nodup := by
  refine c.unique.imp fun {a b} hdiffer hsame => ?_
  rcases hdiffer index hindex with hnone | hne
  · exact hsome a hnone
  · exact hne (congrArg index hsame)

/-- The first document with a key of an index is the only one. -/
theorem find_of_mem [DecidableEq Key] {index : Doc → Option Key} (hindex : index ∈ indexes)
    {key : Key} (hdoc : doc ∈ c) (hkey : index doc = some key) :
    c.docs.find? (fun d => index d = some key) = some doc := by
  cases h : c.docs.find? (fun d => index d = some key) with
  | none => exact absurd hkey (by simpa using List.find?_eq_none.mp h doc hdoc)
  | some found =>
      have hfound : index found = some key := by simpa using List.find?_some h
      exact congrArg some
        (eq_of_key hindex (List.mem_of_find?_eq_some h) hdoc hfound hkey)

/-- The document with a key of an index is the one that is found under it. -/
theorem find_iff [DecidableEq Key] {index : Doc → Option Key} (hindex : index ∈ indexes)
    {key : Key} :
    c.docs.find? (fun d => index d = some key) = some doc ↔ doc ∈ c ∧ index doc = some key := by
  refine ⟨fun h => ⟨List.mem_of_find?_eq_some h, ?_⟩, fun h => find_of_mem hindex h.1 h.2⟩
  simpa using List.find?_some h

/-- After a replacement the new document is there, and only the replaced one is gone. -/
theorem mem_of_replace_at [DecidableEq Key] {i : Nat} (hi : i < c.docs.length)
    (h : c.replaceAt? i doc = some c') :
    other ∈ c' ↔ other = doc ∨ other ∈ c.docs.eraseIdx i := by
  rw [replaceAt?] at h
  split at h
  · cases h
    show other ∈ c.docs.set i doc ↔ _
    rw [(List.set_perm_cons_eraseIdx hi doc).mem_iff, List.mem_cons]
  · cases h

/-- The documents beside one with a key of an index are those without the key. -/
theorem mem_erase_idx_iff {index : Doc → Option Key} (hindex : index ∈ indexes) {i : Nat}
    (hi : i < c.docs.length) {key : Key} (hkey : index c.docs[i] = some key) :
    other ∈ c.docs.eraseIdx i ↔ other ∈ c ∧ index other ≠ some key := by
  have hperm := List.getElem_cons_eraseIdx_perm hi
  have hunique : (c.docs[i] :: c.docs.eraseIdx i).Pairwise (KeysDiffer indexes) :=
    (hperm.pairwise_iff (fun {_ _} h => h.symm)).mpr c.unique
  constructor
  · intro hother
    refine ⟨(List.eraseIdx_sublist c.docs i).subset hother, fun hotherKey => ?_⟩
    rcases (List.pairwise_cons.mp hunique).1 other hother index hindex with hnone | hdiffer
    · rw [hkey] at hnone
      cases hnone
    · exact hdiffer (hkey.trans hotherKey.symm)
  · intro h
    obtain ⟨hother, hne⟩ := h
    have hmem : other ∈ c.docs[i] :: c.docs.eraseIdx i := hperm.mem_iff.mpr hother
    rcases List.mem_cons.mp hmem with rfl | hmem
    · exact absurd hkey hne
    · exact hmem

/-- After an update the document with the key is changed, and the others are unchanged. -/
theorem mem_of_update_first [DecidableEq Key] {index : Doc → Option Key}
    (hindex : index ∈ indexes) {key : Key} {f : Doc → Doc}
    (h : c.updateFirst (fun doc => index doc = some key) f = .ok c') :
    ∃ old ∈ c, index old = some key ∧
      ∀ other, other ∈ c' ↔ other = f old ∨ (other ∈ c ∧ index other ≠ some key) := by
  unfold updateFirst at h
  split at h
  · cases h
  · rename_i i hfind
    obtain ⟨hi, hp, -⟩ := List.findIdx?_eq_some_iff_getElem.mp hfind
    have hkey : index c.docs[i] = some key := by simpa using hp
    dsimp only at h
    split at h
    · cases h
    · rename_i c'' hreplace
      cases h
      refine ⟨c.docs[i], List.getElem_mem hi, hkey, fun other => ?_⟩
      rw [mem_of_replace_at hi hreplace, mem_erase_idx_iff hindex hi hkey, List.get_eq_getElem]

/-- After an update a document that was stored under the key is changed, and the others are
unchanged. -/
theorem mem_of_update_stored [DecidableEq Key] {index : Doc → Option Key}
    (hindex : index ∈ indexes) {key : Key} {f : Doc → Doc} (hdoc : doc ∈ c)
    (hkey : index doc = some key)
    (h : c.updateFirst (fun doc => index doc = some key) f = .ok c') (other : Doc) :
    other ∈ c' ↔ other = f doc ∨ (other ∈ c ∧ index other ≠ some key) := by
  obtain ⟨old, hold, holdKey, hmem⟩ := mem_of_update_first hindex h
  rw [hmem, eq_of_key hindex hold hdoc holdKey hkey]

/-- The document with a key can be changed when the result shares no key with the others. -/
theorem update_first_some [DecidableEq Key] {index : Doc → Option Key} (hindex : index ∈ indexes)
    {key : Key} {f : Doc → Doc} (hdoc : doc ∈ c) (hkey : index doc = some key)
    (hdiffer : ∀ other ∈ c, index other ≠ some key → KeysDiffer indexes (f doc) other) :
    ∃ c', c.updateFirst (fun doc => index doc = some key) f = .ok c' := by
  unfold updateFirst
  split
  · rename_i hfind
    rw [List.findIdx?_eq_none_iff] at hfind
    have hnone := hfind doc hdoc
    simp [hkey] at hnone
  · rename_i i hfind
    obtain ⟨hi, hp, -⟩ := List.findIdx?_eq_some_iff_getElem.mp hfind
    have hfound : index c.docs[i] = some key := by simpa using hp
    -- the first document with the key is the only one
    have hsame : c.docs[i] = doc := eq_of_key hindex (List.getElem_mem hi) hdoc hfound hkey
    have hreplace : c.replaceAt? i (f c.docs[i]) ≠ none := by
      rw [replaceAt?, dif_pos]
      · exact nofun
      · intro other hother
        obtain ⟨hmem, hne⟩ := (mem_erase_idx_iff hindex hi hfound).mp hother
        rw [hsame]
        exact hdiffer other hmem hne
    dsimp only
    rw [List.get_eq_getElem]
    split
    · rename_i hnone
      exact absurd hnone hreplace
    · exact ⟨_, rfl⟩

/-- The other documents share no key with the document of a key. -/
theorem keys_differ_of_other {index : Doc → Option Key} {key : Key} (hdoc : doc ∈ c)
    (hother : other ∈ c) (hkey : index doc = some key) (hne : index other ≠ some key) :
    KeysDiffer indexes doc other :=
  c.unique.forall hdoc hother fun hsame => hne (hsame ▸ hkey)

end Collection

/-! ## Writing by a key -/

/-- Documents that all have a key, of which no two have the same. -/
abbrev KeyedCollection (Doc : Type) {Key : Type} (key : Doc → Key) :=
  Collection Doc Key [fun doc => some (key doc)]

namespace Collection

section Keyed

variable [DecidableEq Key] {key : Doc → Key} {c : KeyedCollection Doc key} {doc other : Doc}

/-- Replace the document with the key of the new one, or add the new one behind the others. -/
def upsert (c : KeyedCollection Doc key) (doc : Doc) : KeyedCollection Doc key :=
  if h : ∃ other ∈ c.docs, key other = key doc then
    c.mapDocs (fun other => if key other = key doc then doc else other) fun other index hindex => by
      rw [List.mem_singleton.mp hindex]
      split_ifs with hkey
      · exact congrArg some hkey.symm
      · rfl
  else
    ⟨c.docs ++ [doc], List.pairwise_append.mpr
      ⟨c.unique, List.pairwise_singleton _ _, fun other hother new hnew index hindex => by
        rw [List.mem_singleton.mp hindex, List.mem_singleton.mp hnew]
        exact .inr fun hsame => h ⟨other, hother, Option.some.inj hsame⟩⟩⟩

/-- After an upsert the new document is there, and the others with another key. -/
theorem mem_upsert : other ∈ c.upsert doc ↔ other = doc ∨ (other ∈ c ∧ key other ≠ key doc) := by
  unfold upsert
  split_ifs with h
  · rw [mem_map_docs]
    refine ⟨fun hmem => ?_, fun hmem => ?_⟩
    · obtain ⟨old, hold, hnew⟩ := hmem
      split_ifs at hnew with hkey
      · exact .inl hnew.symm
      · exact .inr ⟨hnew ▸ hold, hnew ▸ hkey⟩
    · rcases hmem with rfl | ⟨hmem, hne⟩
      · obtain ⟨old, hold, hkey⟩ := h
        exact ⟨old, hold, if_pos hkey⟩
      · exact ⟨other, hmem, if_neg hne⟩
  · show other ∈ c.docs ++ [doc] ↔ _
    rw [List.mem_append, List.mem_singleton]
    refine ⟨fun hmem => ?_, fun hmem => ?_⟩
    · rcases hmem with hmem | hsame
      · exact .inr ⟨hmem, fun hkey => h ⟨other, hmem, hkey⟩⟩
      · exact .inl hsame
    · rcases hmem with hsame | ⟨hmem, -⟩
      · exact .inr hsame
      · exact .inl hmem

/-- The document with a key is the one that is found under it. -/
theorem find_key_iff {k : Key} :
    c.docs.find? (fun other => key other = k) = some doc ↔ doc ∈ c ∧ key doc = k := by
  have hfind : c.docs.find? (fun other => some (key other) = some k) = some doc ↔ _ :=
    find_iff (List.mem_singleton_self _)
  simpa using hfind

/-- Upsert documents one after the other. -/
def upsertAll (c : KeyedCollection Doc key) (docs : List Doc) : KeyedCollection Doc key :=
  docs.foldl upsert c

/-- The keys that are there after some upserts. -/
theorem exists_key_upsert_all {docs : List Doc} {k : Key} :
    (∃ doc ∈ c.upsertAll docs, key doc = k) ↔ k ∈ docs.map key ∨ ∃ doc ∈ c, key doc = k := by
  induction docs generalizing c with
  | nil => simp [upsertAll]
  | cons first rest ih =>
      show (∃ doc ∈ (c.upsert first).upsertAll rest, key doc = k) ↔ _
      rw [ih, List.map_cons, List.mem_cons]
      simp only [mem_upsert]
      refine ⟨fun h => ?_, fun h => ?_⟩
      · rcases h with hrest | ⟨doc, rfl | ⟨hdoc, -⟩, hkey⟩
        · exact .inl (.inr hrest)
        · exact .inl (.inl hkey.symm)
        · exact .inr ⟨doc, hdoc, hkey⟩
      · rcases h with (hfirst | hrest) | ⟨doc, hdoc, hkey⟩
        · exact .inr ⟨first, .inl rfl, hfirst.symm⟩
        · exact .inl hrest
        · by_cases hsame : key doc = key first
          · exact .inr ⟨first, .inl rfl, hsame.symm.trans hkey⟩
          · exact .inr ⟨doc, .inr ⟨hdoc, hsame⟩, hkey⟩

/-- After upserts with different keys, the new documents are there and the others with another
key. -/
theorem mem_upsert_all {docs : List Doc} (hkeys : (docs.map key).Nodup) :
    other ∈ c.upsertAll docs ↔ other ∈ docs ∨ (other ∈ c ∧ key other ∉ docs.map key) := by
  induction docs generalizing c with
  | nil => simp [upsertAll]
  | cons first rest ih =>
      rw [List.map_cons, List.nodup_cons] at hkeys
      show other ∈ (c.upsert first).upsertAll rest ↔ _
      rw [ih hkeys.2, mem_upsert, List.map_cons, List.mem_cons, List.mem_cons, not_or]
      refine ⟨fun h => ?_, fun h => ?_⟩
      · rcases h with hrest | ⟨rfl | ⟨hmem, hne⟩, hnot⟩
        · exact .inl (.inr hrest)
        · exact .inl (.inl rfl)
        · exact .inr ⟨hmem, hne, hnot⟩
      · rcases h with (rfl | hrest) | ⟨hmem, hne, hnot⟩
        · exact .inr ⟨.inl rfl, hkeys.1⟩
        · exact .inl hrest
        · exact .inr ⟨.inr ⟨hmem, hne⟩, hnot⟩

end Keyed

end Collection

/-! ## Saving the fields that changed -/

/-- A field after a save that writes what was modified since the document was loaded. -/
def writtenField {α : Type} [DecidableEq α] (loaded saved stored : α) : α :=
  if saved = loaded then stored else saved

/-- A field that nobody else wrote is saved as it is in memory. -/
theorem written_field_same {α : Type} [DecidableEq α] (loaded saved : α) :
    writtenField loaded saved loaded = saved := by
  unfold writtenField
  split
  · rename_i h
    exact h.symm
  · rfl

/-- A field that was not modified is left as it is stored. -/
@[simp] theorem written_field_unmodified {α : Type} [DecidableEq α] (loaded stored : α) :
    writtenField loaded loaded stored = stored :=
  if_pos rfl

end Library
