import MyHomeHub.Library.Collection
import Mathlib.Data.List.Count

/-!
# Counting the documents of a collection

How the number of documents with a property changes when one document is added, removed or
replaced. A counter that is kept beside a collection follows it when it is changed by the
same amounts.
-/

namespace Library.Collection

variable {Doc Key : Type} {indexes : List (Doc → Option Key)} {c c' : Collection Doc Key indexes}
  {doc new : Doc} {p : Doc → Bool}

/-- The number of documents with a property. -/
def count (c : Collection Doc Key indexes) (p : Doc → Bool) : Nat :=
  c.docs.countP p

theorem count_pos_iff : 0 < c.count p ↔ ∃ doc ∈ c, p doc = true :=
  List.countP_pos_iff

/-- An added document counts one more if it has the property. -/
theorem count_of_insert [DecidableEq Key] (h : c.insert? doc = some c') :
    c'.count p = c.count p + if p doc then 1 else 0 := by
  rw [insert?] at h
  split at h
  · cases h
    show (c.docs ++ [doc]).countP p = _
    rw [List.countP_append, List.countP_singleton]
    rfl
  · cases h

/-- The documents that remain are counted by the property and the condition together. -/
theorem count_filter {q : Doc → Bool} :
    (c.filter q).count p = c.count fun doc => p doc && q doc :=
  List.countP_filter

/-- Changed documents are counted by the property they have after the change. -/
theorem count_map_docs {f : Doc → Doc}
    (hkeys : ∀ doc, ∀ index ∈ indexes, index (f doc) = index doc) :
    (c.mapDocs f hkeys).count p = c.count fun doc => p (f doc) :=
  List.countP_map

section Keyed

variable {index : Doc → Option Key} (hindex : index ∈ indexes) (hsome : ∀ doc, index doc ≠ none)
  {key : Key} (hdoc : doc ∈ c) (hkey : index doc = some key)

include hindex hsome hdoc hkey

/-- A removed document counts one less if it had the property. -/
theorem count_of_remove
    (hmem : ∀ other, other ∈ c' ↔ other ∈ c ∧ index other ≠ some key) :
    c.count p = c'.count p + if p doc then 1 else 0 := by
  have hnot : doc ∉ c'.docs := fun h => ((hmem doc).mp h).2 hkey
  have hperm : c.docs.Perm (doc :: c'.docs) := by
    rw [List.perm_ext_iff_of_nodup (nodup_of_key hindex hsome)
      (List.nodup_cons.mpr ⟨hnot, nodup_of_key hindex hsome⟩)]
    intro other
    rw [List.mem_cons]
    refine ⟨fun hother => ?_, fun hother => ?_⟩
    · by_cases hsame : index other = some key
      · exact .inl (eq_of_key hindex hother hdoc hsame hkey)
      · exact .inr ((hmem other).mpr ⟨hother, hsame⟩)
    · rcases hother with rfl | hother
      · exact hdoc
      · exact ((hmem other).mp hother).1
  rw [count, hperm.countP_eq, List.countP_cons]
  rfl

/-- A replaced document counts no more, and the one in its place does. -/
theorem count_of_replace [DecidableEq Key] (hnew : index new = some key)
    (hmem : ∀ other, other ∈ c' ↔ other = new ∨ (other ∈ c ∧ index other ≠ some key)) :
    c'.count p + (if p doc then 1 else 0) = c.count p + if p new then 1 else 0 := by
  -- both collections are the other documents and one more
  let others := c.filter fun other => index other ≠ some key
  have hothers (other : Doc) : other ∈ others ↔ other ∈ c ∧ index other ≠ some key := by
    rw [mem_filter, decide_eq_true_eq]
  have hafter (other : Doc) : other ∈ others ↔ other ∈ c' ∧ index other ≠ some key := by
    rw [hothers, hmem]
    refine ⟨fun h => ⟨.inr h, h.2⟩, fun ⟨h, hne⟩ => ?_⟩
    rcases h with rfl | h
    · exact absurd hnew hne
    · exact h
  have hbefore : c.count p = others.count p + if p doc then 1 else 0 :=
    count_of_remove hindex hsome hdoc hkey hothers
  have hreplaced : c'.count p = others.count p + if p new then 1 else 0 :=
    count_of_remove hindex hsome ((hmem new).mpr (.inl rfl)) hnew hafter
  omega

end Keyed

end Library.Collection
