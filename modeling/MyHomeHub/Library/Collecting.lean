import Mathlib.Data.List.Basic

/-!
# Errors that are collected

A check that may fail is made of every item of a list, with the index of the item, and the errors
of all items are collected in order. `Reports` says what is collected without saying how.
-/

namespace Library

variable {ε α β : Type} {check : Nat → α → Except ε (List β)}
  {report : Nat → α → List β → Prop} {index : Nat} {item : α} {items : List α}
  {errors : List β}

/-- The errors of the items from an index on, one item after another. -/
def collectFrom (check : Nat → α → Except ε (List β)) : Nat → List α → Except ε (List β)
  | _, [] => .ok []
  | index, item :: items => do
      let itemErrors ← check index item
      let errors ← collectFrom check (index + 1) items
      return itemErrors ++ errors

/-- The reports of the items from an index on, one item after another. -/
inductive Reports (report : Nat → α → List β → Prop) : Nat → List α → List β → Prop
  | nil (index : Nat) : Reports report index [] []
  | cons {index : Nat} {item : α} {items : List α} {itemErrors errors : List β} :
      report index item itemErrors → Reports report (index + 1) items errors →
        Reports report index (item :: items) (itemErrors ++ errors)

theorem collect_from_pair {second : α} :
    collectFrom check index [item, second] = (do
      let itemErrors ← check index item
      let errors ← check (index + 1) second
      return itemErrors ++ errors) := by
  rw [collectFrom, collectFrom, collectFrom]
  cases check index item with
  | error error => rfl
  | ok itemErrors =>
      cases check (index + 1) second with
      | error error => rfl
      | ok errors =>
          show Except.ok (itemErrors ++ (errors ++ [])) = Except.ok (itemErrors ++ errors)
          rw [List.append_nil]

/-- What the checks find is what they report. -/
theorem collect_from_ok_iff
    (hcheck : ∀ index, ∀ item ∈ items, ∀ errors, check index item = .ok errors ↔
      report index item errors) :
    collectFrom check index items = .ok errors ↔ Reports report index items errors := by
  induction items generalizing index errors with
  | nil =>
      refine ⟨fun h => ?_, fun h => ?_⟩
      · cases h
        exact .nil index
      · cases h
        rfl
  | cons item items ih =>
      have hrest := fun index errors => @ih index errors
        fun index other hother => hcheck index other (List.mem_cons_of_mem item hother)
      rw [collectFrom]
      refine ⟨fun h => ?_, fun h => ?_⟩
      · cases hitem : check index item with
        | error error =>
            rw [hitem] at h
            cases h
        | ok itemErrors =>
            cases hitems : collectFrom check (index + 1) items with
            | error error =>
                rw [hitem, hitems] at h
                cases h
            | ok others =>
                rw [hitem, hitems] at h
                cases h
                exact .cons ((hcheck index item List.mem_cons_self _).mp hitem)
                  ((hrest _ _).mp hitems)
      · cases h with
        | cons hitem hitems =>
            rw [(hcheck index item List.mem_cons_self _).mpr hitem, (hrest _ _).mpr hitems]
            rfl

variable {p : α → Prop}

/-- Nothing is reported exactly if nothing is of any item, which does not depend on the index. -/
theorem reports_nil_iff (hnil : ∀ index item, report index item [] ↔ p item) :
    Reports report index items [] ↔ ∀ item ∈ items, p item := by
  induction items generalizing index with
  | nil => exact iff_of_true (.nil index) fun item hitem => by cases hitem
  | cons item items ih =>
      rw [List.forall_mem_cons, ← hnil index item, ← @ih (index + 1)]
      refine ⟨fun h => ?_, fun ⟨hitem, hitems⟩ => .cons hitem hitems⟩
      generalize hempty : ([] : List β) = errors at h
      cases h with
      | cons hitem hitems =>
          obtain ⟨rfl, rfl⟩ := List.append_eq_nil_iff.mp hempty.symm
          exact ⟨hitem, hitems⟩

/-- There are reports exactly if there is one of each item, which does not depend on the index. -/
theorem exists_reports_iff (hexists : ∀ index item, (∃ errors, report index item errors) ↔ p item) :
    (∃ errors, Reports report index items errors) ↔ ∀ item ∈ items, p item := by
  induction items generalizing index with
  | nil => exact iff_of_true ⟨[], .nil index⟩ fun item hitem => by cases hitem
  | cons item items ih =>
      rw [List.forall_mem_cons, ← hexists index item, ← @ih (index + 1)]
      refine ⟨?_, ?_⟩
      · rintro ⟨errors, h⟩
        cases h with
        | cons hitem hitems => exact ⟨⟨_, hitem⟩, _, hitems⟩
      · rintro ⟨⟨itemErrors, hitem⟩, errors, hitems⟩
        exact ⟨itemErrors ++ errors, .cons hitem hitems⟩

end Library
