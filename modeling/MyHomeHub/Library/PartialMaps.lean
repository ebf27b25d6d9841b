import Mathlib.Data.List.Basic

/-!
# Functions that may fail, on lists and optional values

A function that may fail is applied to every element of a list, or to the value of an
option. The whole succeeds when each application does.
-/

namespace Library

/-! ## Failing with an error -/

section Except

variable {ε α β : Type} {f : α → Except ε β} {inputs : List α} {results : List β}

/-- A call on every element of a list succeeds when each of the calls does. -/
theorem map_m_ok_iff : inputs.mapM f = .ok results ↔ inputs.map f = results.map .ok := by
  induction inputs generalizing results with
  | nil =>
      rw [List.mapM_nil, List.map_nil, eq_comm (a := []), List.map_eq_nil_iff]
      exact ⟨fun h => (Except.ok.inj h).symm, fun h => h ▸ rfl⟩
  | cons input inputs ih =>
      rw [List.mapM_cons, List.map_cons]
      cases hfirst : f input with
      | error error =>
          refine iff_of_false nofun fun h => ?_
          obtain ⟨result, rest, -, hresult, -⟩ := List.map_eq_cons_iff.mp h.symm
          cases hresult
      | ok first =>
          cases hrest : inputs.mapM f with
          | error error =>
              refine iff_of_false nofun fun h => ?_
              obtain ⟨result, rest, -, -, htail⟩ := List.map_eq_cons_iff.mp h.symm
              rw [ih.mpr htail.symm] at hrest
              cases hrest
          | ok rest =>
              rw [ih.mp hrest]
              have hinjective : ∀ a b : β, (Except.ok a : Except ε β) = .ok b → a = b :=
                fun _ _ => Except.ok.inj
              show Except.ok (first :: rest) = Except.ok results ↔
                (first :: rest).map Except.ok = results.map Except.ok
              rw [Except.ok.injEq, List.map_inj_right hinjective]

/-- The calls have the results that are expected of them. -/
theorem map_m_ok_map_iff {g : α → β} :
    inputs.mapM f = .ok (inputs.map g) ↔ ∀ input ∈ inputs, f input = .ok (g input) := by
  rw [map_m_ok_iff, List.map_map, List.map_inj_left]
  rfl

/-- The results of the calls. -/
theorem mem_results (h : inputs.mapM f = .ok results) {result : β} :
    result ∈ results ↔ ∃ input ∈ inputs, f input = .ok result := by
  rw [← List.mem_map, map_m_ok_iff.mp h, List.mem_map]
  constructor
  · exact fun hmem => ⟨result, hmem, rfl⟩
  · intro h
    obtain ⟨other, hmem, hsame⟩ := h
    exact Except.ok.inj hsame ▸ hmem

/-- Each of the calls has a result. -/
theorem exists_result (h : inputs.mapM f = .ok results) {input : α} (hinput : input ∈ inputs) :
    ∃ result ∈ results, f input = .ok result := by
  have hmem : f input ∈ results.map .ok := map_m_ok_iff.mp h ▸ List.mem_map_of_mem hinput
  obtain ⟨result, hresult, hsame⟩ := List.mem_map.mp hmem
  exact ⟨result, hresult, hsame.symm⟩

/-- What the calls keep of their inputs. -/
theorem map_results {γ : Type} (h : inputs.mapM f = .ok results) {p : α → γ} {q : β → γ}
    (hpq : ∀ input result, f input = .ok result → q result = p input) :
    results.map q = inputs.map p := by
  have hmaps := map_m_ok_iff.mp h
  clear h
  induction inputs generalizing results with
  | nil =>
      rw [List.map_nil, eq_comm, List.map_eq_nil_iff] at hmaps
      rw [hmaps, List.map_nil, List.map_nil]
  | cons input inputs ih =>
      obtain ⟨result, rest, rfl, hresult, hrest⟩ := List.map_eq_cons_iff.mp hmaps.symm
      rw [List.map_cons, List.map_cons, hpq input result hresult.symm, ih hrest.symm]

/-- The calls succeed when each of them has a result. -/
theorem map_m_succeeds_iff :
    (∃ results, inputs.mapM f = .ok results) ↔
      ∀ input ∈ inputs, ∃ result, f input = .ok result := by
  refine ⟨fun ⟨results, h⟩ input hinput => ?_, fun h => ?_⟩
  · obtain ⟨result, -, hresult⟩ := exists_result h hinput
    exact ⟨result, hresult⟩
  · simp only [map_m_ok_iff]
    induction inputs with
    | nil => exact ⟨[], rfl⟩
    | cons input inputs ih =>
        rw [List.forall_mem_cons] at h
        obtain ⟨result, hresult⟩ := h.1
        obtain ⟨results, hresults⟩ := ih h.2
        exact ⟨result :: results, by rw [List.map_cons, List.map_cons, hresult, hresults]⟩

end Except

/-! ## Failing without one -/

section Option

variable {α : Type} {f : α → Option α} {inputs results : List α} {input : Option α}

/-- The elements of a list are mapped one by one. -/
theorem map_m_some_iff : inputs.mapM f = some results ↔ inputs.map f = results.map some := by
  induction inputs generalizing results with
  | nil =>
      rw [List.mapM_nil, List.map_nil, eq_comm (a := []), List.map_eq_nil_iff]
      exact ⟨fun h => (Option.some.inj h).symm, fun h => h ▸ rfl⟩
  | cons first rest ih =>
      simp only [List.mapM_cons, bind, Option.bind_eq_some_iff, ih, List.map_cons, pure,
        Option.some.injEq]
      constructor
      · intro h
        obtain ⟨result, hresult, others, hothers, rfl⟩ := h
        rw [hresult, hothers, List.map_cons]
      · intro h
        obtain ⟨result, others, rfl, hresult, hothers⟩ := List.map_eq_cons_iff.mp h.symm
        exact ⟨result, hresult.symm, others, hothers.symm, rfl⟩

/-- A list can be mapped when each element can. -/
theorem map_m_is_some_iff :
    (inputs.mapM f).isSome = true ↔ ∀ input ∈ inputs, (f input).isSome = true := by
  induction inputs with
  | nil => simp
  | cons first rest ih =>
      rw [List.forall_mem_cons, ← ih, List.mapM_cons]
      cases f first with
      | none => simp
      | some result => cases rest.mapM f <;> simp

/-- A list stays as it is when each element does. -/
theorem map_m_eq_self_iff :
    inputs.mapM f = some inputs ↔ ∀ input ∈ inputs, f input = some input := by
  rw [map_m_some_iff, List.map_inj_left]

/-- An optional value can be mapped when there is none or it can. -/
theorem option_map_m_is_some_iff :
    (input.mapM f).isSome = true ↔ ∀ value ∈ input, (f value).isSome = true := by
  cases input with
  | none => simp
  | some value => cases f value <;> simp

/-- An optional value stays as it is when there is none or it does. -/
theorem option_map_m_eq_self_iff :
    input.mapM f = some input ↔ ∀ value ∈ input, f value = some value := by
  cases input with
  | none => simp
  | some value => cases f value <;> simp

/-- A property of the results, in terms of the inputs. -/
theorem forall_results_iff (h : inputs.mapM f = some results) {p q : α → Prop}
    (hpq : ∀ input result, f input = some result → (q result ↔ p input)) :
    (∀ result ∈ results, q result) ↔ ∀ input ∈ inputs, p input := by
  have hmaps := map_m_some_iff.mp h
  refine ⟨fun hall input hinput => ?_, fun hall result hresult => ?_⟩
  · have hmem : f input ∈ results.map some := hmaps ▸ List.mem_map_of_mem hinput
    obtain ⟨result, hresult, hsame⟩ := List.mem_map.mp hmem
    exact (hpq input result hsame.symm).mp (hall result hresult)
  · have hmem : some result ∈ inputs.map f := hmaps ▸ List.mem_map_of_mem hresult
    obtain ⟨input, hinput, hsame⟩ := List.mem_map.mp hmem
    exact (hpq input result hsame).mpr (hall input hinput)

/-- A property of an optional result, in terms of the input. -/
theorem forall_option_result_iff {result : Option α} (h : input.mapM f = some result)
    {p q : α → Prop} (hpq : ∀ value mapped, f value = some mapped → (q mapped ↔ p value)) :
    (∀ mapped ∈ result, q mapped) ↔ ∀ value ∈ input, p value := by
  cases input with
  | none =>
      cases h
      exact iff_of_true nofun nofun
  | some value =>
      rw [Option.mapM_some] at h
      obtain ⟨mapped, hmapped, rfl⟩ := Option.map_eq_some_iff.mp h
      simpa using hpq value mapped hmapped

end Option

end Library
