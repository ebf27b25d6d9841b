import Mathlib.Data.List.Basic

/-!
# Texts that are read in fields

A reader of fields skips runs of separators of any length, before, between and behind the
fields. A split at one separator has a piece before and behind each of its occurrences,
empty ones too. What both do is determined by one equation each: a separator ends what
stands before it.
-/

namespace Library

variable {α : Type*} {isSeparator : α → Bool} {front gap back text : List α} {separator : α}

/-! ## Fields -/

/-- The fields of a text: its pieces without a separator that are not empty. -/
def fields (isSeparator : α → Bool) (text : List α) : List (List α) :=
  (text.splitOnP isSeparator).filter (· matches _ :: _)

@[simp]
theorem fields_nil : fields isSeparator [] = [] :=
  rfl

/-- A separator ends the fields before it. -/
theorem fields_append_separator (hseparator : isSeparator separator = true) :
    fields isSeparator (front ++ separator :: back) =
      fields isSeparator front ++ fields isSeparator back := by
  rw [fields, List.splitOnP_append_cons front back hseparator, List.filter_append]
  rfl

theorem fields_skip_separator (hseparator : isSeparator separator = true) :
    fields isSeparator (separator :: back) = fields isSeparator back := by
  have hfields : fields isSeparator ([] ++ separator :: back) = _ :=
    fields_append_separator hseparator
  rw [fields_nil, List.nil_append, List.nil_append] at hfields
  exact hfields

/-- A text without a separator is one field. -/
theorem fields_of_no_separator (hnonempty : text ≠ [])
    (hnone : ∀ element ∈ text, isSeparator element = false) :
    fields isSeparator text = [text] := by
  rw [fields, List.splitOnP_eq_singleton hnone]
  cases text with
  | nil => exact absurd rfl hnonempty
  | cons element text => rfl

theorem fields_skip_separators (hgap : ∀ element ∈ gap, isSeparator element = true) :
    fields isSeparator (gap ++ back) = fields isSeparator back := by
  induction gap with
  | nil => rfl
  | cons element gap ih =>
      rw [List.cons_append, fields_skip_separator (hgap element List.mem_cons_self)]
      exact ih fun other hother => hgap other (List.mem_cons_of_mem element hother)

/-! ## Splitting at one separator -/

section

variable [DecidableEq α]

/-- There is one piece more than there are separators. -/
theorem length_split_on : (text.splitOn separator).length = text.count separator + 1 := by
  induction text with
  | nil => rfl
  | cons element text ih =>
      rw [List.splitOn_cons_eq_if_modifyHead, List.count_cons]
      split
      · rw [List.length_cons, ih]
      · rw [List.length_modifyHead, ih]

/-- The first piece ends at the first separator, and the others are those of what is behind it. -/
theorem split_on_eq :
    text.splitOn separator = text.takeWhile (· ≠ separator) ::
      match text.dropWhile (· ≠ separator) with
      | [] => []
      | _ :: back => back.splitOn separator := by
  induction text with
  | nil => rfl
  | cons element text ih =>
      rw [List.splitOn_cons_eq_if_modifyHead, List.takeWhile_cons, List.dropWhile_cons]
      by_cases helement : element = separator
      · rw [if_pos (beq_iff_eq.mpr helement), if_neg (by simpa using helement),
          if_neg (by simpa using helement)]
      · rw [if_neg (by simpa using helement), if_pos (by simpa using helement),
          if_pos (by simpa using helement), ih]
        rfl

/-- No piece has the separator in it. -/
theorem not_mem_of_mem_split_on {piece : List α} (hpiece : piece ∈ text.splitOn separator) :
    separator ∉ piece := by
  induction text generalizing piece with
  | nil =>
      cases List.mem_singleton.mp hpiece
      exact List.not_mem_nil
  | cons element text ih =>
      rw [List.splitOn_cons_eq_if_modifyHead] at hpiece
      split at hpiece
      · rcases List.mem_cons.mp hpiece with rfl | hpiece
        · exact List.not_mem_nil
        · exact ih hpiece
      · rename_i helement
        obtain ⟨first, others, hsplit⟩ :=
          List.exists_cons_of_ne_nil (List.splitOn_ne_nil separator text)
        rw [hsplit] at ih
        rw [hsplit, List.modifyHead_cons] at hpiece
        rcases List.mem_cons.mp hpiece with rfl | hpiece
        · intro hmem
          rcases List.mem_cons.mp hmem with rfl | hmem
          · exact helement BEq.rfl
          · exact ih List.mem_cons_self hmem
        · exact ih (List.mem_cons_of_mem first hpiece)

/-- Behind as many pieces as have ended, the text is split from there on. -/
theorem drop_split_on :
    ((front ++ separator :: back).splitOn separator).drop (front.count separator + 1) =
      back.splitOn separator := by
  rw [List.splitOn_append_cons_self]
  exact List.drop_left' length_split_on

/-- A text with more than `n` separators can be cut at one that has `n` others before it. -/
theorem exists_cut_at {n : Nat} (hcount : n < text.count separator) :
    ∃ front back, text = front ++ separator :: back ∧ front.count separator = n := by
  induction text generalizing n with
  | nil => cases hcount
  | cons element text ih =>
      rw [List.count_cons] at hcount
      cases hseparator : element == separator with
      | false =>
          rw [hseparator] at hcount
          obtain ⟨front, back, rfl, rfl⟩ := ih hcount
          refine ⟨element :: front, back, rfl, ?_⟩
          rw [List.count_cons, hseparator]
          rfl
      | true =>
          rw [hseparator] at hcount
          cases eq_of_beq hseparator
          cases n with
          | zero => exact ⟨[], text, rfl, rfl⟩
          | succ n =>
              obtain ⟨front, back, rfl, rfl⟩ := ih (Nat.lt_of_succ_lt_succ hcount)
              exact ⟨separator :: front, back, rfl, List.count_cons_self⟩

/-! ## Cutting at the first separator -/

/-- The text before the first separator, and the text from there on. -/
theorem cut_at_first (back : List α) (hfront : separator ∉ front) :
    (front ++ separator :: back).takeWhile (· ≠ separator) = front ∧
      (front ++ separator :: back).dropWhile (· ≠ separator) = separator :: back := by
  have hother : ∀ element ∈ front, decide (element ≠ separator) = true :=
    fun element helement => decide_eq_true fun h => hfront (h ▸ helement)
  have hseparator : ¬ decide (separator ≠ separator) = true := by simp
  rw [List.takeWhile_append_of_pos hother, List.dropWhile_append_of_pos hother,
    List.takeWhile_cons, List.dropWhile_cons, if_neg hseparator, if_neg hseparator]
  exact ⟨List.append_nil front, rfl⟩

/-- A text has at most one separator exactly if there is none behind the first. -/
theorem count_le_one_iff :
    text.count separator ≤ 1 ↔ separator ∉ (text.dropWhile (· ≠ separator)).tail := by
  induction text with
  | nil => exact iff_of_true (Nat.zero_le 1) List.not_mem_nil
  | cons element text ih =>
      rw [List.count_cons, List.dropWhile_cons]
      by_cases helement : element = separator
      · rw [if_pos (beq_iff_eq.mpr helement), if_neg (by simpa using helement), List.tail_cons,
          ← List.count_eq_zero]
        omega
      · rw [if_neg (by simpa using helement), if_pos (by simpa using helement), Nat.add_zero, ih]

end

/-! ## Joining -/

/-- An element of a joined text is the separator or is in one of the texts. -/
theorem mem_intercalate {element : α} {texts : List (List α)}
    (helement : element ∈ [separator].intercalate texts) :
    element = separator ∨ ∃ text ∈ texts, element ∈ text := by
  induction texts with
  | nil => cases helement
  | cons text texts ih =>
      cases texts with
      | nil =>
          rw [List.intercalate_singleton] at helement
          exact .inr ⟨text, List.mem_singleton_self text, helement⟩
      | cons other texts =>
          rw [List.intercalate_cons_cons, List.mem_append, List.mem_append,
            List.mem_singleton] at helement
          rcases helement with (helement | helement) | helement
          · exact .inr ⟨text, List.mem_cons_self, helement⟩
          · exact .inl helement
          · exact (ih helement).imp_right fun ⟨text, htext, helement⟩ =>
              ⟨text, List.mem_cons_of_mem _ htext, helement⟩

end Library
