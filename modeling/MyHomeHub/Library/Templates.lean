import Mathlib.Data.List.Basic

/-!
# Templates

A template is a text of pieces between separators, and some of its pieces are a mark. Values
are written into it one after another, each in place of the first mark that is left. If no
value has a mark in it, the values stand in the marked pieces, in their order, and every other
piece is what it was.
-/

namespace Library

variable {α : Type*} [DecidableEq α] {mark separator : α} {front back value text piece : List α}
  {pieces values : List (List α)}

/-! ## One value -/

/-- The value in place of the first mark of a text. -/
def fillFirst (mark : α) (value : List α) : List α → List α
  | [] => []
  | element :: text =>
      if element = mark then value ++ text else element :: fillFirst mark value text

theorem fill_first_of_no_mark (hmark : mark ∉ text) : fillFirst mark value text = text := by
  induction text with
  | nil => rfl
  | cons element text ih =>
      have helement : element ≠ mark := fun h => hmark (h ▸ List.mem_cons_self)
      rw [fillFirst, if_neg helement, ih fun h => hmark (List.mem_cons_of_mem element h)]

theorem fill_first_mark (hfront : mark ∉ front) :
    fillFirst mark value (front ++ mark :: back) = front ++ (value ++ back) := by
  induction front with
  | nil => exact if_pos rfl
  | cons element front ih =>
      have helement : element ≠ mark := fun h => hfront (h ▸ List.mem_cons_self)
      rw [List.cons_append, fillFirst, if_neg helement,
        ih fun h => hfront (List.mem_cons_of_mem element h)]
      rfl

/-! ## All values -/

/-- The values, one after another, each in place of the first mark that is left. -/
def fillAll (mark : α) (values : List (List α)) (text : List α) : List α :=
  values.foldl (fun text value => fillFirst mark value text) text

/-- The pieces with the values in place of the marked ones, as far as there are values. -/
def fillPieces (mark : α) : List (List α) → List (List α) → List (List α)
  | [], _ => []
  | pieces, [] => pieces
  | piece :: pieces, value :: values =>
      if piece = [mark] then value :: fillPieces mark pieces values
      else piece :: fillPieces mark pieces (value :: values)

/-- A piece is the mark or has no mark in it. -/
def WholeMarks (mark : α) (pieces : List (List α)) : Prop :=
  ∀ piece ∈ pieces, mark ∈ piece → piece = [mark]

theorem fill_pieces_mark :
    fillPieces mark ([mark] :: pieces) (value :: values) =
      value :: fillPieces mark pieces values :=
  if_pos rfl

theorem fill_pieces_other (hpiece : piece ≠ [mark]) :
    fillPieces mark (piece :: pieces) values = piece :: fillPieces mark pieces values := by
  cases values with
  | nil => cases pieces <;> rfl
  | cons value values => exact if_neg hpiece

theorem fill_all_of_no_mark (hmark : mark ∉ text) : fillAll mark values text = text := by
  induction values with
  | nil => rfl
  | cons value values ih =>
      show fillAll mark values (fillFirst mark value text) = text
      rw [fill_first_of_no_mark hmark, ih]

/-- A front without a mark stays, whatever is written behind it. -/
theorem fill_all_front (hdistinct : separator ≠ mark) (hpieces : WholeMarks mark pieces)
    (hvalues : ∀ value ∈ values, mark ∉ value) (hfront : mark ∉ front) :
    fillAll mark values (front ++ pieces.flatMap (separator :: ·)) =
      front ++ (fillPieces mark pieces values).flatMap (separator :: ·) := by
  induction pieces generalizing front values with
  | nil =>
      show fillAll mark values (front ++ []) = front ++ []
      rw [List.append_nil]
      exact fill_all_of_no_mark hfront
  | cons piece pieces ih =>
      have hrest : WholeMarks mark pieces := fun other hother =>
        hpieces other (List.mem_cons_of_mem piece hother)
      -- What is done with the first piece belongs to the front of the others.
      have hadvance : ∀ done : List α, mark ∉ done → mark ∉ front ++ separator :: done := by
        intro done hdone hmem
        rcases List.mem_append.mp hmem with hmem | hmem
        · exact hfront hmem
        · rcases List.mem_cons.mp hmem with hmem | hmem
          · exact hdistinct hmem.symm
          · exact hdone hmem
      cases values with
      | nil => rfl
      | cons value values =>
          rw [List.flatMap_cons]
          by_cases hmark : piece = [mark]
          · cases hmark
            rw [fill_pieces_mark]
            have hvalue := hvalues value List.mem_cons_self
            have hfirst : mark ∉ front ++ [separator] := hadvance [] List.not_mem_nil
            have hwritten : fillFirst mark value (front ++ ([separator, mark] ++
                pieces.flatMap (separator :: ·))) =
                (front ++ separator :: value) ++ pieces.flatMap (separator :: ·) := by
              have hwrite : fillFirst mark value (front ++ [separator] ++
                  mark :: pieces.flatMap (separator :: ·)) = _ := fill_first_mark hfirst
              rw [List.append_assoc] at hwrite
              rw [List.append_assoc, List.cons_append]
              exact hwrite.trans (List.append_assoc front [separator] _)
            show fillAll mark values (fillFirst mark value (front ++ ([separator, mark] ++
              pieces.flatMap (separator :: ·)))) = _
            rw [hwritten, ih hrest (fun other hother => hvalues other
              (List.mem_cons_of_mem value hother)) (hadvance value hvalue),
              List.flatMap_cons, List.append_assoc]
          · have hpiece : mark ∉ piece := fun h => hmark (hpieces piece List.mem_cons_self h)
            rw [fill_pieces_other hmark, ← List.append_assoc,
              ih hrest hvalues (hadvance piece hpiece), List.flatMap_cons, List.append_assoc]

omit [DecidableEq α] in
/-- A text of at least one piece, with a separator in front. -/
theorem separator_intercalate (hpieces : pieces ≠ []) :
    separator :: [separator].intercalate pieces = pieces.flatMap (separator :: ·) := by
  induction pieces with
  | nil => exact absurd rfl hpieces
  | cons piece pieces ih =>
      rw [List.flatMap_cons]
      cases pieces with
      | nil =>
          rw [List.intercalate_singleton]
          exact (List.append_nil _).symm
      | cons other pieces =>
          rw [List.intercalate_cons_cons, ← ih (List.cons_ne_nil other pieces),
            List.append_assoc]
          rfl

theorem fill_pieces_ne_nil (hpieces : pieces ≠ []) : fillPieces mark pieces values ≠ [] := by
  cases pieces with
  | nil => exact absurd rfl hpieces
  | cons piece pieces =>
      cases values with
      | nil => exact hpieces
      | cons value values =>
          rw [fillPieces]
          split <;> exact List.cons_ne_nil _ _

/-- The values end up in the marked pieces. -/
theorem fill_all_intercalate (hdistinct : separator ≠ mark) (hpieces : WholeMarks mark pieces)
    (hnonempty : pieces ≠ []) (hvalues : ∀ value ∈ values, mark ∉ value) :
    fillAll mark values ([separator].intercalate pieces) =
      [separator].intercalate (fillPieces mark pieces values) := by
  have hskip : ∀ text : List α,
      fillAll mark values (separator :: text) = separator :: fillAll mark values text := by
    intro text
    induction values generalizing text with
    | nil => rfl
    | cons value values ih =>
        show fillAll mark values (fillFirst mark value (separator :: text)) = _
        rw [fillFirst, if_neg hdistinct,
          ih fun other hother => hvalues other (List.mem_cons_of_mem value hother)]
        rfl
  have hfilled : fillAll mark values ([] ++ pieces.flatMap (separator :: ·)) = _ :=
    fill_all_front hdistinct hpieces hvalues List.not_mem_nil
  rw [List.nil_append, List.nil_append, ← separator_intercalate hnonempty,
    ← separator_intercalate (fill_pieces_ne_nil hnonempty), hskip] at hfilled
  exact (List.cons.inj hfilled).2

/-- What stands in the filled pieces stood in the pieces or in the values. -/
theorem mem_of_mem_fill_pieces (hpiece : piece ∈ fillPieces mark pieces values) :
    piece ∈ pieces ∨ piece ∈ values := by
  induction pieces generalizing values with
  | nil => exact .inl hpiece
  | cons first pieces ih =>
      cases values with
      | nil => exact .inl hpiece
      | cons value values =>
          rw [fillPieces] at hpiece
          split at hpiece
          · rcases List.mem_cons.mp hpiece with rfl | hpiece
            · exact .inr List.mem_cons_self
            · exact (ih hpiece).imp (List.mem_cons_of_mem first) (List.mem_cons_of_mem value)
          · rcases List.mem_cons.mp hpiece with rfl | hpiece
            · exact .inl List.mem_cons_self
            · exact (ih hpiece).imp_left (List.mem_cons_of_mem first)

end Library
