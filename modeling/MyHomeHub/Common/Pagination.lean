import Mathlib.Algebra.Order.Floor.Semiring
import Mathlib.Data.Rat.Floor

/-!
# Pagination

`PaginationDto` asks for a page and `PaginationResponseDto` holds one. Without a number of
items the response is cut out of a list that has all of them.
-/

namespace MyHomeHub

/-- `MIN_PAGE_SIZE` -/
def MIN_PAGE_SIZE : Nat := 1

/-- `MAX_PAGE_SIZE` -/
def MAX_PAGE_SIZE : Nat := 50

/-- `MIN_PAGE` -/
def MIN_PAGE : Nat := 1

/-- `DEFAULT_PAGE_SIZE` -/
def DEFAULT_PAGE_SIZE : Nat := 5

/-- `PaginationDto`, with what its decorators demand. -/
structure PaginationDto where
  page : Nat := MIN_PAGE
  pageSize : Nat := DEFAULT_PAGE_SIZE
  page_min : MIN_PAGE ≤ page := by decide
  page_size_min : MIN_PAGE_SIZE ≤ pageSize := by decide
  page_size_max : pageSize ≤ MAX_PAGE_SIZE := by decide

/-- `skipRecords` -/
def PaginationDto.skipRecords (options : PaginationDto) : Nat :=
  (options.page - 1) * options.pageSize

/-! ## Pages of a list -/

section

variable {α : Type*} {items : List α} {size count : Nat}

/-- The page behind `n` others. -/
def pageAt (size : Nat) (items : List α) (n : Nat) : List α :=
  (items.drop (n * size)).take size

theorem flat_map_page_at :
    (List.range count).flatMap (pageAt size items) = items.take (count * size) := by
  induction count with
  | zero =>
      rw [Nat.zero_mul]
      rfl
  | succ count ih =>
      rw [List.range_succ, List.flatMap_append, ih, List.flatMap_singleton, Nat.succ_mul,
        List.take_add]
      rfl

/-- Pages that reach the end of a list are the list. -/
theorem flat_map_pages (hreach : items.length ≤ count * size) :
    (List.range count).flatMap (pageAt size items) = items := by
  rw [flat_map_page_at, List.take_of_length_le hreach]

end

/-! ## Responses -/

/-- The position that `slice` begins or ends at: a negative one counts from the end. -/
def slicePosition (length : Nat) (position : Int) : Nat :=
  if position < 0 then (length + position).toNat else min position.toNat length

/-- `Array.prototype.slice` -/
def slice {α : Type*} (items : List α) (start stop : Int) : List α :=
  (items.take (slicePosition items.length stop)).drop (slicePosition items.length start)

/-- `PaginationResponseDto` -/
structure PaginationResponseDto (α : Type*) where
  items : List α
  page : Nat
  pageSize : Nat
  totalPages : Nat
  totalItems : Nat
  deriving DecidableEq, Repr

namespace PaginationResponseDto

variable {α : Type*} {items : List α} {page pageSize : Nat}

/-- The `totalPages` that the constructor sets. -/
def pagesFor (totalItems pageSize : Nat) : Nat :=
  if pageSize = 0 then MIN_PAGE else ⌈(totalItems : ℚ) / pageSize⌉₊

/-- The constructor. -/
def ofItems (items : List α) (page pageSize : Nat) (totalItems : Option Nat) :
    PaginationResponseDto α :=
  match totalItems with
  | none =>
      let skipRecords : Int := ((page : Int) - 1) * pageSize
      { items := slice items skipRecords (skipRecords + pageSize)
        page := page
        pageSize := pageSize
        totalPages := pagesFor items.length pageSize
        totalItems := items.length }
  | some totalItems =>
      { items := items
        page := page
        pageSize := pageSize
        totalPages := pagesFor totalItems pageSize
        totalItems := totalItems }

/-- The pages reach the last item. -/
theorem le_pages_for (totalItems : Nat) (hsize : 1 ≤ pageSize) :
    totalItems ≤ pagesFor totalItems pageSize * pageSize := by
  have hpos : (0 : ℚ) < pageSize := Nat.cast_pos.mpr hsize
  have hceil : (totalItems : ℚ) ≤ ⌈(totalItems : ℚ) / pageSize⌉₊ * pageSize :=
    (div_le_iff₀ hpos).mp (Nat.le_ceil _)
  rw [pagesFor, if_neg (Nat.ne_of_gt hsize)]
  exact_mod_cast hceil

/-- A list that is its own page is the only one. -/
theorem pages_for_length (totalItems : Nat) : pagesFor totalItems totalItems = MIN_PAGE := by
  unfold pagesFor
  split
  · rfl
  · rename_i hsize
    rw [div_self (Nat.cast_ne_zero.mpr hsize), Nat.ceil_one]
    rfl

/-- A response with all items has one page. -/
theorem of_all_items (items : List α) :
    ofItems items 1 items.length (some items.length) =
      { items := items
        page := 1
        pageSize := items.length
        totalPages := MIN_PAGE
        totalItems := items.length } := by
  rw [ofItems, pages_for_length]

/-- No items make the same page whether they are counted or not. -/
theorem of_no_items (page pageSize : Nat) :
    ofItems ([] : List α) page pageSize (some 0) = ofItems [] page pageSize none := by
  have hslice (start stop : Int) : slice ([] : List α) start stop = [] := by
    rw [slice, List.take_nil, List.drop_nil]
  show _ = PaginationResponseDto.mk (slice [] _ _) _ _ _ _
  rw [hslice]
  rfl

theorem slice_of_nat (start size : Nat) :
    slice items start (start + size) = (items.drop start).take size := by
  have hposition : ∀ position : Nat,
      slicePosition items.length position = min position items.length := by
    intro position
    exact if_neg (Int.not_lt.mpr (Int.natCast_nonneg position))
  show (items.take (slicePosition items.length ((start : Int) + size))).drop _ = _
  rw [← Int.natCast_add, hposition, hposition, List.take_eq_take_min.symm]
  rcases Nat.le_total start items.length with hstart | hstart
  · rw [Nat.min_eq_left hstart, List.drop_take, Nat.add_sub_cancel_left]
  · rw [Nat.min_eq_right hstart, List.drop_eq_nil_of_le hstart, List.take_nil]
    exact List.drop_eq_nil_of_le (List.length_take_le' _ items)

/-- The pages of a list that are built from it. -/
theorem items_of_items (n : Nat) :
    (ofItems items (n + 1) pageSize none).items = pageAt pageSize items n := by
  have hskip : (((n + 1 : Nat) : Int) - 1) * pageSize = ((n * pageSize : Nat) : Int) := by
    push_cast
    ring
  show slice items _ (_ + _) = _
  rw [hskip]
  exact slice_of_nat (n * pageSize) pageSize

/-- The pages up to the last one are the list, whichever page names the number of them. -/
theorem flat_map_items (hsize : 1 ≤ pageSize) :
    (List.range' 1 (ofItems items page pageSize none).totalPages).flatMap (fun n =>
      (ofItems items n pageSize none).items) = items := by
  rw [List.range'_eq_map_range, List.flatMap_map]
  have hpages : ∀ n, (ofItems items (1 + n) pageSize none).items = pageAt pageSize items n := by
    intro n
    rw [Nat.add_comm]
    exact items_of_items n
  rw [funext hpages]
  exact flat_map_pages (le_pages_for items.length hsize)

end PaginationResponseDto

end MyHomeHub
