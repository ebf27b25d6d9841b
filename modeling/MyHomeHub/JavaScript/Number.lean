import Mathlib

/-!
# ECMAScript numbers

The values of the ECMAScript `number` type together with the conversions between
numbers and strings. A finite number is an exact rational: `toDouble` rounds a
rational to the nearest binary64 value, `Number.toString` prints the shortest decimal
that rounds back to the number, and `Number.ofString` reads a string the way the
`Number` function does. The two zeros are identified, since no operation used here
tells them apart.
-/

namespace JavaScript

/-- A value of the ECMAScript `number` type. -/
inductive Number where
  | nan
  | infinity (negative : Bool)
  | finite (value : ℚ)
  deriving DecidableEq, Repr

/-! ## Characters -/

/-- White space and line terminators, which `trim` and `Number` strip from both ends. -/
def isWhitespace (c : Char) : Bool :=
  c.val ∈ [0x09, 0x0A, 0x0B, 0x0C, 0x0D, 0x20, 0xA0, 0x1680, 0x2028, 0x2029, 0x202F, 0x205F,
    0x3000, 0xFEFF] || (0x2000 ≤ c.val && c.val ≤ 0x200A)

/-- `String.prototype.trim` on a list of characters. -/
def trimChars (chars : List Char) : List Char :=
  ((chars.dropWhile isWhitespace).reverse.dropWhile isWhitespace).reverse

/-- `String.prototype.trim`. -/
def trim (s : String) : String :=
  String.ofList (trimChars s.toList)

/-- The number of UTF-16 code units of a string, which is its `length`. -/
def utf16Length (s : String) : Nat :=
  (s.toList.map fun c => if c.val < 0x10000 then 1 else 2).sum

/-- The value of a decimal digit. -/
def digitValue (c : Char) : Nat :=
  c.toNat - '0'.toNat

/-- The value of a run of decimal digits. -/
def digitsValue (digits : List Char) : Nat :=
  digits.foldl (fun value c => 10 * value + digitValue c) 0

namespace Number

/-! ## Rounding to binary64 -/

/-- Round to the nearest integer, ties to even. -/
def roundHalfEven (q : ℚ) : ℤ :=
  let floor := ⌊q⌋
  let fraction := q - floor
  if fraction < 1 / 2 then floor
  else if 1 / 2 < fraction then floor + 1
  else if floor % 2 = 0 then floor else floor + 1

/-- The binary64 value nearest to a rational, subnormals and overflow included. -/
def toDouble (q : ℚ) : Number :=
  if q = 0 then .finite 0
  else
    let exponent := max (-1074) (Int.log 2 |q| - 52)
    let rounded := (roundHalfEven (q / 2 ^ exponent) : ℚ) * 2 ^ exponent
    if 2 ^ 1024 ≤ |rounded| then .infinity (q < 0) else .finite rounded

/-! ## Printing -/

/-- The decimal digits of the shortest decimal that rounds to the positive number, without
trailing zeros, and the position of its decimal point. -/
def shortestDigits (q : ℚ) : List Char × ℤ :=
  let point := Int.log 10 q + 1
  let significand (digits : Nat) := roundHalfEven (q * 10 ^ ((digits : ℤ) - point))
  let count := ((List.range 17).map (· + 1)).find? (fun digits =>
    toDouble (significand digits * 10 ^ (point - (digits : ℤ))) = .finite q) |>.getD 17
  let digits := (toString (significand count)).toList
  let stripped := (digits.reverse.dropWhile (· == '0')).reverse
  (stripped, point + digits.length - count)

/-- `Number::toString` of a positive finite number. -/
def positiveToString (q : ℚ) : String :=
  let (digits, point) := shortestDigits q
  let count : ℤ := digits.length
  if count ≤ point ∧ point ≤ 21 then
    String.ofList (digits ++ List.replicate (point - count).toNat '0')
  else if 0 < point ∧ point ≤ 21 then
    String.ofList (digits.take point.toNat ++ '.' :: digits.drop point.toNat)
  else if -6 < point ∧ point ≤ 0 then
    String.ofList ('0' :: '.' :: List.replicate (-point).toNat '0' ++ digits)
  else
    let mantissa := match digits with
      | first :: second :: rest => first :: '.' :: second :: rest
      | short => short
    let sign := if point - 1 < 0 then '-' else '+'
    String.ofList (mantissa ++ 'e' :: sign :: (toString (point - 1).natAbs).toList)

/-- `String(n)` of a number. -/
def toString : Number → String
  | .nan => "NaN"
  | .infinity false => "Infinity"
  | .infinity true => "-Infinity"
  | .finite q =>
      if q = 0 then "0"
      else if q < 0 then "-" ++ positiveToString (-q)
      else positiveToString q

/-! ## Reading -/

/-- The value of a nonempty run of digits of the given radix. -/
def radixValue (radix : Nat) (chars : List Char) : Option Nat :=
  if chars.isEmpty then none
  else chars.foldlM (fun value c =>
    let digit := if c.isDigit then digitValue c
      else if c.isLower then c.toNat - 'a'.toNat + 10
      else if c.isUpper then c.toNat - 'A'.toNat + 10
      else radix
    if digit < radix then some (radix * value + digit) else none) 0

/-- A signed run of digits, as in the exponent of a decimal literal. -/
def signedDigits (chars : List Char) : Option ℤ :=
  let (negative, digits) := match chars with
    | '-' :: rest => (true, rest)
    | '+' :: rest => (false, rest)
    | rest => (false, rest)
  if digits.isEmpty || !digits.all (·.isDigit) then none
  else some (if negative then -(digitsValue digits : ℤ) else digitsValue digits)

/-- An unsigned decimal literal: digits, an optional fraction and an optional exponent. -/
def unsignedDecimal (chars : List Char) : Option ℚ :=
  let whole := chars.takeWhile (·.isDigit)
  let afterWhole := chars.dropWhile (·.isDigit)
  let (fraction, suffix) := match afterWhole with
    | '.' :: rest => (rest.takeWhile (·.isDigit), rest.dropWhile (·.isDigit))
    | rest => ([], rest)
  let mantissa : ℚ := digitsValue (whole ++ fraction) / 10 ^ fraction.length
  if (whole ++ fraction).isEmpty then none
  else match suffix with
    | [] => some mantissa
    | 'e' :: exponent | 'E' :: exponent =>
        (signedDigits exponent).map fun power => mantissa * 10 ^ power
    | _ => none

/-- A decimal literal without its sign, `Infinity` included. -/
def unsignedLiteral (negative : Bool) (chars : List Char) : Number :=
  if chars = "Infinity".toList then .infinity negative
  else match unsignedDecimal chars with
    | some value => toDouble (if negative then -value else value)
    | none => .nan

/-- `Number(s)` of a string: the empty string is zero and anything that is not a numeric literal
is `NaN`. -/
def ofString (s : String) : Number :=
  let ofRadix (radix : Nat) (digits : List Char) : Number :=
    match radixValue radix digits with
    | some value => toDouble value
    | none => .nan
  match trimChars s.toList with
  | [] => .finite 0
  | '0' :: 'x' :: digits | '0' :: 'X' :: digits => ofRadix 16 digits
  | '0' :: 'o' :: digits | '0' :: 'O' :: digits => ofRadix 8 digits
  | '0' :: 'b' :: digits | '0' :: 'B' :: digits => ofRadix 2 digits
  | '-' :: rest => unsignedLiteral true rest
  | '+' :: rest => unsignedLiteral false rest
  | rest => unsignedLiteral false rest

/-! ## Comparison -/

/-- `a < b` on numbers: every comparison with `NaN` is false. -/
def lt : Number → Number → Bool
  | .nan, _ | _, .nan => false
  | .infinity negative, .infinity other => negative && !other
  | .infinity negative, .finite _ => negative
  | .finite _, .infinity negative => !negative
  | .finite a, .finite b => a < b

/-- `a === b` on numbers: `NaN` differs from itself. -/
def strictEq : Number → Number → Bool
  | .nan, _ => false
  | a, b => a = b

/-- `Number.isFinite`. -/
def isFinite : Number → Bool
  | .finite _ => true
  | _ => false

/-- `Number.isInteger`. -/
def isInteger : Number → Bool
  | .finite q => q.den = 1
  | _ => false

/-! ## Subtraction -/

/-- `a - b` on numbers. -/
def sub : Number → Number → Number
  | .nan, _ | _, .nan => .nan
  | .infinity a, .infinity b => if a = b then .nan else .infinity a
  | .infinity a, .finite _ => .infinity a
  | .finite _, .infinity b => .infinity !b
  | .finite a, .finite b => toDouble (a - b)

theorem round_half_even_int (z : ℤ) : roundHalfEven z = z := by
  simp [roundHalfEven]

/-- An integer of at most 53 bits is a binary64 value. -/
theorem to_double_nat {n : ℕ} (h : n < 2 ^ 53) : toDouble n = .finite n := by
  by_cases hzero : n = 0
  · rw [hzero]
    rfl
  · have hlog : Nat.log 2 n ≤ 52 := Nat.lt_succ_iff.mp (Nat.log_lt_of_lt_pow hzero h)
    have hexponent : max (-1074) (Int.log 2 |(n : ℚ)| - 52) = -((52 - Nat.log 2 n : ℕ) : ℤ) := by
      rw [Nat.abs_cast, Int.log_natCast]
      omega
    have hscaled : (n : ℚ) / 2 ^ (-((52 - Nat.log 2 n : ℕ) : ℤ)) =
        ((n * 2 ^ (52 - Nat.log 2 n) : ℤ) : ℚ) := by
      rw [zpow_neg, div_inv_eq_mul, zpow_natCast]
      push_cast
      rfl
    have hrounded : (roundHalfEven ((n : ℚ) / 2 ^ (-((52 - Nat.log 2 n : ℕ) : ℤ))) : ℚ) *
        2 ^ (-((52 - Nat.log 2 n : ℕ) : ℤ)) = n := by
      rw [hscaled, round_half_even_int, ← hscaled, div_mul_cancel₀]
      exact zpow_ne_zero _ two_ne_zero
    have hsmall : ¬ (2 : ℚ) ^ 1024 ≤ |(n : ℚ)| := by
      rw [Nat.abs_cast, not_le]
      calc (n : ℚ) < (2 ^ 53 : ℕ) := Nat.cast_lt.mpr h
        _ = 2 ^ 53 := by push_cast; rfl
        _ ≤ 2 ^ 1024 := pow_le_pow_right₀ one_le_two (by omega)
    rw [toDouble, if_neg (Nat.cast_ne_zero.mpr hzero)]
    simp only [hexponent, hrounded]
    rw [if_neg hsmall]

/-- Counting down by one is exact up to `2 ^ 53`. -/
theorem sub_one {n : ℕ} (h : n < 2 ^ 53) :
    (finite ((n + 1 : ℕ) : ℚ)).sub (.finite 1) = .finite n := by
  rw [← to_double_nat h, sub]
  congr 1
  push_cast
  ring

/-! ## Texts -/

/-- Rounding does not go below an integer bound. -/
theorem le_round_half_even {q : ℚ} {z : ℤ} (h : (z : ℚ) ≤ q) : z ≤ roundHalfEven q := by
  have hfloor : z ≤ ⌊q⌋ := Int.le_floor.mpr h
  unfold roundHalfEven
  dsimp only
  split_ifs <;> omega

/-- Rounding does not go above an integer bound. -/
theorem round_half_even_le {q : ℚ} {z : ℤ} (h : q ≤ z) : roundHalfEven q ≤ z := by
  have hfloor : ⌊q⌋ ≤ z := Int.floor_le_iff.mpr (h.trans_lt (by linarith))
  have hbelow : (⌊q⌋ : ℚ) ≤ q := Int.floor_le q
  have hcases : ⌊q⌋ < z ∨ ⌊q⌋ = z := lt_or_eq_of_le hfloor
  unfold roundHalfEven
  dsimp only
  obtain hlt | heq := hcases
  · split_ifs <;> omega
  · have hzero : q - ⌊q⌋ < 1 / 2 := by
      rw [heq]
      linarith
    rw [if_pos hzero]
    exact hfloor

/-- Rounding to a double keeps a number between two integers of at most 53 bits. -/
theorem to_double_between {q : ℚ} {low high : ℕ} (hlow : (low : ℚ) ≤ q) (hhigh : q ≤ high)
    (h : high < 2 ^ 53) :
    ∃ value, toDouble q = .finite value ∧ (low : ℚ) ≤ value ∧ value ≤ high := by
  by_cases hzero : q = 0
  · exact ⟨0, by rw [toDouble, if_pos hzero], hzero ▸ hlow, hzero ▸ hhigh⟩
  · have hpos : 0 < q := lt_of_le_of_ne (le_trans (Nat.cast_nonneg low) hlow) (Ne.symm hzero)
    have hlog : Int.log 2 |q| ≤ 52 := by
      rw [abs_of_pos hpos]
      refine Int.lt_add_one_iff.mp ((Int.lt_zpow_iff_log_lt (by omega) hpos).mp ?_)
      calc q ≤ high := hhigh
        _ < ((2 ^ 53 : ℕ) : ℚ) := Nat.cast_lt.mpr h
        _ = ((2 : ℕ) : ℚ) ^ (52 + 1 : ℤ) := by norm_num
    obtain ⟨shift, hshift⟩ : ∃ shift : ℕ, max (-1074) (Int.log 2 |q| - 52) = -(shift : ℤ) :=
      ⟨(-max (-1074) (Int.log 2 |q| - 52)).toNat, by omega⟩
    have hscale (n : ℚ) : n / 2 ^ (-(shift : ℤ)) = n * 2 ^ shift := by
      rw [zpow_neg, div_inv_eq_mul, zpow_natCast]
    have hpow : (0 : ℚ) < 2 ^ shift := by positivity
    have hunscale (n : ℚ) : n * 2 ^ (-(shift : ℤ)) = n / 2 ^ shift := by
      rw [zpow_neg, zpow_natCast, div_eq_mul_inv]
    have hge : ((low * 2 ^ shift : ℕ) : ℤ) ≤ roundHalfEven (q * 2 ^ shift) := by
      refine le_round_half_even ?_
      push_cast
      gcongr
    have hle : roundHalfEven (q * 2 ^ shift) ≤ ((high * 2 ^ shift : ℕ) : ℤ) := by
      refine round_half_even_le ?_
      push_cast
      gcongr
    have hgeRat : (low : ℚ) ≤ roundHalfEven (q * 2 ^ shift) / 2 ^ shift := by
      rw [le_div_iff₀ hpow]
      exact_mod_cast hge
    have hleRat : roundHalfEven (q * 2 ^ shift) / 2 ^ shift ≤ (high : ℚ) := by
      rw [div_le_iff₀ hpow]
      exact_mod_cast hle
    refine ⟨_, ?_, hgeRat, hleRat⟩
    have hsmall : ¬ (2 : ℚ) ^ 1024 ≤ |(roundHalfEven (q * 2 ^ shift) : ℚ) / 2 ^ shift| := by
      rw [not_le, abs_of_nonneg (le_trans (Nat.cast_nonneg low) hgeRat)]
      calc (roundHalfEven (q * 2 ^ shift) / 2 ^ shift : ℚ) ≤ high := hleRat
        _ < ((2 ^ 53 : ℕ) : ℚ) := Nat.cast_lt.mpr h
        _ = 2 ^ 53 := by push_cast; rfl
        _ ≤ 2 ^ 1024 := pow_le_pow_right₀ one_le_two (by omega)
    rw [toDouble, if_neg hzero]
    simp only [hshift, hscale, hunscale]
    rw [if_neg hsmall]

/-- A positive number has a decimal digit that is not zero. -/
theorem exists_digit_ne_zero {n : ℕ} (h : 0 < n) : ∃ c ∈ Nat.toDigits 10 n, c ≠ '0' := by
  induction n using Nat.strongRecOn with
  | ind n ih =>
      by_cases hsmall : n < 10
      · rw [Nat.toDigits_of_lt_base hsmall]
        have hdigit : ∀ n < 10, 0 < n → n.digitChar ≠ '0' := by decide
        exact ⟨_, List.mem_singleton_self _, hdigit n hsmall h⟩
      · obtain ⟨c, hc, hne⟩ := ih (n / 10) (by omega) (by omega)
        rw [Nat.toDigits_of_base_le (by omega) (by omega)]
        exact ⟨c, List.mem_append_left _ hc, hne⟩

/-- The shortest decimal of a positive number has a digit. -/
theorem shortest_digits_ne_nil {q : ℚ} (h : 0 < q) : (shortestDigits q).1 ≠ [] := by
  unfold shortestDigits
  dsimp only
  generalize hcount : (List.find? _ _ |>.getD 17) = count
  have hpos : 1 ≤ count := by
    rw [← hcount]
    cases hfind : List.find? _ _ with
    | none => decide
    | some found =>
        obtain ⟨n, -, hn⟩ := List.mem_map.mp (List.mem_of_find?_eq_some hfind)
        show 1 ≤ found
        omega
  have hone : (1 : ℤ) ≤ roundHalfEven (q * 10 ^ ((count : ℤ) - (Int.log 10 q + 1))) := by
    refine le_round_half_even ?_
    calc ((1 : ℤ) : ℚ) = 1 := Int.cast_one
      _ ≤ 10 ^ ((count : ℤ) - 1) := one_le_zpow₀ (by norm_num) (by omega)
      _ = 10 ^ Int.log 10 q * 10 ^ ((count : ℤ) - (Int.log 10 q + 1)) := by
          rw [← zpow_add₀ (by norm_num)]
          congr 1
          omega
      _ ≤ q * 10 ^ ((count : ℤ) - (Int.log 10 q + 1)) := by
          gcongr
          exact_mod_cast Int.zpow_log_le_self (b := 10) (by norm_num) h
  obtain ⟨n, hn⟩ := Int.eq_ofNat_of_zero_le (le_trans zero_le_one hone)
  rw [hn] at hone ⊢
  obtain ⟨c, hc, hne⟩ := exists_digit_ne_zero (n := n) (by omega)
  rw [Ne, List.reverse_eq_nil_iff, List.dropWhile_eq_nil_iff]
  intro hall
  have hmem : c ∈ (ToString.toString ((n : ℕ) : ℤ)).toList.reverse := by
    rw [List.mem_reverse]
    show c ∈ n.repr.toList
    rw [Nat.toList_repr]
    exact hc
  exact hne (by simpa using hall c hmem)

/-- The text of a positive number is not empty. -/
theorem positive_to_string_ne_empty {q : ℚ} (h : 0 < q) : positiveToString q ≠ "" := by
  have hdigits := shortest_digits_ne_nil h
  unfold positiveToString
  dsimp only
  split_ifs <;> rw [Ne, ← String.toList_eq_nil_iff, String.toList_ofList] <;> simp [hdigits]

/-- The text of a number is not empty. -/
theorem to_string_ne_empty (n : Number) : n.toString ≠ "" := by
  cases n with
  | nan => decide
  | infinity negative => cases negative <;> decide
  | finite q =>
      simp only [toString]
      split_ifs with hzero hneg
      · decide
      · intro h
        have := congrArg String.length h
        simp at this
      · exact positive_to_string_ne_empty (lt_of_le_of_ne (not_lt.mp hneg) (Ne.symm hzero))

end Number

end JavaScript
