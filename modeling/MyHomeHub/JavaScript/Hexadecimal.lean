import MyHomeHub.JavaScript.Number

/-!
# Hexadecimal digits

`toString(16)` prints a number with the digits `0` to `f`, and `parseInt` reads a run of
such digits in either case. What is printed is read back as the same number, with or
without the zeros that `padStart` puts before it.
-/

namespace JavaScript

/-- The value of a hexadecimal digit of either case. -/
def hexDigitValue (c : Char) : Option ℕ :=
  Number.radixValue 16 [c]

/-- A hexadecimal digit that `toString(16)` prints. -/
def IsLowerHexDigit (c : Char) : Prop :=
  c ∈ ['0', '1', '2', '3', '4', '5', '6', '7', '8', '9', 'a', 'b', 'c', 'd', 'e', 'f']

instance (c : Char) : Decidable (IsLowerHexDigit c) :=
  inferInstanceAs (Decidable (c ∈ _))

/-- A digit is a decimal digit or one of the first six letters. -/
theorem hex_digit_value_range {c : Char} {value : ℕ} (h : hexDigitValue c = some value) :
    value < 16 ∧ (48 ≤ c.toNat ∧ c.toNat ≤ 57 ∨ 97 ≤ c.toNat ∧ c.toNat ≤ 102 ∨
      65 ≤ c.toNat ∧ c.toNat ≤ 70) := by
  have hdigit : c.isDigit = true ↔ 48 ≤ c.toNat ∧ c.toNat ≤ 57 := Char.isDigit_iff_toNat
  have hlower : c.isLower = true ↔ 97 ≤ c.toNat ∧ c.toNat ≤ 122 := by
    simp [Char.isLower, UInt32.le_iff_toNat_le]
  have hupper : c.isUpper = true ↔ 65 ≤ c.toNat ∧ c.toNat ≤ 90 := by
    simp [Char.isUpper, UInt32.le_iff_toNat_le]
  have ha : 'a'.toNat = 97 := rfl
  have hA : 'A'.toNat = 65 := rfl
  unfold hexDigitValue Number.radixValue at h
  simp only [List.isEmpty_cons, Bool.false_eq_true, if_false, List.foldlM_cons, List.foldlM_nil,
    Option.bind_eq_bind, Nat.mul_zero, Nat.zero_add] at h
  generalize hdigitValue : (if c.isDigit = true then digitValue c else _) = digit at h
  split_ifs at h with hsmall
  · simp only [Option.bind_some, pure, Option.some.injEq] at h
    split_ifs at hdigitValue with hisDigit hisLower hisUpper
    · exact ⟨by omega, .inl (hdigit.mp hisDigit)⟩
    · have hletter := hlower.mp hisLower
      omega
    · have hletter := hupper.mp hisUpper
      omega
    · omega
  · cases h

/-- The digits are no signs, no letters of a prefix and no white space. -/
theorem hex_digit_value_cases {c : Char} {value : ℕ} (h : hexDigitValue c = some value) :
    isWhitespace c = false ∧ c ∉ ['#', '-', '+', 'x', 'X'] ∧
      c.val ∉ [0x0A, 0x0D, 0x2028, 0x2029] := by
  obtain ⟨-, hrange⟩ := hex_digit_value_range h
  have hall : ∀ n < 103, 48 ≤ n ∧ n ≤ 57 ∨ 97 ≤ n ∧ n ≤ 102 ∨ 65 ≤ n ∧ n ≤ 70 →
      isWhitespace (Char.ofNat n) = false ∧ Char.ofNat n ∉ ['#', '-', '+', 'x', 'X'] ∧
      (Char.ofNat n).val ∉ [0x0A, 0x0D, 0x2028, 0x2029] := by decide +kernel
  have hn := hall c.toNat (by omega) hrange
  rwa [Char.ofNat_toNat] at hn

namespace Number

variable {digits : List Char} {c : Char}

/-- One more digit behind a number. -/
theorem radix_value_concat (h : digits ≠ []) :
    radixValue 16 (digits ++ [c]) =
      (radixValue 16 digits).bind fun value => (hexDigitValue c).map (16 * value + ·) := by
  obtain ⟨first, rest, rfl⟩ := List.exists_cons_of_ne_nil h
  simp only [hexDigitValue, radixValue, List.cons_append, List.isEmpty_cons, Bool.false_eq_true,
    if_false]
  rw [← List.cons_append, List.foldlM_append]
  show Option.bind _ _ = _
  refine congrArg _ (funext fun value => ?_)
  simp only [List.foldlM_cons, List.foldlM_nil, Option.bind_eq_bind]
  split_ifs <;> simp

/-- A zero before a number does not change it. -/
theorem radix_value_zero_cons (h : digits ≠ []) :
    radixValue 16 ('0' :: digits) = radixValue 16 digits := by
  obtain ⟨first, rest, rfl⟩ := List.exists_cons_of_ne_nil h
  rfl

theorem radix_value_zeros (count : ℕ) (h : digits ≠ []) :
    radixValue 16 (List.replicate count '0' ++ digits) = radixValue 16 digits := by
  induction count with
  | zero => rfl
  | succ count ih =>
      rw [List.replicate_succ, List.cons_append, radix_value_zero_cons (by simp [h]), ih]

theorem hex_digit_value_digit_char {n : ℕ} (h : n < 16) :
    hexDigitValue n.digitChar = some n := by
  have hall : ∀ n < 16, hexDigitValue (Nat.digitChar n) = some n := by decide
  exact hall n h

/-- The printed digits of a number are read back as the number. -/
theorem radix_value_to_digits (n : ℕ) : radixValue 16 (Nat.toDigits 16 n) = some n := by
  induction n using Nat.strongRecOn with
  | ind n ih =>
      by_cases hsmall : n < 16
      · rw [Nat.toDigits_of_lt_base hsmall]
        exact hex_digit_value_digit_char hsmall
      · rw [Nat.toDigits_of_base_le (by omega) (by omega), radix_value_concat Nat.toDigits_ne_nil,
          ih (n / 16) (by omega), hex_digit_value_digit_char (Nat.mod_lt n (by omega))]
        show some (16 * (n / 16) + n % 16) = some n
        rw [Nat.div_add_mod]

theorem exists_of_mem_to_digits {n : ℕ} (h : c ∈ Nat.toDigits 16 n) :
    ∃ digit < 16, c = Nat.digitChar digit := by
  induction n using Nat.strongRecOn with
  | ind n ih =>
      by_cases hsmall : n < 16
      · rw [Nat.toDigits_of_lt_base hsmall, List.mem_singleton] at h
        exact ⟨n, hsmall, h⟩
      · rw [Nat.toDigits_of_base_le (by omega) (by omega), List.mem_append,
          List.mem_singleton] at h
        obtain h | h := h
        · exact ih (n / 16) (by omega) h
        · exact ⟨n % 16, Nat.mod_lt n (by omega), h⟩

theorem lower_hex_of_mem_to_digits {n : ℕ} (h : c ∈ Nat.toDigits 16 n) : IsLowerHexDigit c := by
  have hall : ∀ digit < 16, IsLowerHexDigit (Nat.digitChar digit) := by decide
  obtain ⟨digit, hdigit, rfl⟩ := exists_of_mem_to_digits h
  exact hall digit hdigit

/-- The printed digits are in lower case already. -/
theorem to_lower_of_mem_to_digits {n : ℕ} (h : c ∈ Nat.toDigits 16 n) : c.toLower = c := by
  have hall : ∀ digit < 16, ¬ (Nat.digitChar digit).isUpper := by decide
  obtain ⟨digit, hdigit, rfl⟩ := exists_of_mem_to_digits h
  exact Char.toLower_eq_of_not_isUpper (hall digit hdigit)

/-- A number of at most `width` digits, with zeros before it: all digits are printed in lower case,
there are `width` of them, and they are read back as the number. -/
theorem padded_digits {n width : ℕ} (hwidth : 0 < width) (h : n < 16 ^ width) :
    (List.leftpad width '0' (Nat.toDigits 16 n)).length = width ∧
      (∀ c ∈ List.leftpad width '0' (Nat.toDigits 16 n), IsLowerHexDigit c) ∧
      radixValue 16 (List.leftpad width '0' (Nat.toDigits 16 n)) = some n := by
  refine ⟨?_, fun c hc => ?_, ?_⟩
  · rw [List.length_leftpad]
    exact max_eq_left ((Nat.length_toDigits_le_iff (by omega) hwidth).mpr h)
  · rw [List.leftpad, List.mem_append, List.mem_replicate] at hc
    obtain ⟨-, rfl⟩ | hc := hc
    · decide
    · exact lower_hex_of_mem_to_digits hc
  · rw [List.leftpad, radix_value_zeros _ Nat.toDigits_ne_nil, radix_value_to_digits]

end Number

end JavaScript
