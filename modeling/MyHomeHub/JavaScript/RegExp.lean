import MyHomeHub.JavaScript.Number

/-!
# Regular expressions

The constructs of an ECMAScript pattern between `^` and `$` as regular expressions over
characters. `test` runs the derivative matcher, and the lemmas say which texts each
construct matches.
-/

namespace JavaScript.RegExp

open RegularExpression Computability

/-- A pattern that a whole text has to match. -/
abbrev Pattern := RegularExpression Char

/-- A literal text. -/
def literal (text : List Char) : Pattern :=
  text.foldr (fun c pattern => char c * pattern) 1

/-- `\d` -/
def digit : Pattern :=
  ['0', '1', '2', '3', '4', '5', '6', '7', '8', '9'].foldr (fun c pattern => char c + pattern) 0

/-- `pattern+` -/
def oneOrMore (pattern : Pattern) : Pattern :=
  pattern * pattern.star

/-- `/^pattern$/.test(text)` -/
def test (pattern : Pattern) (text : String) : Bool :=
  pattern.rmatch text.toList

/-- A text passes the test when it is in the language of the pattern. -/
theorem test_iff {pattern : Pattern} {text : String} :
    test pattern text = true ↔ text.toList ∈ pattern.matches' :=
  rmatch_iff_matches' pattern text.toList

theorem mem_char {c : Char} {chars : List Char} :
    chars ∈ (char c : Pattern).matches' ↔ chars = [c] :=
  Iff.rfl

theorem mem_literal {text chars : List Char} :
    chars ∈ (literal text).matches' ↔ chars = text := by
  induction text generalizing chars with
  | nil => simp [literal, Language.mem_one]
  | cons c text ih =>
      rw [literal, List.foldr_cons, matches'_mul, Language.mem_mul]
      constructor
      · intro h
        obtain ⟨first, hfirst, rest, hrest, rfl⟩ := h
        rw [mem_char.mp hfirst, ih.mp hrest]
        rfl
      · rintro rfl
        exact ⟨[c], mem_char.mpr rfl, text, ih.mpr rfl, rfl⟩

theorem mem_digit {chars : List Char} :
    chars ∈ digit.matches' ↔ ∃ c : Char, c.isDigit ∧ chars = [c] := by
  simp only [digit, List.foldr_cons, List.foldr_nil, matches'_add, matches'_zero,
    Language.mem_add, mem_char, Language.notMem_zero, or_false]
  constructor
  · rintro (h | h | h | h | h | h | h | h | h | h) <;> exact ⟨_, by decide, h⟩
  · intro h
    obtain ⟨c, hc, rfl⟩ := h
    have hrange : 48 ≤ c.toNat ∧ c.toNat ≤ 57 := by
      simpa [Char.isDigit, UInt32.le_iff_toNat_le] using hc
    rcases hrange with ⟨hlow, hhigh⟩
    have hcases : c.toNat = 48 ∨ c.toNat = 49 ∨ c.toNat = 50 ∨ c.toNat = 51 ∨ c.toNat = 52 ∨
        c.toNat = 53 ∨ c.toNat = 54 ∨ c.toNat = 55 ∨ c.toNat = 56 ∨ c.toNat = 57 := by omega
    simp only [List.cons.injEq, and_true, ← Char.toNat_inj]
    exact hcases

/-- A star over single characters matches the texts of such characters. -/
theorem mem_star_of_chars {pattern : Pattern} {p : Char → Prop}
    (h : ∀ chars, chars ∈ pattern.matches' ↔ ∃ c, p c ∧ chars = [c]) {chars : List Char} :
    chars ∈ pattern.star.matches' ↔ ∀ c ∈ chars, p c := by
  rw [matches'_star, Language.mem_kstar]
  constructor
  · intro h c hc
    obtain ⟨parts, rfl, hparts⟩ := h
    obtain ⟨part, hpart, hmem⟩ := List.mem_flatten.mp hc
    obtain ⟨d, hd, rfl⟩ := (h part).mp (hparts part hpart)
    rw [List.mem_singleton] at hmem
    exact hmem ▸ hd
  · intro hchars
    refine ⟨chars.map fun c => [c], by rw [← List.flatMap_def, List.flatMap_singleton'], ?_⟩
    intro part hpart
    obtain ⟨c, hc, rfl⟩ := List.mem_map.mp hpart
    exact (h [c]).mpr ⟨c, hchars c hc, rfl⟩

/-- `c*` matches the runs of the character. -/
theorem mem_star_char {c : Char} {chars : List Char} :
    chars ∈ (char c).star.matches' ↔ ∃ count, chars = List.replicate count c := by
  have hchar : ∀ chars, chars ∈ (char c : Pattern).matches' ↔ ∃ d, d = c ∧ chars = [d] :=
    fun _ => mem_char.trans (by simp)
  rw [mem_star_of_chars hchar, ← List.eq_replicate_length]
  constructor
  · exact fun h => ⟨_, h⟩
  · intro h
    obtain ⟨count, rfl⟩ := h
    rw [List.length_replicate]

/-- `\d+` matches the nonempty runs of digits. -/
theorem mem_digits {chars : List Char} :
    chars ∈ (oneOrMore digit).matches' ↔ chars ≠ [] ∧ ∀ c ∈ chars, c.isDigit := by
  rw [oneOrMore, matches'_mul, Language.mem_mul]
  constructor
  · intro h
    obtain ⟨first, hfirst, rest, hrest, rfl⟩ := h
    obtain ⟨c, hc, rfl⟩ := mem_digit.mp hfirst
    refine ⟨by simp, fun d hd => ?_⟩
    rcases List.mem_cons.mp hd with rfl | hd
    · exact hc
    · exact (mem_star_of_chars fun _ => mem_digit).mp hrest d hd
  · intro h
    obtain ⟨hne, hdigits⟩ := h
    obtain ⟨c, rest, rfl⟩ := List.exists_cons_of_ne_nil hne
    refine ⟨[c], mem_digit.mpr ⟨c, hdigits c List.mem_cons_self, rfl⟩, rest, ?_, rfl⟩
    exact (mem_star_of_chars fun _ => mem_digit).mpr fun d hd =>
      hdigits d (List.mem_cons_of_mem c hd)

end JavaScript.RegExp
