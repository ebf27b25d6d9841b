import MyHomeHub.JavaScript.Number
import MyHomeHub.Library.Templates

/-!
# ECMAScript strings

`split` at one character, `replace` of the first occurrence of one, and what `trim` leaves of a
text. The text that `replace` writes is not always the one it is given: a dollar sign in it can
refer to the text around the occurrence.
-/

namespace JavaScript

open Library

/-- `String.prototype.split` at a separator of one character. -/
def split (s : String) (separator : Char) : List String :=
  (s.toList.splitOn separator).map String.ofList

/-- The text that a dollar sign and the symbol behind it stand for in a replacement: a dollar
sign, the occurrence, the text before it (for U+0060) or the text behind it (for U+0027). -/
def referenced (occurrence front back : List Char) (symbol : Char) : Option (List Char) :=
  if symbol = '$' then some ['$']
  else if symbol = '&' then some occurrence
  else if symbol.val = 0x60 then some front
  else if symbol.val = 0x27 then some back
  else none

/-- `GetSubstitution` for a search without captures. -/
def substitution (occurrence front back : List Char) : List Char → List Char
  | [] => []
  | [c] => [c]
  | c :: symbol :: rest =>
      match (if c = '$' then referenced occurrence front back symbol else none) with
      | some text => text ++ substitution occurrence front back rest
      | none => c :: substitution occurrence front back (symbol :: rest)

/-- `String.prototype.replace` on a list of characters, with one character to search for. -/
def replaceChars (searched : Char) (replacement text : List Char) : List Char :=
  let front := text.takeWhile (· ≠ searched)
  match text.dropWhile (· ≠ searched) with
  | [] => text
  | occurrence :: back => front ++ (substitution [occurrence] front back replacement ++ back)

/-- `String.prototype.replace` with a string of one character to search for. -/
def replace (s : String) (searched : Char) (replacement : String) : String :=
  String.ofList (replaceChars searched replacement.toList s.toList)

variable {occurrence front back replacement text : List Char} {searched : Char}

/-- Only a dollar sign refers to anything. -/
theorem substitution_of_no_dollar (hdollar : '$' ∉ replacement) :
    substitution occurrence front back replacement = replacement := by
  fun_induction substitution occurrence front back replacement with
  | case1 => rfl
  | case2 => rfl
  | case3 c symbol rest text hreferenced ih =>
      rw [if_neg fun h : c = '$' => hdollar (h ▸ List.mem_cons_self)] at hreferenced
      cases hreferenced
  | case4 c symbol rest hreferenced ih =>
      rw [ih fun h => hdollar (List.mem_cons_of_mem c h)]

/-- A replacement without a dollar sign stands in place of the first occurrence. -/
theorem replace_chars_of_no_dollar (hdollar : '$' ∉ replacement) :
    replaceChars searched replacement text = fillFirst searched replacement text := by
  have hfront : searched ∉ text.takeWhile (· ≠ searched) := by
    intro hmem
    have hother := List.mem_takeWhile_imp hmem
    exact absurd rfl (of_decide_eq_true hother)
  unfold replaceChars
  split
  · rename_i hback
    rw [fill_first_of_no_mark]
    have htext := List.takeWhile_append_dropWhile (p := (· ≠ searched)) (l := text)
    rw [hback, List.append_nil] at htext
    exact htext ▸ hfront
  · rename_i found back hback
    have hfound : found = searched := by
      have hhead := List.head?_dropWhile_not (fun c => decide (c ≠ searched)) text
      rw [hback] at hhead
      simpa using hhead
    cases hfound
    have htext := List.takeWhile_append_dropWhile (p := (· ≠ searched)) (l := text)
    rw [hback] at htext
    show text.takeWhile _ ++ (substitution _ _ back replacement ++ back) = _
    rw [substitution_of_no_dollar hdollar]
    conv => rhs; rw [← htext]
    exact (fill_first_mark hfront).symm

/-! ## Trimming -/

theorem mem_of_mem_trim_chars {c : Char} (hc : c ∈ trimChars text) : c ∈ text := by
  have hinner := (List.dropWhile_sublist _).mem (List.mem_reverse.mp hc)
  exact (List.dropWhile_sublist _).mem (List.mem_reverse.mp hinner)

/-- A text whose ends are not white space is left as it is. -/
theorem trim_chars_of_ends (hfirst : ∀ c, text.head? = some c → isWhitespace c = false)
    (hlast : ∀ c, text.reverse.head? = some c → isWhitespace c = false) :
    trimChars text = text := by
  have hdrop : ∀ other : List Char, (∀ c, other.head? = some c → isWhitespace c = false) →
      other.dropWhile isWhitespace = other := by
    intro other hhead
    cases other with
    | nil => rfl
    | cons c rest => rw [List.dropWhile_cons, hhead c rfl]; rfl
  rw [trimChars, hdrop text hfirst, hdrop text.reverse hlast, List.reverse_reverse]

/-- What is trimmed does not begin with white space. -/
theorem trim_chars_head {c : Char} (hc : (trimChars text).head? = some c) :
    isWhitespace c = false := by
  have hprefix : trimChars text <+: text.dropWhile isWhitespace := by
    have hsuffix := List.reverse_prefix.mpr
      (List.dropWhile_suffix (l := (text.dropWhile isWhitespace).reverse) isWhitespace)
    rwa [List.reverse_reverse] at hsuffix
  obtain ⟨behind, hbehind⟩ := hprefix
  have hhead := List.head?_dropWhile_not isWhitespace text
  rw [← hbehind, List.head?_append, hc] at hhead
  exact hhead

end JavaScript
