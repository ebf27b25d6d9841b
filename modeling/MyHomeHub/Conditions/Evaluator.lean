import MyHomeHub.Common.Errors

/-!
# The trigger expression evaluator

`evaluateTriggerExpression` of the conditions evaluator service. The trigger logic of a
scenario, such as `(1 AND 2) OR 3`, is cut into tokens, the tokens are parsed into nested
arrays, and the arrays are evaluated from left to right on the conditions of the trigger
sources. An operand is the one-based position of a condition.

The parser consumes one token list that all its recursive calls share, so `parseLoop`
returns the tokens it leaves.
-/

namespace MyHomeHub.Conditions

open JavaScript

/-- `OPERATOR_OR` and `OPERATOR_AND`. -/
inductive Operator where
  | or
  | and
  deriving DecidableEq, Repr

/-- A token of the trigger logic. -/
inductive Token where
  | openGroup
  | closeGroup
  | operator (operator : Operator)
  | digits (text : List Char)
  deriving DecidableEq, Repr

/-- An item of a parsed expression. -/
inductive TriggerExpressionToken where
  | operator (operator : Operator)
  | operand (index : Nat)
  | group (items : List TriggerExpressionToken)
  deriving Repr

/-- A parsed expression. -/
abbrev TriggerExpression := List TriggerExpressionToken

/-! ## Tokens -/

/-- The token of the digits read so far, when there are any. -/
def digitsToken (pending : List Char) : List Token :=
  if pending.isEmpty then [] else [.digits pending]

/-- The matches of `/\(|\)|\d+|AND|OR/g` in the text that follows the digits `pending`. Text
outside the matches is skipped. -/
def scanTokens : (pending text : List Char) → List Token
  | pending, '(' :: rest => digitsToken pending ++ .openGroup :: scanTokens [] rest
  | pending, ')' :: rest => digitsToken pending ++ .closeGroup :: scanTokens [] rest
  | pending, 'A' :: 'N' :: 'D' :: rest =>
      digitsToken pending ++ .operator .and :: scanTokens [] rest
  | pending, 'O' :: 'R' :: rest => digitsToken pending ++ .operator .or :: scanTokens [] rest
  | pending, c :: rest =>
      if c.isDigit then scanTokens (pending ++ [c]) rest
      else digitsToken pending ++ scanTokens [] rest
  | pending, [] => digitsToken pending

/-- `extractTriggerExpressionTokens`: `match` returns null when nothing matches. -/
def extractTriggerExpressionTokens (expression : String) : Option (List Token) :=
  match scanTokens [] expression.toList with
  | [] => none
  | tokens => some tokens

/-! ## Parsing -/

/-- Append the groups collected since the last operator: one group is inlined. -/
def pushExpressionGroup (parsed group : TriggerExpression) : TriggerExpression :=
  match group with
  | [] => parsed
  | [item] => parsed ++ [item]
  | items => parsed ++ [.group items]

/-- The loop of `parseTriggerExpression` with its two local lists. The result carries the tokens
that are left, and `none` stands for too little fuel. -/
def parseLoop : (fuel : Nat) → (parsed group : TriggerExpression) → List Token →
    Option (TriggerExpression × List Token)
  | 0, _, _, _ => none
  | _ + 1, parsed, group, [] => some (pushExpressionGroup parsed group, [])
  | fuel + 1, parsed, group, .openGroup :: tokens => do
      let (inner, rest) ← parseLoop fuel [] [] tokens
      parseLoop fuel parsed (group ++ [.group inner]) rest
  | _ + 1, parsed, group, .closeGroup :: tokens =>
      some (pushExpressionGroup parsed group, tokens)
  | fuel + 1, parsed, group, .operator op :: tokens =>
      parseLoop fuel (pushExpressionGroup parsed group ++ [.operator op]) [] tokens
  | fuel + 1, parsed, group, .digits text :: tokens =>
      parseLoop fuel (parsed ++ [.operand (digitsValue text)]) group tokens

/-- The loop ends within one step per token, and it never adds tokens. -/
theorem parse_loop_total {fuel : Nat} {parsed group : TriggerExpression} {tokens : List Token}
    (h : tokens.length < fuel) :
    ∃ expression rest, parseLoop fuel parsed group tokens = some (expression, rest) ∧
      rest.length ≤ tokens.length := by
  induction fuel generalizing parsed group tokens with
  | zero => omega
  | succ fuel ih =>
      cases tokens with
      | nil => exact ⟨_, _, rfl, le_refl _⟩
      | cons token tokens =>
          rw [List.length_cons] at h
          cases token with
          | openGroup =>
              obtain ⟨inner, rest, hinner, hrest⟩ := @ih [] [] tokens (by omega)
              obtain ⟨expression, left, hloop, hleft⟩ :=
                @ih parsed (group ++ [.group inner]) rest (by omega)
              refine ⟨expression, left, ?_, by rw [List.length_cons]; omega⟩
              simp only [parseLoop, hinner]
              exact hloop
          | closeGroup => exact ⟨_, _, rfl, by simp⟩
          | operator op =>
              obtain ⟨expression, left, hloop, hleft⟩ :=
                @ih (pushExpressionGroup parsed group ++ [.operator op]) [] tokens (by omega)
              exact ⟨expression, left, hloop, by rw [List.length_cons]; omega⟩
          | digits text =>
              obtain ⟨expression, left, hloop, hleft⟩ :=
                @ih (parsed ++ [.operand (digitsValue text)]) group tokens (by omega)
              exact ⟨expression, left, hloop, by rw [List.length_cons]; omega⟩

/-- More fuel does not change a result. -/
theorem parse_loop_mono {fuel more : Nat} {parsed group : TriggerExpression}
    {tokens : List Token} {result : TriggerExpression × List Token} (hmore : fuel ≤ more)
    (h : parseLoop fuel parsed group tokens = some result) :
    parseLoop more parsed group tokens = some result := by
  induction fuel generalizing parsed group tokens more result with
  | zero => simp [parseLoop] at h
  | succ fuel ih =>
      obtain ⟨more, rfl⟩ : ∃ n, more = n + 1 := ⟨more - 1, by omega⟩
      have hle : fuel ≤ more := by omega
      cases tokens with
      | nil => exact h
      | cons token tokens =>
          cases token with
          | openGroup =>
              simp only [parseLoop, Option.bind_eq_bind, Option.bind_eq_some_iff] at h ⊢
              obtain ⟨inner, hinner, hloop⟩ := h
              exact ⟨inner, ih hle hinner, ih hle hloop⟩
          | closeGroup => exact h
          | operator op =>
              simp only [parseLoop] at h ⊢
              exact ih hle h
          | digits text =>
              simp only [parseLoop] at h ⊢
              exact ih hle h

/-- `parseTriggerExpression` on a token list: the expression and the tokens it leaves. -/
def parseTriggerExpression (tokens : List Token) : TriggerExpression × List Token :=
  (parseLoop (tokens.length + 1) [] [] tokens).get (by
    obtain ⟨_, _, h, _⟩ := @parse_loop_total _ [] [] tokens (Nat.lt_succ_self tokens.length)
    rw [h]; rfl)

/-- Any amount of fuel that gives a result gives the result of the parser. -/
theorem parse_trigger_expression_eq {fuel : Nat} {tokens : List Token}
    {result : TriggerExpression × List Token}
    (h : parseLoop fuel [] [] tokens = some result) : parseTriggerExpression tokens = result := by
  obtain ⟨expression, rest, htotal, -⟩ :=
    @parse_loop_total _ [] [] tokens (Nat.lt_succ_self tokens.length)
  have hsame : some (expression, rest) = some result := by
    rw [← parse_loop_mono (Nat.le_max_left (tokens.length + 1) fuel) htotal,
      parse_loop_mono (Nat.le_max_right (tokens.length + 1) fuel) h]
  simp only [parseTriggerExpression, htotal, Option.get_some]
  exact Option.some.inj hsame

/-! ## Evaluation -/

/-- `conditions[index - 1]`, undefined outside the array. -/
def operandCondition (conditions : List Bool) : Nat → Option Bool
  | 0 => none
  | index + 1 => conditions[index]?

/-- Combine the result so far with the next condition. Both may be undefined, and without a result
or an operator the condition replaces the result. -/
def combine (result : Option Bool) (operator : Option Operator) (condition : Option Bool) :
    Option Bool :=
  match result, operator with
  | some value, some .or => if value then some value else condition
  | some value, some .and => if value then condition else some value
  | _, _ => condition

mutual
/-- The condition of one item. An operator has none. -/
def evaluateItem (conditions : List Bool) : TriggerExpressionToken → Option Bool
  | .operator _ => none
  | .operand index => operandCondition conditions index
  | .group items => evaluateLoop conditions none none items

/-- The loop of `evaluateExpression` with its two local variables. -/
def evaluateLoop (conditions : List Bool) : (result : Option Bool) →
    (operator : Option Operator) → TriggerExpression → Option Bool
  | result, _, [] => result
  | result, _, .operator op :: items => evaluateLoop conditions result (some op) items
  | result, operator, item :: items =>
      evaluateLoop conditions (combine result operator (evaluateItem conditions item)) operator
        items
end

/-- `evaluateExpression`. -/
def evaluateExpression (expression : TriggerExpression) (conditions : List Bool) : Option Bool :=
  evaluateLoop conditions none none expression

/-- `evaluateTriggerExpression`: a text without tokens is a `TypeError`, since the null that
`match` returns has no length. -/
def evaluateTriggerExpression (expressionLogic : String) (conditions : List Bool) :
    Except HubError (Option Bool) :=
  match extractTriggerExpressionTokens expressionLogic with
  | none => .error .typeError
  | some tokens => .ok (evaluateExpression (parseTriggerExpression tokens).1 conditions)

example : evaluateTriggerExpression "(1 AND 2) OR 3" [true, false, true] = .ok (some true) := by
  decide +kernel

end MyHomeHub.Conditions
