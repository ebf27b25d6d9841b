import MyHomeHub.Conditions.Syntax

/-!
# Evaluating a rendered expression

The evaluator returns what the rendered expression denotes. The proof follows the three
passes: the scanner turns a rendering into the tokens of the expression, the parser turns
these tokens into items, one per operand or group, and the evaluator folds the items from
the left.
-/

namespace MyHomeHub.Conditions

open JavaScript

variable {α : Type} {number : α → Nat}

/-! ## Scanning -/

/-- A text that does not go on with a digit. -/
def EndsDigits (text : List Char) : Prop :=
  ∀ c ∈ text.head?, c.isDigit = false

theorem ends_digits_cons {c : Char} {text : List Char} (h : c.isDigit = false) :
    EndsDigits (c :: text) := by
  intro d hd
  rw [List.head?_cons, Option.mem_some_iff] at hd
  exact hd ▸ h

/-- A digit is added to the digits read so far. -/
theorem scan_digit {pending rest : List Char} {c : Char} (h : c.isDigit) :
    scanTokens pending (c :: rest) = scanTokens (pending ++ [c]) rest := by
  rw [scanTokens.eq_def]
  split
  all_goals simp_all

/-- A run of digits is added to the digits read so far. -/
theorem scan_digits {pending digits rest : List Char} (h : ∀ c ∈ digits, c.isDigit) :
    scanTokens pending (digits ++ rest) = scanTokens (pending ++ digits) rest := by
  induction digits generalizing pending with
  | nil => simp
  | cons c digits ih =>
      rw [List.cons_append, scan_digit (h c List.mem_cons_self),
        ih fun d hd => h d (List.mem_cons_of_mem c hd), List.append_assoc,
        List.singleton_append]

/-- The digits end where no digit follows. -/
theorem scan_flush {pending rest : List Char} (h : EndsDigits rest) :
    scanTokens pending rest = digitsToken pending ++ scanTokens [] rest := by
  rw [scanTokens.eq_def pending, scanTokens.eq_def []]
  split <;> simp_all [digitsToken, EndsDigits]

/-- Spaces are skipped. -/
theorem scan_spaces (count : Nat) (rest : List Char) :
    scanTokens [] (spaces count ++ rest) = scanTokens [] rest := by
  induction count with
  | zero => rfl
  | succ count ih => exact ih

/-- An operator is one token. -/
theorem scan_operator (op : Operator) (rest : List Char) :
    scanTokens [] (op.text ++ rest) = .operator op :: scanTokens [] rest := by
  cases op <;> rfl

/-- The tokens of a rendering: `Renders` without the spaces. -/
inductive RendersTokens (number : α → Nat) : Level → BoolExpr α → List Token → Prop where
  | operand (a : α) (digits : List Char) :
      digitsValue digits = number a →
      RendersTokens number .item (.operand a) [.digits digits]
  | group (e : BoolExpr α) (tokens : List Token) :
      RendersTokens number .expression e tokens →
      RendersTokens number .item e (.openGroup :: tokens ++ [.closeGroup])
  | single (e : BoolExpr α) (tokens : List Token) :
      RendersTokens number .item e tokens → RendersTokens number .expression e tokens
  | binary (op : Operator) (left right : BoolExpr α) (tokensLeft tokensRight : List Token) :
      RendersTokens number .expression left tokensLeft →
      RendersTokens number .item right tokensRight →
      RendersTokens number .expression (.binary op left right)
        (tokensLeft ++ .operator op :: tokensRight)

theorem ends_digits_spaces (count : Nat) {rest : List Char} (h : EndsDigits rest) :
    EndsDigits (spaces count ++ rest) := by
  cases count with
  | zero => exact h
  | succ count => exact ends_digits_cons (by decide)

theorem ends_digits_operator (op : Operator) (rest : List Char) :
    EndsDigits (op.text ++ rest) := by
  cases op <;> exact ends_digits_cons (by decide)

/-- The scanner turns a rendering into the tokens of the expression. -/
theorem scan_renders {level : Level} {e : BoolExpr α} {text : List Char}
    (h : Renders number level e text) :
    ∃ tokens, RendersTokens number level e tokens ∧ ∀ rest, EndsDigits rest →
      scanTokens [] (text ++ rest) = tokens ++ scanTokens [] rest := by
  induction h with
  | operand a digits hne hdigits hvalue =>
      refine ⟨_, .operand a digits hvalue, fun rest hrest => ?_⟩
      rw [scan_digits hdigits, List.nil_append, scan_flush hrest, digitsToken,
        if_neg (by simpa using hne)]
  | group e text before after _ ih =>
      obtain ⟨tokens, htokens, hscan⟩ := ih
      refine ⟨_, .group e tokens htokens, fun rest _ => ?_⟩
      have hclose : EndsDigits (spaces after ++ ([')'] ++ rest)) :=
        ends_digits_spaces after (ends_digits_cons (by decide))
      calc scanTokens [] ('(' :: (spaces before ++ text ++ spaces after ++ [')']) ++ rest)
          = .openGroup :: scanTokens [] (spaces before ++ (text ++ (spaces after ++
              ([')'] ++ rest)))) := by simp [scanTokens, digitsToken]
        _ = .openGroup :: (tokens ++ .closeGroup :: scanTokens [] rest) := by
            rw [scan_spaces, hscan _ hclose, scan_spaces]
            rfl
        _ = _ := by simp
  | single e text _ ih =>
      obtain ⟨tokens, htokens, hscan⟩ := ih
      exact ⟨tokens, .single e tokens htokens, hscan⟩
  | binary op left right textLeft textRight before after _ _ ihLeft ihRight =>
      obtain ⟨tokensLeft, hleft, hscanLeft⟩ := ihLeft
      obtain ⟨tokensRight, hright, hscanRight⟩ := ihRight
      refine ⟨_, .binary op left right _ _ hleft hright, fun rest hrest => ?_⟩
      have hoperator : EndsDigits (spaces before ++ (op.text ++ (spaces after ++
          (textRight ++ rest)))) :=
        ends_digits_spaces before (ends_digits_operator op _)
      simp only [List.append_assoc]
      rw [hscanLeft _ hoperator, scan_spaces, scan_operator, scan_spaces, hscanRight _ hrest]
      simp

/-! ## Parsing -/

/-- The parse loop returns the result, for some amount of fuel. -/
def Parses (parsed group : TriggerExpression) (tokens : List Token)
    (result : TriggerExpression × List Token) : Prop :=
  ∃ fuel, parseLoop fuel parsed group tokens = some result

section Parses

variable {parsed group inner : TriggerExpression} {tokens rest : List Token}
  {result : TriggerExpression × List Token}

theorem Parses.nil : Parses parsed group [] (pushExpressionGroup parsed group, []) :=
  ⟨1, rfl⟩

theorem Parses.close_group :
    Parses parsed group (.closeGroup :: tokens) (pushExpressionGroup parsed group, tokens) :=
  ⟨1, rfl⟩

theorem Parses.digits {text : List Char}
    (h : Parses (parsed ++ [.operand (digitsValue text)]) group tokens result) :
    Parses parsed group (.digits text :: tokens) result := by
  obtain ⟨fuel, hfuel⟩ := h
  exact ⟨fuel + 1, hfuel⟩

theorem Parses.operator {op : Operator}
    (h : Parses (pushExpressionGroup parsed group ++ [.operator op]) [] tokens result) :
    Parses parsed group (.operator op :: tokens) result := by
  obtain ⟨fuel, hfuel⟩ := h
  exact ⟨fuel + 1, hfuel⟩

/-- A group is parsed by the recursive call, which leaves the tokens behind the group. -/
theorem Parses.open_group (hinner : Parses [] [] tokens (inner, rest))
    (hrest : Parses parsed (group ++ [.group inner]) rest result) :
    Parses parsed group (.openGroup :: tokens) result := by
  -- the recursive call and the rest of the loop share the fuel that is left
  obtain ⟨fuel, hfuel⟩ := hinner
  obtain ⟨more, hmore⟩ := hrest
  refine ⟨max fuel more + 1, ?_⟩
  simp only [parseLoop, parse_loop_mono (le_max_left fuel more) hfuel, Option.bind_eq_bind,
    Option.bind_some]
  exact parse_loop_mono (le_max_right fuel more) hmore

end Parses

mutual
/-- The operands that an item holds, in order. -/
def itemOperands : TriggerExpressionToken → List Nat
  | .operator _ => []
  | .operand index => [index]
  | .group items => expressionOperands items

/-- The operands that a parsed expression holds, in order. -/
def expressionOperands : TriggerExpression → List Nat
  | [] => []
  | item :: items => itemOperands item ++ expressionOperands items
end

theorem expression_operands_append (items more : TriggerExpression) :
    expressionOperands (items ++ more) = expressionOperands items ++ expressionOperands more := by
  induction items with
  | nil => rfl
  | cons item items ih => simp [expressionOperands, ih]

/-- A condition of every operand: `conditions` holds the value of each operand at the operand's
position. -/
def Conforms (number : α → Nat) (value : α → Bool) (conditions : List Bool) : Prop :=
  ∀ a, operandCondition conditions (number a) = some (value a)

/-- Evaluating an item that is no operator continues with its condition. -/
theorem evaluate_loop_cons {conditions : List Bool} {result : Option Bool}
    {operator : Option Operator} {item : TriggerExpressionToken} {items : TriggerExpression}
    {condition : Bool} (h : evaluateItem conditions item = some condition) :
    evaluateLoop conditions result operator (item :: items) =
      evaluateLoop conditions (combine result operator (some condition)) operator items := by
  cases item with
  | operator op => simp [evaluateItem] at h
  | operand index => rw [evaluateLoop, h]; simp
  | group inner => rw [evaluateLoop, h]; simp

/-- The parser reads an item of the expression: it leaves one item behind the parsed ones, as an
operand or as a group that is still to be pushed. -/
structure ItemParsed (number : α → Nat) (e : BoolExpr α) (tokens : List Token)
    (item : TriggerExpressionToken) : Prop where
  operands : itemOperands item = e.operands.map number
  condition : ∀ value conditions, Conforms number value conditions →
    evaluateItem conditions item = some (e.denote value)
  parses : ∀ parsed rest result,
    (∀ parsed' group', pushExpressionGroup parsed' group' = parsed ++ [item] →
      Parses parsed' group' rest result) →
    Parses parsed [] (tokens ++ rest) result

/-- The parser reads a whole expression: the items it leaves evaluate to the value of the
expression, whatever follows them. -/
structure ExpressionParsed (number : α → Nat) (e : BoolExpr α) (tokens : List Token)
    (items : TriggerExpression) : Prop where
  operands : expressionOperands items = e.operands.map number
  condition : ∀ value conditions, Conforms number value conditions →
    ∃ operator, ∀ more, evaluateLoop conditions none none (items ++ more) =
      evaluateLoop conditions (some (e.denote value)) operator more
  parses : ∀ rest result,
    (∀ parsed group, pushExpressionGroup parsed group = items →
      Parses parsed group rest result) →
    Parses [] [] (tokens ++ rest) result

/-- An operand is one item. -/
theorem item_parsed_operand {a : α} {digits : List Char}
    (h : digitsValue digits = number a) :
    ItemParsed number (.operand a) [.digits digits] (.operand (number a)) where
  operands := rfl
  condition value conditions hconforms := by
    rw [evaluateItem, hconforms a]
    rfl
  parses parsed rest result hrest := by
    refine .digits (hrest _ _ ?_)
    rw [h]
    rfl

/-- A group is one item. -/
theorem ExpressionParsed.group {e : BoolExpr α} {tokens : List Token} {items : TriggerExpression}
    (h : ExpressionParsed number e tokens items) :
    ItemParsed number e (.openGroup :: tokens ++ [.closeGroup]) (.group items) where
  operands := by rw [itemOperands, h.operands]
  condition value conditions hconforms := by
    obtain ⟨operator, hloop⟩ := h.condition value conditions hconforms
    have hend := hloop []
    rw [List.append_nil] at hend
    rw [evaluateItem, hend]
    simp [evaluateLoop]
  parses parsed rest result hrest := by
    have hinner : Parses [] [] (tokens ++ .closeGroup :: rest) (items, rest) := by
      refine h.parses _ _ fun parsed' group' hpush => ?_
      rw [← hpush]
      exact .close_group
    rw [List.append_assoc, List.cons_append, List.singleton_append]
    exact .open_group hinner (hrest _ _ rfl)

/-- An item alone is an expression. -/
theorem ItemParsed.single {e : BoolExpr α} {tokens : List Token} {item : TriggerExpressionToken}
    (h : ItemParsed number e tokens item) : ExpressionParsed number e tokens [item] where
  operands := by simp [expressionOperands, h.operands]
  condition value conditions hconforms := by
    refine ⟨none, fun more => ?_⟩
    rw [List.singleton_append, evaluate_loop_cons (h.condition value conditions hconforms)]
    rfl
  parses rest result hrest := h.parses [] rest result hrest

/-- An operator combines the expression before it with the item behind it. -/
theorem ExpressionParsed.binary {left right : BoolExpr α} {tokensLeft tokensRight : List Token}
    {items : TriggerExpression} {item : TriggerExpressionToken}
    (hleft : ExpressionParsed number left tokensLeft items)
    (hright : ItemParsed number right tokensRight item) (op : Operator) :
    ExpressionParsed number (.binary op left right)
      (tokensLeft ++ .operator op :: tokensRight) (items ++ [.operator op, item]) where
  operands := by
    simp [expression_operands_append, expressionOperands, itemOperands, hleft.operands,
      hright.operands, BoolExpr.operands]
  condition value conditions hconforms := by
    obtain ⟨operator, hloop⟩ := hleft.condition value conditions hconforms
    refine ⟨some op, fun more => ?_⟩
    have hstep : combine (some (left.denote value)) (some op) (some (right.denote value)) =
        some ((BoolExpr.binary op left right).denote value) := by
      cases op <;> cases h : left.denote value <;> simp [combine, BoolExpr.denote, h]
    calc evaluateLoop conditions none none (items ++ [.operator op, item] ++ more)
        = evaluateLoop conditions (some (left.denote value)) (some op) (item :: more) := by
          rw [List.append_assoc, hloop]
          simp [evaluateLoop]
      _ = _ := by
          rw [evaluate_loop_cons (hright.condition value conditions hconforms), hstep]
  parses rest result hrest := by
    rw [List.append_assoc, List.cons_append]
    refine hleft.parses _ _ fun parsed group hpush => ?_
    refine .operator (hright.parses _ _ _ fun parsed' group' hpush' => hrest _ _ ?_)
    rw [hpush', hpush, List.append_assoc]
    rfl

/-- The parser reads the tokens of an expression. -/
theorem parsed_of_renders_tokens {level : Level} {e : BoolExpr α} {tokens : List Token}
    (h : RendersTokens number level e tokens) :
    match level with
    | .item => ∃ item, ItemParsed number e tokens item
    | .expression => ∃ items, ExpressionParsed number e tokens items := by
  induction h with
  | operand a digits hvalue => exact ⟨_, item_parsed_operand hvalue⟩
  | group e tokens _ ih =>
      obtain ⟨items, hitems⟩ := ih
      exact ⟨_, hitems.group⟩
  | single e tokens _ ih =>
      obtain ⟨item, hitem⟩ := ih
      exact ⟨_, hitem.single⟩
  | binary op left right tokensLeft tokensRight _ _ ihLeft ihRight =>
      obtain ⟨items, hitems⟩ := ihLeft
      obtain ⟨item, hitem⟩ := ihRight
      exact ⟨_, hitems.binary hitem op⟩

/-! ## The evaluator -/

/-- The operands that the digits of a token list stand for. -/
def tokenOperands (tokens : List Token) : List Nat :=
  tokens.filterMap fun token =>
    match token with
    | .digits text => some (digitsValue text)
    | _ => none

/-- The tokens of a rendering hold the operands of the expression. -/
theorem RendersTokens.operands {level : Level} {e : BoolExpr α} {tokens : List Token}
    (h : RendersTokens number level e tokens) :
    tokenOperands tokens = e.operands.map number := by
  induction h with
  | operand a digits hvalue => simp [tokenOperands, BoolExpr.operands, hvalue]
  | group e tokens _ ih => simpa [tokenOperands] using ih
  | single _ _ _ ih => exact ih
  | binary op left right tokensLeft tokensRight _ _ ihLeft ihRight =>
      rw [BoolExpr.operands, List.map_append, ← ihLeft, ← ihRight]
      simp [tokenOperands, List.filterMap_append]

/-- A rendering has tokens. -/
theorem RendersTokens.ne_nil {level : Level} {e : BoolExpr α} {tokens : List Token}
    (h : RendersTokens number level e tokens) : tokens ≠ [] := by
  induction h with
  | operand => simp
  | group => simp
  | single _ _ _ ih => exact ih
  | binary => simp

/-- The parser reads a rendered expression to its end. -/
theorem parse_renders {e : BoolExpr α} {text : List Char}
    (h : Renders number .expression e text) :
    ∃ tokens items, scanTokens [] text = tokens ∧ RendersTokens number .expression e tokens ∧
      ExpressionParsed number e tokens items ∧ parseTriggerExpression tokens = (items, []) := by
  obtain ⟨tokens, htokens, hscan⟩ := scan_renders h
  obtain ⟨items, hitems⟩ := parsed_of_renders_tokens htokens
  refine ⟨tokens, items, ?_, htokens, hitems, ?_⟩
  · have hend := hscan [] (by simp [EndsDigits])
    simpa [scanTokens, digitsToken] using hend
  · have hparses : Parses [] [] (tokens ++ []) (items, []) := by
      refine hitems.parses [] _ fun parsed group hpush => ?_
      rw [← hpush]
      exact .nil
    rw [List.append_nil] at hparses
    obtain ⟨fuel, hfuel⟩ := hparses
    exact parse_trigger_expression_eq hfuel

/-- The evaluator returns the value of a rendered expression. -/
theorem evaluate_renders {e : BoolExpr α} {text : String} {value : α → Bool}
    {conditions : List Bool} (h : Renders number .expression e text.toList)
    (hconforms : Conforms number value conditions) :
    evaluateTriggerExpression text conditions = .ok (some (e.denote value)) := by
  obtain ⟨tokens, items, hscan, htokens, hitems, hparse⟩ := parse_renders h
  obtain ⟨operator, hloop⟩ := hitems.condition value conditions hconforms
  have hextract : extractTriggerExpressionTokens text = some tokens := by
    rw [extractTriggerExpressionTokens, hscan]
    cases tokens with
    | nil => exact absurd rfl htokens.ne_nil
    | cons token tokens => rfl
  have hend := hloop []
  rw [List.append_nil] at hend
  rw [evaluateTriggerExpression, hextract]
  simp only [hparse, evaluateExpression, hend, evaluateLoop]

/-- For operands numbered from one, the conditions of the operands are a vector of booleans. -/
theorem evaluate_trigger_expression_eq_denote {n : Nat} (e : BoolExpr (Fin n)) (text : String)
    (value : Fin n → Bool) (h : Renders (fun i : Fin n => i.val + 1) .expression e text.toList) :
    evaluateTriggerExpression text (List.ofFn value) = .ok (some (e.denote value)) := by
  refine evaluate_renders h fun i => ?_
  rw [operandCondition, List.getElem?_ofFn, dif_pos i.isLt]

/-- The value of `1 AND ((2) OR 03)` on the vector true, false, true. -/
theorem evaluate_trigger_expression_eq_denote_nested :
    evaluateTriggerExpression "1 AND ((2) OR 03)" (List.ofFn ![true, false, true]) =
      .ok (some ((BoolExpr.binary .and (.operand 0)
        (.binary .or (.operand 1) (.operand 2))).denote ![true, false, true])) :=
  evaluate_trigger_expression_eq_denote _ _ _
    (.binary .and (.operand 0) (.binary .or (.operand 1) (.operand 2)) ['1']
      ['(', '(', '2', ')', ' ', 'O', 'R', ' ', '0', '3', ')'] 1 1
      (.single _ _ (.operand 0 ['1'] (by simp) (by simp) (by rfl)))
      (.group _ ['(', '2', ')', ' ', 'O', 'R', ' ', '0', '3'] 0 0
        (.binary .or (.operand 1) (.operand 2) ['(', '2', ')'] ['0', '3'] 1 1
          (.single _ _ (.group _ ['2'] 0 0
            (.single _ _ (.operand 1 ['2'] (by simp) (by simp) (by rfl)))))
          (.operand 2 ['0', '3'] (by simp) (by simp) (by rfl)))))

end MyHomeHub.Conditions
