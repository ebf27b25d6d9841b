import MyHomeHub.Conditions.Evaluator

/-!
# Boolean expressions

What a trigger logic is meant to say: boolean expressions over operands, the value they
denote, and the texts that render them. The two operators have the same precedence and
associate to the left, so the right operand of an operator is a single item: an operand
or a parenthesised group. Any expression may stand in parentheses, also in more of them
than it needs, and spaces may stand around an operator and inside a group.

`completed` and `expecting` describe texts that are read so far, with groups still open.
Reading one more piece of text moves between the two, and a completed text without open
groups renders an expression.
-/

namespace MyHomeHub.Conditions

open JavaScript

/-- A boolean expression over operands of type `α`. -/
inductive BoolExpr (α : Type) where
  | operand (operand : α)
  | binary (operator : Operator) (left right : BoolExpr α)
  deriving Repr

variable {α : Type}

namespace BoolExpr

/-- The boolean an expression denotes when the operands have the given values. -/
def denote (value : α → Bool) : BoolExpr α → Bool
  | .operand a => value a
  | .binary .or left right => left.denote value || right.denote value
  | .binary .and left right => left.denote value && right.denote value

/-- The operands of an expression in the order in which they are written. -/
def operands : BoolExpr α → List α
  | .operand a => [a]
  | .binary _ left right => left.operands ++ right.operands

end BoolExpr

/-- The text of an operator. -/
def Operator.text : Operator → List Char
  | .or => ['O', 'R']
  | .and => ['A', 'N', 'D']

/-- A run of spaces. -/
def spaces (count : Nat) : List Char :=
  List.replicate count ' '

/-- Where an expression may stand: an item binds tighter than an operator. -/
inductive Level where
  | item
  | expression
  deriving DecidableEq, Repr

/-- `Renders number level e text` says that `text` is a way to write `e`, where an operand is
written as its number, with any number of leading zeros. -/
inductive Renders (number : α → Nat) : Level → BoolExpr α → List Char → Prop where
  | operand (operand : α) (digits : List Char) :
      digits ≠ [] → (∀ c ∈ digits, c.isDigit) → digitsValue digits = number operand →
      Renders number .item (.operand operand) digits
  | group (e : BoolExpr α) (text : List Char) (before after : Nat) :
      Renders number .expression e text →
      Renders number .item e ('(' :: (spaces before ++ text ++ spaces after ++ [')']))
  | single (e : BoolExpr α) (text : List Char) :
      Renders number .item e text → Renders number .expression e text
  | binary (op : Operator) (left right : BoolExpr α) (textLeft textRight : List Char)
      (before after : Nat) :
      Renders number .expression left textLeft → Renders number .item right textRight →
      Renders number .expression (.binary op left right)
        (textLeft ++ spaces before ++ op.text ++ spaces after ++ textRight)

/-! ## Texts with open groups -/

section OpenGroups

variable (number : α → Nat)

/-- A text in which `depth` groups are open and the innermost one holds a whole expression. -/
def Completed : (depth : Nat) → List Char → Prop
  | 0, text => ∃ e, Renders number .expression e text
  | depth + 1, text => ∃ outer inner e, text = outer ++ '(' :: inner ∧
      Renders number .expression e inner ∧
      ∀ item group, Renders number .item item group → Completed depth (outer ++ group)

/-- A text in which `depth` groups are open and that an item completes. -/
def Expecting (depth : Nat) (text : List Char) : Prop :=
  ∀ item operand, Renders number .item item operand → Completed number depth (text ++ operand)

variable {number} {depth : Nat} {text : List Char}

/-- Nothing has been read yet. -/
theorem expecting_nil : Expecting number 0 [] := by
  intro item operand h
  exact ⟨item, .single item operand h⟩

/-- Opening a group. -/
theorem Expecting.open_group (h : Expecting number depth text) :
    Expecting number (depth + 1) (text ++ ['(']) := by
  intro item operand hitem
  refine ⟨text, operand, item, by simp, .single item operand hitem, h⟩

/-- Closing a group. -/
theorem Completed.close_group (h : Completed number (depth + 1) text) :
    Completed number depth (text ++ [')']) := by
  obtain ⟨outer, inner, e, rfl, hinner, houter⟩ := h
  have hgroup := houter e _ (.group e inner 0 0 hinner)
  simpa [spaces] using hgroup

/-- Reading an operator after a whole expression. -/
theorem Completed.operator (h : Completed number depth text) (op : Operator)
    (before after : Nat) :
    Expecting number depth (text ++ spaces before ++ op.text ++ spaces after) := by
  intro item operand hitem
  cases depth with
  | zero =>
      obtain ⟨e, he⟩ := h
      exact ⟨_, .binary op e item text operand before after he hitem⟩
  | succ depth =>
      obtain ⟨outer, inner, e, rfl, hinner, houter⟩ := h
      refine ⟨outer, _, _, ?_, .binary op e item inner operand before after hinner hitem, houter⟩
      simp only [List.append_assoc, List.cons_append]

/-- Opening several groups. -/
theorem Expecting.open_groups (h : Expecting number depth text) (count : Nat) :
    Expecting number (depth + count) (text ++ List.replicate count '(') := by
  induction count with
  | zero => simpa using h
  | succ count ih =>
      have hopen := ih.open_group
      rwa [List.append_assoc, ← List.replicate_succ'] at hopen

/-- Closing several groups. -/
theorem Completed.close_groups {count : Nat} (h : Completed number (depth + count) text) :
    Completed number depth (text ++ List.replicate count ')') := by
  induction count generalizing text with
  | zero => simpa using h
  | succ count ih =>
      have hclose := ih (Completed.close_group h)
      rwa [List.append_assoc, List.singleton_append, ← List.replicate_succ] at hclose

end OpenGroups

end MyHomeHub.Conditions
