import MyHomeHub.Conditions.Remainder

/-!
# Expressions that use each operand once

An expression over AND and OR that uses an operand once can be decided by it: the other
operands can be given values under which the expression has the value of that operand.
-/

namespace MyHomeHub.Conditions

open JavaScript

variable {α : Type}

namespace BoolExpr

/-- The value depends on the values of the operands. -/
theorem denote_congr {e : BoolExpr α} {value other : α → Bool}
    (h : ∀ a ∈ e.operands, value a = other a) : e.denote value = e.denote other := by
  induction e with
  | operand a => exact h a List.mem_cons_self
  | binary op left right ihLeft ihRight =>
      have hleft := ihLeft fun a ha => h a (List.mem_append_left _ ha)
      have hright := ihRight fun a ha => h a (List.mem_append_right _ ha)
      cases op with
      | or => rw [denote, denote, hleft, hright]
      | and => rw [denote, denote, hleft, hright]

/-- An expression has an operand. -/
theorem operands_ne_nil (e : BoolExpr α) : e.operands ≠ [] := by
  induction e with
  | operand a => exact List.cons_ne_nil a []
  | binary op left right ihLeft _ => exact List.append_ne_nil_of_left_ne_nil ihLeft _

/-- If all operands have one value, so has the expression. -/
theorem denote_const (e : BoolExpr α) (b : Bool) : e.denote (fun _ => b) = b := by
  induction e with
  | operand a => rfl
  | binary op left right ihLeft ihRight =>
      cases op with
      | or => rw [denote, ihLeft, ihRight, Bool.or_self]
      | and => rw [denote, ihLeft, ihRight, Bool.and_self]

/-- An expression of which one side has the neutral value of the operator has the value of the
other side. -/
theorem denote_binary_neutral {op : Operator} {left right : BoolExpr α} {value : α → Bool}
    {b : Bool} :
    (right.denote value = decide (op = .and) → left.denote value = b →
        (BoolExpr.binary op left right).denote value = b) ∧
      (left.denote value = decide (op = .and) → right.denote value = b →
        (BoolExpr.binary op left right).denote value = b) := by
  cases op with
  | or =>
      constructor
      · intro hright hleft
        rw [denote, hleft, hright]
        exact Bool.or_false b
      · intro hleft hright
        rw [denote, hleft, hright]
        exact Bool.false_or b
  | and =>
      constructor
      · intro hright hleft
        rw [denote, hleft, hright]
        exact Bool.and_true b
      · intro hleft hright
        rw [denote, hleft, hright]
        exact Bool.true_and b

variable [DecidableEq α]

/-- The values of the operands of one side, and one value for all others. -/
def valueWithin (side : BoolExpr α) (value : α → Bool) (others : Bool) (a : α) : Bool :=
  if a ∈ side.operands then value a else others

/-- An operand of one side changes nothing on the other side, which shares no operand with it. -/
theorem denote_value_within {side other : BoolExpr α} {a : α} (ha : a ∈ side.operands)
    (hapart : ∀ x ∈ side.operands, x ∉ other.operands) (value : α → Bool) (others b : Bool) :
    side.denote (Function.update (side.valueWithin value others) a b) =
        side.denote (Function.update value a b) ∧
      other.denote (Function.update (side.valueWithin value others) a b) = others := by
  constructor
  · refine denote_congr fun x hx => ?_
    by_cases hsame : x = a
    · rw [hsame, Function.update_self, Function.update_self]
    · rw [Function.update_of_ne hsame, Function.update_of_ne hsame]
      exact if_pos hx
  · refine (denote_congr fun x hx => ?_).trans (denote_const other others)
    have hnot : x ∉ side.operands := fun hside => hapart x hside hx
    have hne : x ≠ a := fun hsame => hnot (hsame ▸ ha)
    rw [Function.update_of_ne hne]
    exact if_neg hnot

/-- An operand that is used once can decide the value of the expression. -/
theorem decided_by_operand {e : BoolExpr α} {a : α} (hunique : e.operands.Nodup)
    (ha : a ∈ e.operands) : ∃ value, ∀ b, e.denote (Function.update value a b) = b := by
  induction e with
  | operand own =>
      cases List.mem_singleton.mp ha
      exact ⟨fun _ => false, fun b => Function.update_self _ _ _⟩
  | binary op left right ihLeft ihRight =>
      obtain ⟨hleftUnique, hrightUnique, hdisjoint⟩ := List.nodup_append.mp hunique
      -- the side without the operand gets the neutral value of the operator
      rcases List.mem_append.mp ha with hleft | hright
      · obtain ⟨value, hvalue⟩ := ihLeft hleftUnique hleft
        refine ⟨left.valueWithin value (decide (op = .and)), fun b => ?_⟩
        obtain ⟨hown, hother⟩ := denote_value_within hleft
          (fun x hx hxRight => hdisjoint x hx x hxRight rfl) value (decide (op = .and)) b
        exact denote_binary_neutral.1 hother (hown.trans (hvalue b))
      · obtain ⟨value, hvalue⟩ := ihRight hrightUnique hright
        refine ⟨right.valueWithin value (decide (op = .and)), fun b => ?_⟩
        obtain ⟨hown, hother⟩ := denote_value_within hright
          (fun x hx hxLeft => hdisjoint x hxLeft x hx rfl) value (decide (op = .and)) b
        exact denote_binary_neutral.2 hother (hown.trans (hvalue b))

end BoolExpr

/-- A rendering whose operands are the numbers from one to `n` renders an expression over the `n`
positions. -/
theorem Renders.positions {n : Nat} {level : Level} {e : BoolExpr Nat} {text : List Char}
    (h : Renders id level e text) (hinside : ∀ o ∈ e.operands, 1 ≤ o ∧ o ≤ n) :
    ∃ positions : BoolExpr (Fin n),
      Renders (fun i : Fin n => i.val + 1) level positions text ∧
        positions.operands.map (fun i : Fin n => i.val + 1) = e.operands := by
  induction h with
  | operand o digits hne hdigits hvalue =>
      obtain ⟨hpositive, hle⟩ := hinside o List.mem_cons_self
      have hnumber : o - 1 + 1 = o := by omega
      refine ⟨.operand ⟨o - 1, by omega⟩, .operand _ digits hne hdigits ?_, ?_⟩
      · rw [hvalue]
        exact hnumber.symm
      · rw [BoolExpr.operands, BoolExpr.operands, List.map_singleton, hnumber]
  | group e text before after _ ih =>
      obtain ⟨positions, hrenders, hoperands⟩ := ih hinside
      exact ⟨positions, .group positions text before after hrenders, hoperands⟩
  | single e text _ ih =>
      obtain ⟨positions, hrenders, hoperands⟩ := ih hinside
      exact ⟨positions, .single positions text hrenders, hoperands⟩
  | binary op left right textLeft textRight before after _ _ ihLeft ihRight =>
      obtain ⟨first, hfirst, hfirstOperands⟩ :=
        ihLeft fun o ho => hinside o (List.mem_append_left _ ho)
      obtain ⟨second, hsecond, hsecondOperands⟩ :=
        ihRight fun o ho => hinside o (List.mem_append_right _ ho)
      refine ⟨.binary op first second,
        .binary op first second textLeft textRight before after hfirst hsecond, ?_⟩
      rw [BoolExpr.operands, List.map_append, hfirstOperands, hsecondOperands]
      rfl

end MyHomeHub.Conditions
