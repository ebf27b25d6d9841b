import MyHomeHub.Conditions.Evaluation

/-!
# What the parser leaves unread

The parser closes a group at every closing parenthesis, also where no group is open: there
it returns, and nobody looks at the tokens that are left. Open groups at the end are closed
without a word. So the parse of a token list does not depend on closing parentheses behind
it, and it ends at the first one that closes no group.
-/

namespace MyHomeHub.Conditions

open JavaScript

/-! ## Open groups in a token list -/

/-- The number of open groups after one more token, or none when it closes a group that is not
open. -/
def tokenDepthStep (depth : Nat) : Token → Option Nat
  | .openGroup => some (depth + 1)
  | .closeGroup => if depth = 0 then none else some (depth - 1)
  | _ => some depth

/-- The number of open groups after some tokens, or none when they close a group that is not
open. -/
def tokenDepth (depth : Nat) (tokens : List Token) : Option Nat :=
  tokens.foldlM tokenDepthStep depth

variable {parsed group expression : TriggerExpression} {tokens rest read : List Token}
  {fuel depth after : Nat}

theorem token_depth_cons (depth : Nat) (token : Token) (tokens : List Token) :
    tokenDepth depth (token :: tokens) =
      (tokenDepthStep depth token).bind (tokenDepth · tokens) := by
  simp [tokenDepth]

theorem token_depth_append (depth : Nat) (tokens more : List Token) :
    tokenDepth depth (tokens ++ more) = (tokenDepth depth tokens).bind (tokenDepth · more) := by
  simp [tokenDepth, List.foldlM_append]

/-- In a group, the same tokens leave one more group open. -/
theorem token_depth_succ (h : tokenDepth depth tokens = some after) :
    tokenDepth (depth + 1) tokens = some (after + 1) := by
  induction tokens generalizing depth with
  | nil =>
      simp only [tokenDepth, List.foldlM_nil, Option.pure_def, Option.some.injEq] at h ⊢
      omega
  | cons token tokens ih =>
      rw [token_depth_cons] at h ⊢
      obtain ⟨next, hstep, hrest⟩ := Option.bind_eq_some_iff.mp h
      have hshifted : tokenDepthStep (depth + 1) token = some (next + 1) := by
        cases token with
        | openGroup =>
            cases hstep
            rfl
        | closeGroup =>
            rw [tokenDepthStep] at hstep ⊢
            split at hstep
            · cases hstep
            · cases hstep
              rw [if_neg (by omega)]
              congr 1
              omega
        | operator op =>
            cases hstep
            rfl
        | digits text =>
            cases hstep
            rfl
      rw [hshifted]
      exact ih hrest

/-- A group that is opened and closed leaves the depth as it was. -/
theorem token_depth_group (h : tokenDepth 0 read = some 0) :
    tokenDepth 0 (.openGroup :: read ++ [.closeGroup]) = some 0 := by
  rw [List.cons_append, token_depth_cons]
  show tokenDepth 1 (read ++ [.closeGroup]) = some 0
  rw [token_depth_append, token_depth_succ h]
  rfl

/-! ## Where the parser stops -/

/-- The parser stops behind the first parenthesis that closes no group, or it reads everything. -/
theorem parse_loop_stops (h : parseLoop fuel parsed group tokens = some (expression, rest)) :
    (∃ read, tokens = read ++ .closeGroup :: rest ∧ tokenDepth 0 read = some 0) ∨
      (rest = [] ∧ ∃ depth, tokenDepth 0 tokens = some depth) := by
  induction fuel generalizing parsed group tokens expression rest with
  | zero => cases h
  | succ fuel ih =>
      -- a token that is no parenthesis can be put before what the rest of the loop reads
      have hbefore {token : Token} {tokens : List Token}
          (hkeeps : ∀ depth, tokenDepthStep depth token = some depth)
          (hrest : (∃ read, tokens = read ++ .closeGroup :: rest ∧ tokenDepth 0 read = some 0) ∨
            (rest = [] ∧ ∃ depth, tokenDepth 0 tokens = some depth)) :
          (∃ read, token :: tokens = read ++ .closeGroup :: rest ∧
              tokenDepth 0 read = some 0) ∨
            (rest = [] ∧ ∃ depth, tokenDepth 0 (token :: tokens) = some depth) := by
        rcases hrest with ⟨read, rfl, hread⟩ | ⟨hnil, depth, hdepth⟩
        · refine .inl ⟨token :: read, rfl, ?_⟩
          rw [token_depth_cons, hkeeps]
          exact hread
        · refine .inr ⟨hnil, depth, ?_⟩
          rw [token_depth_cons, hkeeps]
          exact hdepth
      cases tokens with
      | nil =>
          cases h
          exact .inr ⟨rfl, 0, rfl⟩
      | cons token tokens =>
          cases token with
          | openGroup =>
              simp only [parseLoop, Option.bind_eq_bind, Option.bind_eq_some_iff] at h
              obtain ⟨⟨inner, left⟩, hinner, houter⟩ := h
              rcases ih hinner with ⟨read, rfl, hread⟩ | ⟨rfl, depth, hdepth⟩
              · rcases ih houter with ⟨more, rfl, hmore⟩ | ⟨hnil, depth, hdepth⟩
                · refine .inl ⟨.openGroup :: read ++ [.closeGroup] ++ more, by simp, ?_⟩
                  rw [token_depth_append, token_depth_group hread]
                  exact hmore
                · refine .inr ⟨hnil, depth, ?_⟩
                  have hsplit : Token.openGroup :: (read ++ .closeGroup :: left) =
                      (.openGroup :: read ++ [.closeGroup]) ++ left := by simp
                  rw [hsplit, token_depth_append, token_depth_group hread]
                  exact hdepth
              · -- the group is never closed, so nothing is left for the outer loop
                rcases ih houter with ⟨more, hnil, -⟩ | ⟨hnil, -⟩
                · exact absurd hnil.symm (by simp)
                · refine .inr ⟨hnil, depth + 1, ?_⟩
                  rw [token_depth_cons]
                  exact token_depth_succ hdepth
          | closeGroup =>
              cases h
              exact .inl ⟨[], rfl, rfl⟩
          | operator op => exact hbefore (fun _ => rfl) (ih h)
          | digits text => exact hbefore (fun _ => rfl) (ih h)

/-- The parser returns some expression and leaves some tokens. -/
theorem parse_result (tokens : List Token) :
    ∃ fuel expression rest, parseLoop fuel [] [] tokens = some (expression, rest) ∧
      parseTriggerExpression tokens = (expression, rest) := by
  obtain ⟨expression, rest, h, -⟩ :=
    @parse_loop_total _ [] [] tokens (Nat.lt_succ_self tokens.length)
  exact ⟨_, expression, rest, h, parse_trigger_expression_eq h⟩

/-- The parser leaves what stands behind the first parenthesis that closes no group. -/
theorem parse_leaves_rest (h : tokenDepth 0 read = some 0) :
    (parseTriggerExpression (read ++ .closeGroup :: rest)).2 = rest := by
  have hnone (more : List Token) (hmore : tokenDepth 0 more = some 0) (tail : List Token) :
      tokenDepth 0 (more ++ .closeGroup :: tail) = none := by
    rw [token_depth_append, hmore]
    rfl
  obtain ⟨fuel, expression, left, hfuel, hresult⟩ := parse_result (read ++ .closeGroup :: rest)
  rw [hresult]
  rcases parse_loop_stops hfuel with ⟨other, hsplit, hother⟩ | ⟨-, depth, hdepth⟩
  · -- neither of the two prefixes can go on behind the other one
    rcases List.append_eq_append_iff.mp hsplit with ⟨more, rfl, hrest⟩ | ⟨more, rfl, hrest⟩
    · cases more with
      | nil => exact (List.cons.inj hrest).2.symm
      | cons token more =>
          cases (List.cons.inj hrest).1
          rw [hnone read h] at hother
          cases hother
    · cases more with
      | nil => exact (List.cons.inj hrest).2
      | cons token more =>
          cases (List.cons.inj hrest).1
          rw [hnone other hother] at h
          cases h
  · rw [hnone read h] at hdepth
    cases hdepth

/-! ## The operands that are read and left -/

theorem expression_operands_push :
    (expressionOperands (pushExpressionGroup parsed group)).length =
      (expressionOperands parsed).length + (expressionOperands group).length := by
  unfold pushExpressionGroup
  split
  · rfl
  · rw [expression_operands_append, List.length_append]
  · simp [expression_operands_append, expressionOperands, itemOperands]

/-- Every operand of the tokens is either parsed or left. -/
theorem parse_loop_operands (h : parseLoop fuel parsed group tokens = some (expression, rest)) :
    (expressionOperands expression).length + (tokenOperands rest).length =
      (expressionOperands parsed).length + (expressionOperands group).length +
        (tokenOperands tokens).length := by
  induction fuel generalizing parsed group tokens expression rest with
  | zero => cases h
  | succ fuel ih =>
      cases tokens with
      | nil =>
          cases h
          rw [expression_operands_push]
      | cons token tokens =>
          cases token with
          | openGroup =>
              simp only [parseLoop, Option.bind_eq_bind, Option.bind_eq_some_iff] at h
              obtain ⟨⟨inner, left⟩, hinner, houter⟩ := h
              have hread := ih hinner
              have hgroup := ih houter
              simp only [expression_operands_append, expressionOperands, itemOperands,
                List.length_append, List.append_nil, List.length_nil] at hread hgroup
              have htokens : tokenOperands (.openGroup :: tokens) = tokenOperands tokens := rfl
              rw [htokens]
              omega
          | closeGroup =>
              cases h
              rw [expression_operands_push]
              rfl
          | operator op =>
              have hread := ih h
              have hlength := @expression_operands_push parsed group
              simp only [expression_operands_append, expressionOperands, itemOperands,
                List.length_append, List.length_nil] at hread
              have htokens : tokenOperands (.operator op :: tokens) = tokenOperands tokens := rfl
              rw [htokens]
              omega
          | digits text =>
              have hread := ih h
              simp only [expression_operands_append, expressionOperands, itemOperands,
                List.length_append, List.length_cons, List.length_nil] at hread
              have htokens : (tokenOperands (.digits text :: tokens)).length =
                  (tokenOperands tokens).length + 1 := rfl
              omega

theorem parse_operands (tokens : List Token) :
    (expressionOperands (parseTriggerExpression tokens).1).length +
      (tokenOperands (parseTriggerExpression tokens).2).length =
        (tokenOperands tokens).length := by
  obtain ⟨fuel, expression, rest, hfuel, hresult⟩ := parse_result tokens
  rw [hresult]
  simpa [expressionOperands] using parse_loop_operands hfuel

/-! ## Closing parentheses at the end -/

/-- Another closing parenthesis at the end is left, or it closes what the end would have closed. -/
theorem parse_loop_append_close
    (h : parseLoop fuel parsed group tokens = some (expression, rest)) :
    Parses parsed group (tokens ++ [.closeGroup]) (expression, rest ++ [.closeGroup]) ∨
      (rest = [] ∧ Parses parsed group (tokens ++ [.closeGroup]) (expression, [])) := by
  induction fuel generalizing parsed group tokens expression rest with
  | zero => cases h
  | succ fuel ih =>
      cases tokens with
      | nil =>
          cases h
          exact .inr ⟨rfl, .close_group⟩
      | cons token tokens =>
          cases token with
          | openGroup =>
              simp only [parseLoop, Option.bind_eq_bind, Option.bind_eq_some_iff] at h
              obtain ⟨⟨inner, left⟩, hinner, houter⟩ := h
              rcases ih hinner with hread | ⟨rfl, hread⟩
              · rcases ih houter with hmore | ⟨hnil, hmore⟩
                · exact .inl (.open_group hread hmore)
                · exact .inr ⟨hnil, .open_group hread hmore⟩
              · -- the group is closed by the new parenthesis
                obtain ⟨fuel, rfl⟩ : ∃ n, fuel = n + 1 := by
                  cases fuel with
                  | zero => cases houter
                  | succ fuel => exact ⟨fuel, rfl⟩
                cases houter
                exact .inr ⟨rfl, .open_group hread .nil⟩
          | closeGroup =>
              cases h
              exact .inl .close_group
          | operator op =>
              rcases ih h with hread | ⟨hnil, hread⟩
              · exact .inl (.operator hread)
              · exact .inr ⟨hnil, .operator hread⟩
          | digits text =>
              rcases ih h with hread | ⟨hnil, hread⟩
              · exact .inl (.digits hread)
              · exact .inr ⟨hnil, .digits hread⟩

/-- Closing parentheses at the end change nothing in what is parsed. -/
theorem parse_append_close (tokens : List Token) (count : Nat) :
    (parseTriggerExpression (tokens ++ List.replicate count .closeGroup)).1 =
      (parseTriggerExpression tokens).1 := by
  induction count generalizing tokens with
  | zero => rw [List.replicate_zero, List.append_nil]
  | succ count ih =>
      have hparse (result : TriggerExpression × List Token)
          (h : Parses [] [] (tokens ++ [.closeGroup]) result) :
          parseTriggerExpression (tokens ++ [.closeGroup]) = result := by
        obtain ⟨fuel, hfuel⟩ := h
        exact parse_trigger_expression_eq hfuel
      have hone : (parseTriggerExpression (tokens ++ [.closeGroup])).1 =
          (parseTriggerExpression tokens).1 := by
        obtain ⟨fuel, expression, rest, hfuel, hresult⟩ := parse_result tokens
        rw [hresult]
        rcases parse_loop_append_close hfuel with h | ⟨-, h⟩
        · rw [hparse _ h]
        · rw [hparse _ h]
      have hrest := ih (tokens ++ [.closeGroup])
      rw [List.append_assoc, List.singleton_append] at hrest
      rw [List.replicate_succ, hrest, hone]

end MyHomeHub.Conditions
