import MyHomeHub.Conditions.Evaluation
import MyHomeHub.JavaScript.RegExp
import MyHomeHub.Scenarios.Interfaces

/-!
# The trigger logic validator

`validateTriggerLogic` accepts a trigger logic by a regular expression. The parentheses
of a text are not a regular property, so the validator also accepts texts whose groups do
not match up, such as `1) AND (2`, and the parser then stops at the first surplus
closing parenthesis. `groupDepth` counts the open groups in one pass over the text, and
`well_formed_iff_group_depth` shows that it separates the well-formed texts among the accepted ones.
-/

namespace MyHomeHub.Scenarios

open JavaScript JavaScript.RegExp RegularExpression Computability Conditions

/-! ## The validator -/

/-- An operand with the parentheses around it: `\(*\d+\)*` -/
def operandPattern : Pattern :=
  (char '(').star * oneOrMore digit * (char ')').star

/-- An operator with the spaces around it: ` *(?:AND|OR) *` -/
def operatorPattern : Pattern :=
  (char ' ').star * (literal ['A', 'N', 'D'] + literal ['O', 'R']) * (char ' ').star

/-- `/^\(*\d+\)*(?: *(?:AND|OR) *\(*\d+\)*)*$/` -/
def triggerLogicPattern : Pattern :=
  operandPattern * (operatorPattern * operandPattern).star

/-- The matches of `/\d+/g` in the text that follows the digits `pending`. -/
def digitRuns : (pending text : List Char) → List (List Char)
  | pending, [] => if pending.isEmpty then [] else [pending]
  | pending, c :: rest =>
      if c.isDigit then digitRuns (pending ++ [c]) rest
      else (if pending.isEmpty then [] else [pending]) ++ digitRuns [] rest

/-- `validateTriggerLogic`: the validator of the trigger logic, which sees the trigger sources of
the same scenario. -/
def validateTriggerLogic (triggerSources : List ScenarioTriggerSource) (value : String) :
    Except HubError Bool := do
  if !test triggerLogicPattern value then
    throw (.thrown ("Trigger logic expression must be a valid boolean expression in the " ++
      "following format: (1 AND 2) OR 3"))
  let operands := (digitRuns [] value.toList).map digitsValue
  if operands.length ≠ triggerSources.length ||
      operands.any (fun o => decide (o > triggerSources.length)) then
    throw (.thrown ("The number of trigger sources does not match the number and combination " ++
      "of operands used in the logic expression"))
  return true

/-- An accepted text matches the pattern. -/
theorem matches_of_validate {triggerSources : List ScenarioTriggerSource} {value : String}
    (h : validateTriggerLogic triggerSources value = .ok true) :
    test triggerLogicPattern value = true := by
  cases htest : test triggerLogicPattern value with
  | true => rfl
  | false => simp [validateTriggerLogic, htest, bind, Except.bind, throw, throwThe,
      MonadExceptOf.throw] at h

/-! ## The shape of an accepted text -/

/-- A run of digits between opening and closing parentheses. -/
structure OperandText where
  opening : Nat
  digits : List Char
  closing : Nat
  digits_ne_nil : digits ≠ []
  digits_are_digits : ∀ c ∈ digits, c.isDigit

/-- The characters of an operand. -/
def OperandText.chars (operand : OperandText) : List Char :=
  List.replicate operand.opening '(' ++ operand.digits ++ List.replicate operand.closing ')'

/-- An operator and the operand behind it. -/
structure LinkText where
  before : Nat
  operator : Operator
  after : Nat
  operand : OperandText

/-- The characters of an operator and the operand behind it. -/
def LinkText.chars (link : LinkText) : List Char :=
  spaces link.before ++ link.operator.text ++ spaces link.after ++ link.operand.chars

theorem operand_text_of_mem {chars : List Char} (h : chars ∈ operandPattern.matches') :
    ∃ operand : OperandText, chars = operand.chars := by
  simp only [operandPattern, matches'_mul, Language.mem_mul, mem_star_char, mem_digits] at h
  obtain ⟨_, ⟨_, ⟨opening, rfl⟩, digits, ⟨hne, hdigits⟩, rfl⟩, _, ⟨closing, rfl⟩, rfl⟩ := h
  exact ⟨⟨opening, digits, closing, hne, hdigits⟩, rfl⟩

theorem operator_text_of_mem {chars : List Char} (h : chars ∈ operatorPattern.matches') :
    ∃ before operator after, chars = spaces before ++ Operator.text operator ++ spaces after := by
  simp only [operatorPattern, matches'_mul, matches'_add, Language.mem_mul, Language.mem_add,
    mem_star_char, mem_literal] at h
  obtain ⟨_, ⟨_, ⟨before, rfl⟩, _, hoperator, rfl⟩, _, ⟨after, rfl⟩, rfl⟩ := h
  rcases hoperator with rfl | rfl
  · exact ⟨before, .and, after, rfl⟩
  · exact ⟨before, .or, after, rfl⟩

/-- An accepted text is an operand followed by operators and operands. -/
theorem links_of_matches {value : String} (h : test triggerLogicPattern value = true) :
    ∃ (first : OperandText) (links : List LinkText),
      value.toList = first.chars ++ links.flatMap LinkText.chars := by
  rw [test_iff, triggerLogicPattern, matches'_mul, Language.mem_mul] at h
  obtain ⟨chars, hfirst, rest, hrest, htext⟩ := h
  obtain ⟨first, rfl⟩ := operand_text_of_mem hfirst
  rw [matches'_star, Language.mem_kstar] at hrest
  obtain ⟨parts, rfl, hparts⟩ := hrest
  have hlinks : ∃ links : List LinkText, parts.flatten = links.flatMap LinkText.chars := by
    clear htext
    induction parts with
    | nil => exact ⟨[], rfl⟩
    | cons part parts ih =>
        obtain ⟨links, hflatten⟩ := ih fun y hy => hparts y (List.mem_cons_of_mem part hy)
        have hpart := hparts part List.mem_cons_self
        rw [matches'_mul, Language.mem_mul] at hpart
        obtain ⟨_, hoperator, _, hoperand, rfl⟩ := hpart
        obtain ⟨before, operator, after, rfl⟩ := operator_text_of_mem hoperator
        obtain ⟨operand, rfl⟩ := operand_text_of_mem hoperand
        refine ⟨⟨before, operator, after, operand⟩ :: links, ?_⟩
        rw [List.flatten_cons, hflatten, List.flatMap_cons]
        rfl
  obtain ⟨links, hlinks⟩ := hlinks
  exact ⟨first, links, by rw [← htext, hlinks]⟩

/-! ## Counting the open groups -/

/-- The number of open groups after one more character, or none when it closes a group that is not
open. -/
def depthStep (depth : Nat) : Char → Option Nat
  | '(' => some (depth + 1)
  | ')' => if depth = 0 then none else some (depth - 1)
  | _ => some depth

/-- The number of open groups after a text, or none when it closes a group that is not open. -/
def groupDepth (depth : Nat) (text : List Char) : Option Nat :=
  text.foldlM depthStep depth

theorem group_depth_append (depth : Nat) (text more : List Char) :
    groupDepth depth (text ++ more) = (groupDepth depth text).bind (groupDepth · more) := by
  simp [groupDepth, List.foldlM_append]

theorem group_depth_cons (depth : Nat) (c : Char) (text : List Char) :
    groupDepth depth (c :: text) = (depthStep depth c).bind (groupDepth · text) := by
  simp [groupDepth]

/-- Characters other than parentheses keep the depth. -/
theorem group_depth_of_no_parentheses {depth : Nat} {text : List Char}
    (h : ∀ c ∈ text, c ≠ '(' ∧ c ≠ ')') : groupDepth depth text = some depth := by
  induction text with
  | nil => rfl
  | cons c text ih =>
      obtain ⟨hopen, hclose⟩ := h c List.mem_cons_self
      have hstep : depthStep depth c = some depth := by
        unfold depthStep
        split <;> simp_all
      rw [group_depth_cons, hstep]
      exact ih fun d hd => h d (List.mem_cons_of_mem c hd)

theorem group_depth_opening (depth count : Nat) :
    groupDepth depth (List.replicate count '(') = some (depth + count) := by
  induction count generalizing depth with
  | zero => rfl
  | succ count ih =>
      rw [List.replicate_succ, group_depth_cons]
      show groupDepth (depth + 1) _ = _
      rw [ih]
      congr 1
      omega

/-- Closing groups succeeds only when they are open. -/
theorem group_depth_closing {depth count after : Nat}
    (h : groupDepth depth (List.replicate count ')') = some after) : depth = after + count := by
  induction count generalizing depth with
  | zero =>
      simp only [List.replicate_zero, groupDepth, List.foldlM_nil, Option.pure_def,
        Option.some.injEq] at h
      omega
  | succ count ih =>
      rw [List.replicate_succ, group_depth_cons, depthStep] at h
      split at h
      · simp at h
      · have := ih h
        omega

/-- The depth of a text tells how many groups it opens and closes. -/
theorem count_of_group_depth {text : List Char} {depth after : Nat}
    (h : groupDepth depth text = some after) :
    depth + text.count '(' = after + text.count ')' := by
  induction text generalizing depth with
  | nil =>
      simp only [groupDepth, List.foldlM_nil, Option.pure_def, Option.some.injEq] at h
      simp [h]
  | cons c text ih =>
      rw [group_depth_cons] at h
      unfold depthStep at h
      split at h
      · have := ih h
        simp only [List.count_cons_self, List.count_cons_of_ne (by decide : '(' ≠ ')')]
        omega
      · split at h
        · simp at h
        · have := ih h
          simp only [List.count_cons_self, List.count_cons_of_ne (by decide : ')' ≠ '(')]
          omega
      · rename_i hopen hclose
        rw [List.count_cons_of_ne (fun h => hopen h), List.count_cons_of_ne (fun h => hclose h)]
        exact ih h

/-- A text whose prefixes never close more groups than they opened has a depth. -/
theorem group_depth_of_prefixes {text : List Char} {depth : Nat}
    (h : ∀ part, part <+: text → part.count ')' ≤ depth + part.count '(') :
    groupDepth depth text = some (depth + text.count '(' - text.count ')') := by
  induction text generalizing depth with
  | nil => rfl
  | cons c text ih =>
      have htail : ∀ part, part <+: text → c :: part <+: c :: text := fun part hpart =>
        List.cons_prefix_cons.mpr ⟨rfl, hpart⟩
      -- an opened group raises the allowance of the rest, a closed one uses it up
      rw [group_depth_cons]
      unfold depthStep
      split
      · have hrest := @ih (depth + 1) fun part hpart => by
          have := h _ (htail part hpart)
          simp only [List.count_cons_self, List.count_cons_of_ne (by decide : '(' ≠ ')')] at this
          omega
        simp only [List.count_cons_self, List.count_cons_of_ne (by decide : '(' ≠ ')')]
        rw [Option.bind_some, hrest]
        congr 1
        omega
      · have hfirst := h [')'] (List.cons_prefix_cons.mpr ⟨rfl, List.nil_prefix⟩)
        simp only [List.count_singleton_self,
          List.count_cons_of_ne (by decide : ')' ≠ '('), List.count_nil] at hfirst
        rw [if_neg (by omega)]
        have hrest := @ih (depth - 1) fun part hpart => by
          have := h _ (htail part hpart)
          simp only [List.count_cons_self, List.count_cons_of_ne (by decide : ')' ≠ '(')] at this
          omega
        simp only [List.count_cons_self, List.count_cons_of_ne (by decide : ')' ≠ '(')]
        rw [Option.bind_some, hrest]
        congr 1
        omega
      · rename_i hopen hclose
        have hrest := @ih depth fun part hpart => by
          have := h _ (htail part hpart)
          rwa [List.count_cons_of_ne (fun h => hopen h),
            List.count_cons_of_ne (fun h => hclose h)] at this
        rw [List.count_cons_of_ne (fun h => hopen h), List.count_cons_of_ne (fun h => hclose h)]
        exact hrest

/-! ## Well-formed texts -/

/-- Reading an operand with its parentheses. -/
theorem completed_operand {depth after : Nat} {text : List Char} {operand : OperandText}
    (h : Expecting (id : Nat → Nat) depth text)
    (hdepth : groupDepth depth operand.chars = some after) :
    Completed (id : Nat → Nat) after (text ++ operand.chars) := by
  have hdigits : groupDepth (depth + operand.opening) operand.digits =
      some (depth + operand.opening) := by
    refine group_depth_of_no_parentheses fun c hc => ?_
    have hdigit := operand.digits_are_digits c hc
    constructor <;> rintro rfl <;> revert hdigit <;> decide
  rw [OperandText.chars, group_depth_append, group_depth_append, group_depth_opening,
    Option.bind_some, hdigits, Option.bind_some] at hdepth
  have hopen := h.open_groups operand.opening _ _
    (.operand _ operand.digits operand.digits_ne_nil operand.digits_are_digits rfl)
  rw [group_depth_closing hdepth] at hopen
  simpa [OperandText.chars] using hopen.close_groups

/-- Reading an operator and an operand with its parentheses. -/
theorem completed_link {depth after : Nat} {text : List Char} {link : LinkText}
    (h : Completed (id : Nat → Nat) depth text)
    (hdepth : groupDepth depth link.chars = some after) :
    Completed (id : Nat → Nat) after (text ++ link.chars) := by
  have hoperator : groupDepth depth
      (spaces link.before ++ link.operator.text ++ spaces link.after) = some depth := by
    refine group_depth_of_no_parentheses fun c hc => ?_
    simp only [List.mem_append, spaces, List.mem_replicate] at hc
    rcases hc with (⟨-, rfl⟩ | hc) | ⟨-, rfl⟩
    · decide
    · revert hc
      cases link.operator <;> simp only [Operator.text] <;> revert c <;> simp
    · decide
  rw [LinkText.chars, group_depth_append, hoperator, Option.bind_some] at hdepth
  have hoperand := completed_operand
    (h.operator link.operator link.before link.after) hdepth
  simpa [LinkText.chars] using hoperand

/-- Reading operators and operands. -/
theorem completed_links {depth after : Nat} {text : List Char} {links : List LinkText}
    (h : Completed (id : Nat → Nat) depth text)
    (hdepth : groupDepth depth (links.flatMap LinkText.chars) = some after) :
    Completed (id : Nat → Nat) after (text ++ links.flatMap LinkText.chars) := by
  induction links generalizing depth text with
  | nil =>
      simp only [List.flatMap_nil, groupDepth, List.foldlM_nil, Option.pure_def,
        Option.some.injEq] at hdepth
      simpa [hdepth] using h
  | cons link links ih =>
      rw [List.flatMap_cons, group_depth_append] at hdepth
      obtain ⟨middle, hlink, hrest⟩ := Option.bind_eq_some_iff.mp hdepth
      have hnext := ih (completed_link h hlink) hrest
      simpa using hnext

/-- An accepted text whose groups match up renders an expression. -/
theorem renders_of_group_depth {value : String} (h : test triggerLogicPattern value = true)
    (hdepth : groupDepth 0 value.toList = some 0) :
    ∃ e : BoolExpr Nat, Renders id .expression e value.toList := by
  obtain ⟨first, links, htext⟩ := links_of_matches h
  rw [htext, group_depth_append] at hdepth
  obtain ⟨middle, hfirst, hlinks⟩ := Option.bind_eq_some_iff.mp hdepth
  have hcompleted := completed_links (completed_operand expecting_nil hfirst) hlinks
  rw [List.nil_append, ← htext] at hcompleted
  exact hcompleted

/-- The operands the validator counts are those of the tokens. -/
theorem digit_runs_eq (pending text : List Char) :
    (digitRuns pending text).map digitsValue = tokenOperands (scanTokens pending text) := by
  have hflush : ∀ (pending : List Char) (runs : List (List Char)) (tokens : List Token),
      runs.map digitsValue = tokenOperands tokens →
      ((if pending.isEmpty then [] else [pending]) ++ runs).map digitsValue =
        tokenOperands (digitsToken pending ++ tokens) := by
    intro pending runs tokens h
    rw [List.map_append, h, digitsToken]
    split <;> simp [tokenOperands]
  fun_induction scanTokens pending text with
  | case1 pending rest ih => exact hflush _ _ _ (by simpa [digitRuns, tokenOperands] using ih)
  | case2 pending rest ih => exact hflush _ _ _ (by simpa [digitRuns, tokenOperands] using ih)
  | case3 pending rest ih => exact hflush _ _ _ (by simpa [digitRuns, tokenOperands] using ih)
  | case4 pending rest ih => exact hflush _ _ _ (by simpa [digitRuns, tokenOperands] using ih)
  | case5 pending c rest _ _ _ _ hdigit ih =>
      rw [digitRuns, if_pos hdigit]
      exact ih
  | case6 pending c rest _ _ _ _ hdigit ih =>
      rw [digitRuns, if_neg hdigit]
      exact hflush _ _ _ ih
  | case7 pending => simpa [digitRuns] using hflush pending [] [] rfl

/-- A trigger logic is well formed when it writes down a boolean expression, its groups match up,
and the parser reads it to its end and keeps every operand of it. -/
structure WellFormed (value : String) : Prop where
  expression : ∃ e : BoolExpr Nat, Renders id .expression e value.toList
  balanced : value.toList.count '(' = value.toList.count ')'
  prefixes : ∀ part, part <+: value.toList → part.count ')' ≤ part.count '('
  consumed : (parseTriggerExpression (scanTokens [] value.toList)).2 = []
  operands : expressionOperands (parseTriggerExpression (scanTokens [] value.toList)).1 =
    (digitRuns [] value.toList).map digitsValue

/-- A text that renders an expression and has depth zero is well formed. -/
theorem well_formed_of_renders {e : BoolExpr Nat} {value : String}
    (h : Renders id .expression e value.toList) (hdepth : groupDepth 0 value.toList = some 0) :
    WellFormed value := by
  obtain ⟨tokens, items, hscan, htokens, hitems, hparse⟩ := parse_renders h
  have hcount := count_of_group_depth hdepth
  refine ⟨⟨e, h⟩, by omega, ?_, ?_, ?_⟩
  · intro part h
    obtain ⟨rest, hrest⟩ := h
    rw [← hrest, group_depth_append] at hdepth
    obtain ⟨middle, hpart, -⟩ := Option.bind_eq_some_iff.mp hdepth
    have := count_of_group_depth hpart
    omega
  · rw [hscan, hparse]
  · rw [digit_runs_eq, hscan, hparse, hitems.operands, htokens.operands]

/-- An accepted trigger logic is well formed exactly when one pass over it, which counts the open
groups, never closes a group that is not open and ends with no open group. -/
theorem well_formed_iff_group_depth (triggerSources : List ScenarioTriggerSource)
    (value : String) (h : validateTriggerLogic triggerSources value = .ok true) :
    WellFormed value ↔ groupDepth 0 value.toList = some 0 := by
  constructor
  · intro hwell
    have hdepth := @group_depth_of_prefixes value.toList 0 fun part hpart => by
      have := hwell.prefixes part hpart
      omega
    rw [hdepth, hwell.balanced]
    simp
  · intro hdepth
    obtain ⟨e, he⟩ := renders_of_group_depth (matches_of_validate h) hdepth
    exact well_formed_of_renders he hdepth

/-- The trigger logic of the documentation is accepted and well formed. -/
theorem well_formed_iff_group_depth_grouped :
    validateTriggerLogic [⟨.cron, none, none, {}⟩, ⟨.cron, none, none, {}⟩,
      ⟨.cron, none, none, {}⟩] "(1 AND 2) OR 3" = .ok true ∧
    (WellFormed "(1 AND 2) OR 3" ↔ groupDepth 0 "(1 AND 2) OR 3".toList = some 0) :=
  ⟨by decide +kernel, well_formed_iff_group_depth [⟨.cron, none, none, {}⟩,
    ⟨.cron, none, none, {}⟩, ⟨.cron, none, none, {}⟩] _ (by decide +kernel)⟩

/-- `1) AND (2` is accepted for two trigger sources, but the parser stops at the first closing
parenthesis and so never sees the second operand. -/
theorem accepted_but_not_well_formed :
    validateTriggerLogic [⟨.cron, none, none, {}⟩, ⟨.cron, none, none, {}⟩] "1) AND (2" =
      .ok true ∧
    (parseTriggerExpression (scanTokens [] "1) AND (2".toList)).2 =
      [.operator .and, .openGroup, .digits ['2']] ∧
    ¬ WellFormed "1) AND (2" := by
  refine ⟨by decide +kernel, by decide +kernel, fun h => ?_⟩
  have hconsumed := h.consumed
  revert hconsumed
  decide +kernel

end MyHomeHub.Scenarios
