import MyHomeHub.Conditions.ReadOnce
import MyHomeHub.Scenarios.TriggerLogic

/-!
# The operands of an accepted trigger logic

`validateTriggerLogic` compares the number of operands with the number of sources, and
rejects operands above it. This leaves zeros and repetitions, and groups that do not match
up. `uses_every_source_iff` says which accepted texts use every source: a surplus closing
parenthesis does no harm if no operand stands behind it, and groups may stay open.
-/

namespace MyHomeHub.Scenarios

open JavaScript JavaScript.RegExp RegularExpression Computability Conditions

/-- The operands of a trigger logic, as the validator reads them. -/
def logicOperands (value : String) : List Nat :=
  (digitRuns [] value.toList).map digitsValue

/-- The operands that are evaluated. -/
def evaluatedOperands (value : String) : List Nat :=
  expressionOperands (parseTriggerExpression (scanTokens [] value.toList)).1

/-- The operands are the numbers from one to `n`, each of them once, and so are the ones that are
evaluated. The result is a boolean, and every source can decide it. -/
structure UsesEverySource (n : Nat) (value : String) : Prop where
  operands : (logicOperands value).Perm (List.range' 1 n)
  evaluated : (evaluatedOperands value).Perm (List.range' 1 n)
  boolean : ∀ conditions : List Bool, conditions.length = n →
    ∃ b, evaluateTriggerExpression value conditions = .ok (some b)
  decides : ∀ i < n, ∃ conditions : List Bool, conditions.length = n ∧
    ∀ b, evaluateTriggerExpression value (conditions.set i b) = .ok (some b)

/-- No operand is zero, none is repeated, and none stands behind a prefix that closes more groups
than it opens. -/
structure OperandsDistinct (value : String) : Prop where
  positive : ∀ o ∈ logicOperands value, o ≠ 0
  unique : (logicOperands value).Nodup
  reached : ∀ part rest, value.toList = part ++ rest → part.count '(' < part.count ')' →
    ∀ c ∈ rest, c.isDigit = false

variable {value : String} {pending text rest : List Char} {depth : Nat} {n : Nat}

/-! ## Scanning up to a closing parenthesis -/

/-- A closing parenthesis separates the tokens before it from those behind it. -/
theorem scan_close (pending text rest : List Char) :
    scanTokens pending (text ++ ')' :: rest) =
      scanTokens pending text ++ .closeGroup :: scanTokens [] rest := by
  fun_induction scanTokens pending text with
  | case1 pending text ih =>
      rw [List.cons_append, scanTokens, ih, List.append_assoc, List.cons_append]
  | case2 pending text ih =>
      rw [List.cons_append, scanTokens, ih, List.append_assoc, List.cons_append]
  | case3 pending text ih =>
      simp only [List.cons_append]
      rw [scanTokens, ih, List.append_assoc, List.cons_append]
  | case4 pending text ih =>
      simp only [List.cons_append]
      rw [scanTokens, ih, List.append_assoc, List.cons_append]
  | case5 pending c text _ _ _ _ hdigit ih =>
      rw [List.cons_append, scan_digit hdigit, ih]
  | case6 pending c text hopen hclose hand hor hdigit ih =>
      -- no operator begins here, with or without the parenthesis behind the text
      have hnotAnd : ∀ more, c = 'A' → text ++ ')' :: rest = 'N' :: 'D' :: more → False := by
        intro more hc htext
        rcases text with _ | ⟨first, _ | ⟨second, text⟩⟩
        · cases htext
        · cases htext
        · simp only [List.cons_append, List.cons.injEq] at htext
          exact hand text hc (by rw [htext.1, htext.2.1])
      have hnotOr : ∀ more, c = 'O' → text ++ ')' :: rest = 'R' :: more → False := by
        intro more hc htext
        rcases text with _ | ⟨first, text⟩
        · cases htext
        · simp only [List.cons_append, List.cons.injEq] at htext
          exact hor text hc (by rw [htext.1])
      rw [List.cons_append, scanTokens, if_neg hdigit, ih, List.append_assoc]
      · exact hopen
      · exact hclose
      · exact hnotAnd
      · exact hnotOr
  | case7 pending => rfl

theorem token_depth_pending (depth : Nat) (pending : List Char) (tokens : List Token) :
    tokenDepth depth (digitsToken pending ++ tokens) = tokenDepth depth tokens := by
  unfold digitsToken
  split
  · rfl
  · rw [List.singleton_append, token_depth_cons]
    rfl

/-- A character that is no parenthesis keeps the depth. -/
theorem group_depth_skip {c : Char} (hopen : c ≠ '(') (hclose : c ≠ ')') :
    groupDepth depth (c :: text) = groupDepth depth text := by
  rw [group_depth_cons]
  unfold depthStep
  split
  · exact absurd rfl hopen
  · exact absurd rfl hclose
  · rfl

/-- The tokens open and close the groups of the text. -/
theorem token_depth_scan (depth : Nat) (pending text : List Char) :
    tokenDepth depth (scanTokens pending text) = groupDepth depth text := by
  fun_induction scanTokens pending text generalizing depth with
  | case1 pending text ih =>
      rw [token_depth_pending, token_depth_cons, group_depth_cons]
      exact ih (depth + 1)
  | case2 pending text ih =>
      rw [token_depth_pending, token_depth_cons, group_depth_cons, depthStep, tokenDepthStep]
      split
      · rfl
      · exact ih (depth - 1)
  | case3 pending text ih =>
      rw [token_depth_pending, token_depth_cons, group_depth_skip (by decide) (by decide),
        group_depth_skip (by decide) (by decide), group_depth_skip (by decide) (by decide)]
      exact ih depth
  | case4 pending text ih =>
      rw [token_depth_pending, token_depth_cons, group_depth_skip (by decide) (by decide),
        group_depth_skip (by decide) (by decide)]
      exact ih depth
  | case5 pending c text hopen hclose _ _ hdigit ih =>
      rw [ih depth, group_depth_skip hopen hclose]
  | case6 pending c text hopen hclose hand hor hdigit ih =>
      rw [token_depth_pending, ih depth, group_depth_skip hopen hclose]
  | case7 pending =>
      rw [← List.append_nil (digitsToken pending), token_depth_pending]
      rfl

/-! ## A surplus closing parenthesis -/

/-- A text that closes more groups than it opens has a first parenthesis that does so. -/
theorem first_surplus (h : groupDepth depth text = none) :
    ∃ part more, text = part ++ ')' :: more ∧ groupDepth depth part = some 0 := by
  induction text generalizing depth with
  | nil => cases h
  | cons c text ih =>
      rw [group_depth_cons] at h
      cases hstep : depthStep depth c with
      | none =>
          unfold depthStep at hstep
          split at hstep
          · cases hstep
          · split at hstep
            · rename_i hzero
              exact ⟨[], text, rfl, by rw [hzero]; rfl⟩
            · cases hstep
          · cases hstep
      | some next =>
          rw [hstep] at h
          obtain ⟨part, more, rfl, hpart⟩ := ih h
          refine ⟨c :: part, more, rfl, ?_⟩
          rw [group_depth_cons, hstep]
          exact hpart

theorem group_depth_none_of_surplus (h : text.count '(' < text.count ')') :
    groupDepth 0 text = none := by
  cases hdepth : groupDepth 0 text with
  | none => rfl
  | some after =>
      have hcount := count_of_group_depth hdepth
      omega

theorem digit_runs_of_pending (h : pending ≠ []) : digitRuns pending text ≠ [] := by
  have hempty {pending : List Char} (hne : pending ≠ []) : pending.isEmpty = false :=
    List.isEmpty_eq_false_iff.mpr hne
  induction text generalizing pending with
  | nil =>
      rw [digitRuns, hempty h]
      exact List.cons_ne_nil _ _
  | cons c text ih =>
      rw [digitRuns]
      split
      · exact ih (List.append_ne_nil_of_left_ne_nil h _)
      · rw [hempty h]
        exact List.cons_ne_nil _ _

/-- A text with a digit has an operand. -/
theorem digit_runs_ne_nil {c : Char} (h : c ∈ text) (hdigit : c.isDigit = true) :
    digitRuns pending text ≠ [] := by
  induction text generalizing pending with
  | nil => cases h
  | cons first text ih =>
      rw [digitRuns]
      split
      · exact digit_runs_of_pending (List.append_ne_nil_of_right_ne_nil _ (List.cons_ne_nil _ _))
      · rename_i hnot
        rcases List.mem_cons.mp h with rfl | htext
        · exact absurd hdigit hnot
        · exact List.append_ne_nil_of_right_ne_nil _ (ih htext)

/-- If everything is evaluated, no operand stands behind a surplus closing parenthesis. -/
theorem reached_of_evaluated
    (h : (logicOperands value).length ≤ (evaluatedOperands value).length) :
    ∀ part rest, value.toList = part ++ rest → part.count '(' < part.count ')' →
      ∀ c ∈ rest, c.isDigit = false := by
  intro part rest hsplit hsurplus c hc
  obtain ⟨read, more, rfl, hread⟩ := first_surplus (group_depth_none_of_surplus hsurplus)
  rw [List.append_assoc, List.cons_append] at hsplit
  have htokens : scanTokens [] value.toList =
      scanTokens [] read ++ .closeGroup :: scanTokens [] (more ++ rest) := by
    rw [hsplit, scan_close]
  have hleft : (parseTriggerExpression (scanTokens [] value.toList)).2 =
      scanTokens [] (more ++ rest) := by
    rw [htokens]
    exact parse_leaves_rest ((token_depth_scan 0 [] read).trans hread)
  have hoperands := parse_operands (scanTokens [] value.toList)
  rw [hleft, ← digit_runs_eq, ← digit_runs_eq] at hoperands
  by_contra hdigit
  have hrest : digitRuns [] (more ++ rest) ≠ [] :=
    digit_runs_ne_nil (List.mem_append_right _ hc) (by simpa using hdigit)
  have hlength := List.length_pos_iff.mpr hrest
  unfold logicOperands evaluatedOperands at h
  rw [List.length_map] at hoperands
  omega

/-! ## Reading an accepted text -/

/-- An operand with its closing parentheses. -/
def OperandText.open (operand : OperandText) : OperandText :=
  { operand with closing := 0 }

theorem chars_open (operand : OperandText) :
    operand.chars = operand.open.chars ++ List.replicate operand.closing ')' ∧
      ∃ front digit, operand.open.chars = front ++ [digit] ∧ digit.isDigit = true := by
  constructor
  · simp [OperandText.chars, OperandText.open]
  · have hdigits := List.dropLast_concat_getLast operand.digits_ne_nil
    refine ⟨List.replicate operand.opening '(' ++ operand.digits.dropLast,
      operand.digits.getLast operand.digits_ne_nil, ?_,
      operand.digits_are_digits _ (List.getLast_mem operand.digits_ne_nil)⟩
    rw [List.append_assoc, hdigits]
    exact List.append_nil _

/-- An accepted text is a text that ends with a digit, followed by closing parentheses. -/
theorem closing_of_links (first : OperandText) (links : List LinkText) :
    ∃ (last : OperandText) (others : List LinkText) (closing : Nat),
      first.chars ++ links.flatMap LinkText.chars =
        last.chars ++ others.flatMap LinkText.chars ++ List.replicate closing ')' ∧
      ∃ front digit, last.chars ++ others.flatMap LinkText.chars = front ++ [digit] ∧
        digit.isDigit = true := by
  rcases List.eq_nil_or_concat links with rfl | ⟨others, link, rfl⟩
  · obtain ⟨hchars, front, digit, hfront, hdigit⟩ := chars_open first
    refine ⟨first.open, [], first.closing, ?_, front, digit, ?_, hdigit⟩
    · simpa using hchars
    · simpa using hfront
  · obtain ⟨hchars, front, digit, hfront, hdigit⟩ := chars_open link.operand
    refine ⟨first, others ++ [{ link with operand := link.operand.open }], link.operand.closing,
      ?_, first.chars ++ others.flatMap LinkText.chars ++ (spaces link.before ++
        link.operator.text ++ spaces link.after ++ front), digit, ?_, hdigit⟩
    · simp [LinkText.chars, hchars]
    · simp [LinkText.chars, hfront]

/-- An accepted text without an operand behind a surplus closing parenthesis is, up to closing
parentheses at its end, the text of an expression. -/
theorem renders_of_reached (h : test triggerLogicPattern value = true)
    (hreached : ∀ part rest, value.toList = part ++ rest → part.count '(' < part.count ')' →
      ∀ c ∈ rest, c.isDigit = false) :
    ∃ (text : List Char) (closing depth : Nat) (e : BoolExpr Nat),
      value.toList = text ++ List.replicate closing ')' ∧
      Renders id .expression e (text ++ List.replicate depth ')') := by
  obtain ⟨first, links, hchars⟩ := links_of_matches h
  obtain ⟨last, others, closing, hclosing, front, digit, hfront, hdigit⟩ :=
    closing_of_links first links
  have htext : value.toList = front ++ [digit] ++ List.replicate closing ')' := by
    rw [hchars, hclosing, hfront]
  have hreachedDigit : ∀ part rest, value.toList = part ++ rest → digit ∈ rest →
      part.count ')' ≤ part.count '(' := by
    intro part rest hsplit hmem
    by_contra hsurplus
    rw [hreached part rest hsplit (Nat.lt_of_not_le hsurplus) digit hmem] at hdigit
    cases hdigit
  -- no prefix of the text closes more groups than it opens, since the digit follows
  have hprefixes : ∀ part, part <+: front ++ [digit] → part.count ')' ≤ 0 + part.count '(' := by
    rintro part ⟨tail, htail⟩
    rw [Nat.zero_add]
    rcases List.eq_nil_or_concat tail with rfl | ⟨init, last, rfl⟩
    · have hfrontCount := hreachedDigit front (digit :: List.replicate closing ')')
        (by rw [htext]; simp) List.mem_cons_self
      have hopen : digit ≠ '(' := by rintro rfl; cases hdigit
      have hclose : digit ≠ ')' := by rintro rfl; cases hdigit
      rw [List.append_nil] at htail
      rw [htail, List.count_append, List.count_append, List.count_singleton,
        List.count_singleton]
      simpa [hopen, hclose] using hfrontCount
    · rw [List.concat_eq_append, ← List.append_assoc] at htail
      obtain ⟨hfront', hlast⟩ := List.append_inj' htail rfl
      refine hreachedDigit part (init ++ [digit] ++ List.replicate closing ')') ?_ (by simp)
      rw [htext, ← hfront']
      simp only [List.append_assoc]
  have hdepth := group_depth_of_prefixes hprefixes
  generalize 0 + (front ++ [digit]).count '(' - (front ++ [digit]).count ')' = depth at hdepth
  rw [← hfront, group_depth_append] at hdepth
  obtain ⟨middle, hfirst, hothers⟩ := Option.bind_eq_some_iff.mp hdepth
  have hcompleted := completed_links (completed_operand expecting_nil hfirst) hothers
  rw [List.nil_append, hfront, ← Nat.zero_add depth] at hcompleted
  obtain ⟨e, he⟩ := hcompleted.close_groups
  exact ⟨front ++ [digit], closing, depth, e, htext, he⟩

/-- Closing parentheses at the end of a text become tokens at its end. -/
theorem scan_closings (text : List Char) (count : Nat) :
    scanTokens [] (text ++ List.replicate count ')') =
      scanTokens [] text ++ List.replicate count .closeGroup := by
  induction count generalizing text with
  | zero => simp
  | succ count ih =>
      have hrest := ih []
      rw [List.nil_append] at hrest
      rw [List.replicate_succ, scan_close, hrest]
      rfl

theorem token_operands_closings (tokens : List Token) (count : Nat) :
    tokenOperands (tokens ++ List.replicate count .closeGroup) = tokenOperands tokens := by
  unfold tokenOperands
  rw [List.filterMap_append, List.filterMap_replicate_of_none rfl, List.append_nil]

/-- The tokens of a text with an operand are evaluated. -/
theorem evaluate_of_operands (h : tokenOperands (scanTokens [] value.toList) ≠ [])
    (conditions : List Bool) :
    evaluateTriggerExpression value conditions =
      .ok (evaluateExpression (parseTriggerExpression (scanTokens [] value.toList)).1
        conditions) := by
  unfold evaluateTriggerExpression extractTriggerExpressionTokens
  cases htokens : scanTokens [] value.toList with
  | nil =>
      rw [htokens] at h
      exact absurd rfl h
  | cons token tokens => rfl

/-- Where no operand stands behind a surplus closing parenthesis, the evaluator reads the text of
an expression and all its operands. -/
theorem expression_of_reached (h : test triggerLogicPattern value = true)
    (hreached : ∀ part rest, value.toList = part ++ rest → part.count '(' < part.count ')' →
      ∀ c ∈ rest, c.isDigit = false) :
    ∃ (text : String) (e : BoolExpr Nat), Renders id .expression e text.toList ∧
      logicOperands value = e.operands ∧ evaluatedOperands value = e.operands ∧
      ∀ conditions, evaluateTriggerExpression value conditions =
        evaluateTriggerExpression text conditions := by
  obtain ⟨text, closing, depth, e, htext, hrenders⟩ := renders_of_reached h hreached
  obtain ⟨tokens, items, hscan, htokens, hitems, hparse⟩ := parse_renders hrenders
  have hparsed : (parseTriggerExpression (scanTokens [] value.toList)).1 =
      (parseTriggerExpression tokens).1 := by
    rw [htext, ← hscan, scan_closings, scan_closings, parse_append_close, parse_append_close]
  have hoperands : tokenOperands (scanTokens [] value.toList) = tokenOperands tokens := by
    rw [htext, ← hscan, scan_closings, scan_closings, token_operands_closings,
      token_operands_closings]
  have hexpression : tokenOperands tokens = e.operands := by
    rw [htokens.operands, List.map_id]
  refine ⟨String.ofList (text ++ List.replicate depth ')'), e, ?_, ?_, ?_, ?_⟩
  · rwa [String.toList_ofList]
  · rw [logicOperands, digit_runs_eq, hoperands, hexpression]
  · rw [evaluatedOperands, hparsed, hparse, hitems.operands, List.map_id]
  · intro conditions
    rw [evaluate_of_operands, evaluate_of_operands, String.toList_ofList, hscan, hparsed]
    · rw [String.toList_ofList, hscan, hexpression]
      exact e.operands_ne_nil
    · rw [hoperands, hexpression]
      exact e.operands_ne_nil

/-! ## Every source is used -/

/-- The validator counts the operands and bounds them. -/
theorem operands_of_validate {triggerSources : List ScenarioTriggerSource}
    (h : validateTriggerLogic triggerSources value = .ok true) :
    (logicOperands value).length = triggerSources.length ∧
      ∀ o ∈ logicOperands value, o ≤ triggerSources.length := by
  have hpattern := matches_of_validate h
  unfold validateTriggerLogic at h
  rw [hpattern] at h
  simp only [Bool.not_true, Bool.false_eq_true, if_false] at h
  split at h
  · cases h
  · rename_i hchecked
    simp only [ne_eq, Bool.or_eq_true, decide_eq_true_eq, List.any_eq_true, not_or, not_not,
      not_exists, not_and, not_lt] at hchecked
    exact hchecked

/-- Distinct operands between one and `n` are all numbers up to `n`. -/
theorem operands_perm {operands : List Nat} (hlength : operands.length = n)
    (hinside : ∀ o ∈ operands, 1 ≤ o ∧ o ≤ n) (hunique : operands.Nodup) :
    operands.Perm (List.range' 1 n) := by
  have hsubset : operands ⊆ List.range' 1 n := by
    intro o ho
    obtain ⟨hpositive, hle⟩ := hinside o ho
    exact List.mem_range'_1.mpr ⟨hpositive, by omega⟩
  refine (List.subperm_of_subset hunique hsubset).perm_of_length_le ?_
  rw [List.length_range', hlength]

/-- Changing one position of a vector. -/
theorem of_fn_set {i : Nat} (values : Fin n → Bool) (hi : i < n) (b : Bool) :
    (List.ofFn values).set i b = List.ofFn (Function.update values ⟨i, hi⟩ b) := by
  refine List.ext_getElem (by simp) fun j hj hj' => ?_
  rw [List.getElem_set, List.getElem_ofFn, List.getElem_ofFn]
  by_cases hsame : i = j
  · subst hsame
    rw [if_pos rfl, Function.update_self]
  · rw [if_neg hsame, Function.update_of_ne]
    intro heq
    exact hsame (congrArg Fin.val heq).symm

/-- An accepted trigger logic uses every source, and each of them once, exactly if no operand is
zero, none is repeated, and none stands behind a surplus closing parenthesis. -/
theorem uses_every_source_iff (triggerSources : List ScenarioTriggerSource) (value : String)
    (h : validateTriggerLogic triggerSources value = .ok true) :
    UsesEverySource triggerSources.length value ↔ OperandsDistinct value := by
  obtain ⟨hlength, hle⟩ := operands_of_validate h
  generalize triggerSources.length = n at hlength hle
  constructor
  · intro huses
    refine ⟨?_, ?_, ?_⟩
    · intro o ho
      have hmem := List.mem_range'_1.mp (huses.operands.mem_iff.mp ho)
      omega
    · exact huses.operands.nodup_iff.mpr List.nodup_range'
    · refine reached_of_evaluated ?_
      rw [huses.operands.length_eq, huses.evaluated.length_eq]
  · intro hdistinct
    obtain ⟨text, e, hrenders, hlogic, hevaluated, hevaluate⟩ :=
      expression_of_reached (matches_of_validate h) hdistinct.reached
    have hinside : ∀ o ∈ e.operands, 1 ≤ o ∧ o ≤ n := by
      intro o ho
      rw [← hlogic] at ho
      exact ⟨Nat.one_le_iff_ne_zero.mpr (hdistinct.positive o ho), hle o ho⟩
    have hunique : e.operands.Nodup := hlogic ▸ hdistinct.unique
    have hperm := operands_perm (hlogic ▸ hlength) hinside hunique
    obtain ⟨positions, hpositions, hnumbers⟩ := hrenders.positions hinside
    have hvalue (values : Fin n → Bool) : evaluateTriggerExpression value (List.ofFn values) =
        .ok (some (positions.denote values)) := by
      rw [hevaluate]
      exact evaluate_trigger_expression_eq_denote positions text values hpositions
    refine ⟨hlogic ▸ hperm, hevaluated ▸ hperm, ?_, ?_⟩
    · intro conditions hconditions
      subst hconditions
      refine ⟨positions.denote fun i => conditions[i], ?_⟩
      rw [← hvalue]
      congr 1
      exact List.ofFn_getElem.symm
    · intro i hi
      have hmem : i + 1 ∈ positions.operands.map fun i : Fin n => i.val + 1 := by
        rw [hnumbers, hperm.mem_iff]
        exact List.mem_range'_1.mpr ⟨by omega, by omega⟩
      obtain ⟨j, hj, hsame⟩ := List.mem_map.mp hmem
      obtain rfl : j = ⟨i, hi⟩ := Fin.ext (Nat.succ.inj hsame)
      obtain ⟨values, hvalues⟩ :=
        BoolExpr.decided_by_operand (List.Nodup.of_map _ (hnumbers ▸ hunique)) hj
      refine ⟨List.ofFn values, List.length_ofFn, fun b => ?_⟩
      rw [of_fn_set values hi, hvalue, hvalues]

/-- The operands may come in any order and with leading zeros. -/
theorem uses_every_source_iff_grouped :
    validateTriggerLogic [⟨.cron, none, none, {}⟩, ⟨.cron, none, none, {}⟩,
      ⟨.cron, none, none, {}⟩] "(3 AND 01) OR 2" = .ok true ∧
    (UsesEverySource 3 "(3 AND 01) OR 2" ↔ OperandsDistinct "(3 AND 01) OR 2") :=
  ⟨by decide +kernel, uses_every_source_iff [⟨.cron, none, none, {}⟩,
    ⟨.cron, none, none, {}⟩, ⟨.cron, none, none, {}⟩] _ (by decide +kernel)⟩

/-- For one source `0` is accepted and has no value. For two sources `1 AND 1` is accepted and
ignores the second one, and so does `1) AND 2`. -/
theorem accepted_without_every_source :
    (validateTriggerLogic [⟨.cron, none, none, {}⟩] "0" = .ok true ∧
      (∀ b, evaluateTriggerExpression "0" [b] = .ok none) ∧ ¬ UsesEverySource 1 "0") ∧
    (validateTriggerLogic [⟨.cron, none, none, {}⟩, ⟨.cron, none, none, {}⟩] "1 AND 1" =
        .ok true ∧
      (∀ a b, evaluateTriggerExpression "1 AND 1" [a, b] = .ok (some a)) ∧
      ¬ UsesEverySource 2 "1 AND 1") ∧
    (validateTriggerLogic [⟨.cron, none, none, {}⟩, ⟨.cron, none, none, {}⟩] "1) AND 2" =
        .ok true ∧
      (∀ a b, evaluateTriggerExpression "1) AND 2" [a, b] = .ok (some a)) ∧
      ¬ UsesEverySource 2 "1) AND 2") := by
  refine ⟨⟨by decide +kernel, by decide +kernel, ?_⟩, ⟨by decide +kernel, by decide +kernel, ?_⟩,
    by decide +kernel, by decide +kernel, ?_⟩
  · intro huses
    have hzero : 0 ∈ List.range' 1 1 := huses.operands.mem_iff.mp (by decide +kernel)
    revert hzero
    decide
  · intro huses
    have hnodup : (logicOperands "1 AND 1").Nodup :=
      huses.operands.nodup_iff.mpr List.nodup_range'
    revert hnodup
    decide +kernel
  · intro huses
    have hlength := huses.evaluated.length_eq
    revert hlength
    decide +kernel

end MyHomeHub.Scenarios
