import MyHomeHub.Common.Errors
import MyHomeHub.Library.Weights

/-!
# Validation errors from class-validator

`custom-validation.exception` turns the trees of errors that class-validator reports into
a list. The walk through a tree appends the name of every node it enters to one array of
names, which it hands on from sibling to sibling, and it goes no further at a node that has
constraints.
-/

namespace MyHomeHub.CustomValidationException

open JavaScript Library

/-- The `ValidationError` of class-validator: a node has constraints, with their messages, or the
errors of the properties of its value, or both. -/
structure ClassValidationError where
  property : String
  value : Value
  constraints : Option (List (String × String))
  children : List ClassValidationError

/-! ## The code -/

mutual
/-- `transformErrors`, with the array `paths` as the call leaves it. -/
def transformErrors (paths : List String) :
    ClassValidationError → List ValidationError × List String
  | ⟨property, value, constraints, children⟩ =>
      let paths := paths ++ [property]
      match constraints with
      | some constraints =>
          let path := ".".intercalate paths
          (constraints.map fun (_, message) => ⟨message, some path, value⟩, paths)
      | none => transformChildren paths children

/-- The `reduce` over the children of a node. -/
def transformChildren (paths : List String) :
    List ClassValidationError → List ValidationError × List String
  | [] => ([], paths)
  | child :: rest =>
      let (errors, paths) := transformErrors paths child
      let (others, paths) := transformChildren paths rest
      (errors ++ others, paths)
end

/-- `transformedErrors`: each tree begins with an empty array of names. -/
def transformedErrors (validationErrors : List ClassValidationError) : List ValidationError :=
  validationErrors.flatMap fun error => (transformErrors [] error).1

/-- `fromClassValidator`, with the errors of the exception it returns. The constructor reads the
message of the first error, which throws if there is none. -/
def fromClassValidator (validationErrors : List ClassValidationError) :
    Except HubError (List ValidationError) :=
  match transformedErrors validationErrors with
  | [] => .error .typeError
  | errors => .ok errors

/-! ## What the errors are to be -/

/-- The messages of the constraints of a node. -/
def ClassValidationError.messages (error : ClassValidationError) : List String :=
  (error.constraints.getD []).map (·.2)

mutual
/-- The nodes of a tree, each with the property names from the root to it. -/
def nodesBelow (above : List String) :
    ClassValidationError → List (List String × ClassValidationError)
  | ⟨property, value, constraints, children⟩ =>
      (above ++ [property], ⟨property, value, constraints, children⟩) ::
        nodesOfChildren (above ++ [property]) children

/-- The nodes of the trees below a node. -/
def nodesOfChildren (above : List String) :
    List ClassValidationError → List (List String × ClassValidationError)
  | [] => []
  | child :: rest => nodesBelow above child ++ nodesOfChildren above rest
end

/-- One error for each constraint of a node. -/
def errorsOf (node : List String × ClassValidationError) : List ValidationError :=
  node.2.messages.map fun message => ⟨message, some (".".intercalate node.1), node.2.value⟩

/-- One error for each constraint of every node of the trees. -/
def expectedErrors (validationErrors : List ClassValidationError) : List ValidationError :=
  (nodesOfChildren [] validationErrors).flatMap errorsOf

/-- The exception holds one error for each constraint of every node, in some order. -/
def ReportsAll (validationErrors : List ClassValidationError) : Prop :=
  ∃ errors, fromClassValidator validationErrors = .ok errors ∧
    errors.Perm (expectedErrors validationErrors)

/-! ## Where the constraints may be -/

mutual
/-- No node of the tree has a constraint. -/
def unconstrained : ClassValidationError → Bool
  | ⟨_, _, constraints, children⟩ =>
      (constraints.getD []).isEmpty && allUnconstrained children

/-- No node of the trees has a constraint. -/
def allUnconstrained : List ClassValidationError → Bool
  | [] => true
  | child :: rest => unconstrained child && allUnconstrained rest
end

mutual
/-- All constraints of the tree are those of one node: the first with constraints on the way from
the root down the first children. -/
def constrainedFirst : ClassValidationError → Bool
  | ⟨_, _, some _, children⟩ => allUnconstrained children
  | ⟨_, _, none, children⟩ => firstConstrainedFirst children

/-- Beside the first child there is no constraint. -/
def firstConstrainedFirst : List ClassValidationError → Bool
  | [] => true
  | child :: rest => constrainedFirst child && allUnconstrained rest
end

/-! ## Paths and their weight -/

/-- The length of a joined path, with a dot behind each name. -/
def pathWeight (path : List String) : Nat :=
  (path.map fun name => name.length + 1).sum

/-- The length of the path of an error, with a dot behind it. -/
def errorWeight (error : ValidationError) : Nat :=
  (error.path.getD "").length + 1

/-- The expected errors of a tree below a node. -/
def expectedBelow (above : List String) (error : ClassValidationError) : List ValidationError :=
  (nodesBelow above error).flatMap errorsOf

/-- The expected errors of the trees below a node. -/
def expectedOfChildren (above : List String) (children : List ClassValidationError) :
    List ValidationError :=
  (nodesOfChildren above children).flatMap errorsOf

variable {property : String} {value : Value} {constraints : Option (List (String × String))}
  {children rest : List ClassValidationError} {child error : ClassValidationError}
  {above paths : List String}

theorem expected_below_node :
    expectedBelow above ⟨property, value, constraints, children⟩ =
      errorsOf (above ++ [property], ⟨property, value, constraints, children⟩) ++
        expectedOfChildren (above ++ [property]) children := by
  rw [expectedBelow, nodesBelow, List.flatMap_cons]
  rfl

theorem expected_of_children_cons :
    expectedOfChildren above (child :: rest) =
      expectedBelow above child ++ expectedOfChildren above rest := by
  rw [expectedOfChildren, nodesOfChildren, List.flatMap_append]
  rfl

theorem transform_constrained {found : List (String × String)} :
    transformErrors paths ⟨property, value, some found, children⟩ =
      (errorsOf (paths ++ [property], ⟨property, value, some found, children⟩),
        paths ++ [property]) := by
  rw [transformErrors, errorsOf, ClassValidationError.messages, List.map_map]
  rfl

theorem transform_unconstrained :
    transformErrors paths ⟨property, value, none, children⟩ =
      transformChildren (paths ++ [property]) children := by
  rw [transformErrors]

theorem path_weight_append :
    pathWeight (paths ++ [property]) = pathWeight paths + (property.length + 1) := by
  rw [pathWeight, List.map_append, List.sum_append]
  rfl

/-- Without the last dot, the weight of a path is the length of its joined names. -/
theorem path_weight_eq (h : paths ≠ []) :
    (".".intercalate paths).length + 1 = pathWeight paths := by
  induction paths with
  | nil => exact absurd rfl h
  | cons name rest ih =>
      cases rest with
      | nil =>
          rw [String.intercalate_singleton]
          rfl
      | cons next rest =>
          rw [String.intercalate_cons_cons, String.length_append, String.length_append,
            add_assoc, ih nofun]
          rfl

/-- The errors of a node weigh as much as their path, each. -/
theorem sum_weights_errors_of (h : paths ≠ []) :
    ((errorsOf (paths, error)).map errorWeight).sum =
      error.messages.length * pathWeight paths := by
  have hweights : ∀ weight ∈ (errorsOf (paths, error)).map errorWeight,
      weight = pathWeight paths := by
    intro weight hweight
    obtain ⟨found, hfound, rfl⟩ := List.mem_map.mp hweight
    obtain ⟨message, -, rfl⟩ := List.mem_map.mp hfound
    exact path_weight_eq h
  rw [List.sum_eq_card_nsmul _ _ hweights, List.length_map, errorsOf, List.length_map, smul_eq_mul]

mutual
/-- A walk through a tree leaves more names than it has begun with. -/
theorem paths_grow : ∀ (error : ClassValidationError) (paths : List String),
    pathWeight paths < pathWeight (transformErrors paths error).2
  | ⟨property, _, some _, _⟩, paths => by
      rw [transform_constrained, path_weight_append]
      exact Nat.lt_add_of_pos_right (Nat.succ_pos _)
  | ⟨property, _, none, children⟩, paths => by
      have hchildren := paths_kept children (paths ++ [property])
      rw [path_weight_append] at hchildren
      rw [transform_unconstrained]
      omega

/-- A walk through the children of a node takes no name away. -/
theorem paths_kept : ∀ (children : List ClassValidationError) (paths : List String),
    pathWeight paths ≤ pathWeight (transformChildren paths children).2
  | [], _ => Nat.le_refl _
  | child :: rest, paths =>
      (paths_grow child paths).le.trans (paths_kept rest (transformErrors paths child).2)
end

theorem transform_children_cons :
    (transformChildren paths (child :: rest)).1 =
      (transformErrors paths child).1 ++
        (transformChildren (transformErrors paths child).2 rest).1 := by
  rw [transformChildren]

/-- The errors of one node, found with some names and expected with others. -/
theorem errors_of_outweigh (h : pathWeight above ≤ pathWeight paths) :
    Outweighs errorWeight (errorsOf (paths ++ [property], error))
      (errorsOf (above ++ [property], error)) := by
  have hnonempty : ∀ names : List String, names ++ [property] ≠ [] := by
    intro names
    exact List.append_ne_nil_of_right_ne_nil names (List.cons_ne_nil property [])
  constructor
  · rw [errorsOf, errorsOf, List.length_map, List.length_map]
  · intro _
    rw [sum_weights_errors_of (hnonempty above), sum_weights_errors_of (hnonempty paths),
      path_weight_append, path_weight_append]
    exact Nat.mul_le_mul_left _ (Nat.add_le_add_right h _)

theorem errors_of_none_of_balances (h : pathWeight above < pathWeight paths)
    (hbalances : Balances errorWeight (errorsOf (paths ++ [property], error))
      (errorsOf (above ++ [property], error))) :
    errorsOf (above ++ [property], error) = [] := by
  have hweight := hbalances.weight
  have hnonempty : ∀ names : List String, names ++ [property] ≠ [] := by
    intro names
    exact List.append_ne_nil_of_right_ne_nil names (List.cons_ne_nil property [])
  rw [sum_weights_errors_of (hnonempty above), sum_weights_errors_of (hnonempty paths),
    path_weight_append, path_weight_append] at hweight
  rw [errorsOf, List.map_eq_nil_iff]
  refine List.eq_nil_of_length_eq_zero ?_
  rcases Nat.eq_zero_or_pos error.messages.length with hzero | hpos
  · exact hzero
  · have hsame := Nat.eq_of_mul_eq_mul_left hpos hweight
    omega

/-! ## What is found -/

mutual
/-- A walk with at least the names above a tree finds no more than is expected, and the paths of
what it finds are no shorter. -/
theorem found_outweighs : ∀ (error : ClassValidationError) {above paths : List String},
    pathWeight above ≤ pathWeight paths →
      Outweighs errorWeight (transformErrors paths error).1 (expectedBelow above error)
  | ⟨property, value, some constraints, children⟩, above, paths, h => by
      rw [transform_constrained, expected_below_node, ← List.append_nil (errorsOf (paths ++ _, _))]
      refine (errors_of_outweigh h).append ⟨Nat.zero_le _, fun hnone => ?_⟩
      rw [List.eq_nil_of_length_eq_zero hnone.symm]
  | ⟨property, value, none, children⟩, above, paths, h => by
      rw [transform_unconstrained, expected_below_node]
      refine children_outweigh children ?_
      rw [path_weight_append, path_weight_append]
      exact Nat.add_le_add_right h _

/-- The walk through the children of a node hands its names on to each of them. -/
theorem children_outweigh : ∀ (children : List ClassValidationError) {above paths : List String},
    pathWeight above ≤ pathWeight paths →
      Outweighs errorWeight (transformChildren paths children).1
        (expectedOfChildren above children)
  | [], _, _, _ => ⟨Nat.le_refl _, fun _ => Nat.le_refl _⟩
  | child :: rest, above, paths, h => by
      rw [transform_children_cons, expected_of_children_cons]
      refine (found_outweighs child h).append (children_outweigh rest ?_)
      exact h.trans (paths_grow child paths).le
end

mutual
/-- Nothing is expected of a tree without constraints, and of no other. -/
theorem expected_below_nil_iff : ∀ (error : ClassValidationError) {above : List String},
    expectedBelow above error = [] ↔ unconstrained error = true
  | ⟨property, value, constraints, children⟩, above => by
      rw [expected_below_node, List.append_eq_nil_iff, unconstrained, Bool.and_eq_true,
        expected_of_children_nil_iff children]
      refine and_congr_left fun _ => ?_
      rw [errorsOf, List.map_eq_nil_iff, ClassValidationError.messages, List.map_eq_nil_iff,
        List.isEmpty_iff]

theorem expected_of_children_nil_iff :
    ∀ (children : List ClassValidationError) {above : List String},
      expectedOfChildren above children = [] ↔ allUnconstrained children = true
  | [], _ => iff_of_true rfl rfl
  | child :: rest, above => by
      rw [expected_of_children_cons, List.append_eq_nil_iff, allUnconstrained, Bool.and_eq_true,
        expected_below_nil_iff child, expected_of_children_nil_iff rest]
end

/-- A walk that stops at a node finds what is expected only if nothing is below the node. -/
theorem balances_constrained {found : List (String × String)}
    (h : pathWeight above ≤ pathWeight paths)
    (hbalances : Balances errorWeight
      (transformErrors paths ⟨property, value, some found, children⟩).1
      (expectedBelow above ⟨property, value, some found, children⟩)) :
    Balances errorWeight (errorsOf (paths ++ [property], ⟨property, value, some found, children⟩))
        (errorsOf (above ++ [property], ⟨property, value, some found, children⟩)) ∧
      expectedOfChildren (above ++ [property]) children = [] := by
  rw [transform_constrained, expected_below_node, ← List.append_nil (errorsOf (paths ++ _, _))]
    at hbalances
  obtain ⟨hnode, hbelow⟩ := hbalances.of_append (errors_of_outweigh h)
    ⟨Nat.zero_le _, fun hnone => by rw [List.eq_nil_of_length_eq_zero hnone.symm]⟩
  exact ⟨hnode, List.eq_nil_of_length_eq_zero hbelow.length.symm⟩

mutual
/-- With names too many, a walk finds what is expected only where nothing is. -/
theorem unconstrained_of_balances : ∀ (error : ClassValidationError) {above paths : List String},
    pathWeight above < pathWeight paths →
      Balances errorWeight (transformErrors paths error).1 (expectedBelow above error) →
      expectedBelow above error = []
  | ⟨property, value, some constraints, children⟩, above, paths, h, hbalances => by
      obtain ⟨hnode, hbelow⟩ := balances_constrained h.le hbalances
      rw [expected_below_node, hbelow, errors_of_none_of_balances h hnode]
      rfl
  | ⟨property, value, none, children⟩, above, paths, h, hbalances => by
      rw [transform_unconstrained, expected_below_node] at hbalances
      rw [expected_below_node]
      refine all_unconstrained_of_balance children ?_ hbalances
      rw [path_weight_append, path_weight_append]
      exact Nat.add_lt_add_right h _

theorem all_unconstrained_of_balance :
    ∀ (children : List ClassValidationError) {above paths : List String},
      pathWeight above < pathWeight paths →
      Balances errorWeight (transformChildren paths children).1
        (expectedOfChildren above children) →
      expectedOfChildren above children = []
  | [], _, _, _, _ => rfl
  | child :: rest, above, paths, h, hbalances => by
      have hgrown := h.trans (paths_grow child paths)
      rw [transform_children_cons, expected_of_children_cons] at hbalances
      obtain ⟨hchild, hrest⟩ := hbalances.of_append (found_outweighs child h.le)
        (children_outweigh rest hgrown.le)
      rw [expected_of_children_cons, unconstrained_of_balances child h hchild,
        all_unconstrained_of_balance rest hgrown hrest]
      rfl
end

mutual
/-- With the names above a tree, a walk finds what is expected only if the constraints are all where
it stops first. -/
theorem constrained_first_of_balances : ∀ (error : ClassValidationError) {above : List String},
    Balances errorWeight (transformErrors above error).1 (expectedBelow above error) →
      constrainedFirst error = true
  | ⟨property, value, some constraints, children⟩, above, hbalances => by
      rw [constrainedFirst]
      exact (expected_of_children_nil_iff children).mp
        (balances_constrained (Nat.le_refl _) hbalances).2
  | ⟨property, value, none, children⟩, above, hbalances => by
      rw [constrainedFirst]
      rw [transform_unconstrained, expected_below_node] at hbalances
      exact first_constrained_first_of_balances children hbalances

theorem first_constrained_first_of_balances :
    ∀ (children : List ClassValidationError) {above : List String},
      Balances errorWeight (transformChildren above children).1
        (expectedOfChildren above children) →
      firstConstrainedFirst children = true
  | [], _, _ => rfl
  | child :: rest, above, hbalances => by
      have hgrown := paths_grow child above
      rw [transform_children_cons, expected_of_children_cons] at hbalances
      obtain ⟨hchild, hrest⟩ := hbalances.of_append (found_outweighs child (Nat.le_refl _))
        (children_outweigh rest hgrown.le)
      rw [firstConstrainedFirst, constrained_first_of_balances child hchild, Bool.true_and]
      exact (expected_of_children_nil_iff rest).mp
        (all_unconstrained_of_balance rest hgrown hrest)
end

/-- Nothing is found in trees without constraints. -/
theorem transform_children_nil (h : allUnconstrained rest = true) :
    (transformChildren paths rest).1 = [] := by
  have hlength := (children_outweigh rest (Nat.le_refl (pathWeight paths))).length
  rw [(expected_of_children_nil_iff rest).mpr h] at hlength
  exact List.eq_nil_of_length_eq_zero (Nat.le_zero.mp hlength)

mutual
/-- Where the walk stops first, the names are those from the root. -/
theorem transform_of_constrained_first : ∀ (error : ClassValidationError) {above : List String},
    constrainedFirst error = true →
      (transformErrors above error).1 = expectedBelow above error
  | ⟨property, value, some constraints, children⟩, above, h => by
      rw [constrainedFirst] at h
      rw [transform_constrained, expected_below_node,
        (expected_of_children_nil_iff children).mpr h, List.append_nil]
  | ⟨property, value, none, children⟩, above, h => by
      rw [constrainedFirst] at h
      rw [transform_unconstrained, expected_below_node]
      exact transform_of_first_constrained_first children h

theorem transform_of_first_constrained_first :
    ∀ (children : List ClassValidationError) {above : List String},
      firstConstrainedFirst children = true →
        (transformChildren above children).1 = expectedOfChildren above children
  | [], _, _ => rfl
  | child :: rest, above, h => by
      rw [firstConstrainedFirst, Bool.and_eq_true] at h
      rw [transform_children_cons, expected_of_children_cons, transform_children_nil h.2,
        (expected_of_children_nil_iff rest).mpr h.2, transform_of_constrained_first child h.1]
end

/-! ## The whole forest -/

theorem transformed_outweighs :
    Outweighs errorWeight (transformedErrors children) (expectedErrors children) := by
  show Outweighs errorWeight (transformedErrors children) (expectedOfChildren [] children)
  induction children with
  | nil => exact ⟨Nat.le_refl _, fun _ => Nat.le_refl _⟩
  | cons child rest ih =>
      rw [transformedErrors, List.flatMap_cons, expected_of_children_cons]
      exact (found_outweighs child (Nat.le_refl _)).append ih

/-- The trees begin with an empty path each, so that each is judged by itself. -/
theorem transformed_balances_iff :
    (transformedErrors children).Perm (expectedErrors children) ↔
      ∀ error ∈ children, constrainedFirst error = true := by
  constructor
  · intro hperm
    have hbalances : Balances errorWeight _ _ := .of_perm hperm
    clear hperm
    induction children with
    | nil => exact nofun
    | cons child rest ih =>
        have hall : Balances errorWeight
            ((transformErrors [] child).1 ++ transformedErrors rest)
            (expectedBelow [] child ++ expectedErrors rest) := by
          rw [expectedErrors, nodesOfChildren, List.flatMap_append] at hbalances
          exact hbalances
        obtain ⟨hchild, hrest⟩ := hall.of_append (found_outweighs child (Nat.le_refl _))
          transformed_outweighs
        exact List.forall_mem_cons.mpr ⟨constrained_first_of_balances child hchild, ih hrest⟩
  · intro hfirst
    refine List.Perm.of_eq ?_
    show transformedErrors children = expectedOfChildren [] children
    induction children with
    | nil => rfl
    | cons child rest ih =>
        rw [List.forall_mem_cons] at hfirst
        rw [transformedErrors, List.flatMap_cons, expected_of_children_cons,
          transform_of_constrained_first child hfirst.1, ← ih hfirst.2]
        rfl

/-- The exception holds exactly one error for each constraint of every node exactly when, in each
tree, all constraints are those of the first node with constraints on the way down the first
children. -/
theorem reports_all_iff (h : allUnconstrained children = false) :
    ReportsAll children ↔ ∀ error ∈ children, constrainedFirst error = true := by
  rw [← transformed_balances_iff]
  have hexpected : expectedErrors children ≠ [] := by
    intro hnone
    rw [(expected_of_children_nil_iff children).mp hnone] at h
    cases h
  unfold ReportsAll fromClassValidator
  cases hfound : transformedErrors children with
  | nil =>
      refine iff_of_false ?_ fun hperm => hexpected hperm.symm.eq_nil
      rintro ⟨errors, hthrown, -⟩
      cases hthrown
  | cons first rest =>
      constructor
      · rintro ⟨errors, herrors, hperm⟩
        cases herrors
        exact hperm
      · exact fun hperm => ⟨first :: rest, rfl, hperm⟩

/-- A required text that is empty. -/
def emptyText (property : String) : ClassValidationError where
  property := property
  value := .string ""
  constraints := some [("isNotEmpty", property ++ " should not be empty")]
  children := []

/-- An object with errors in its properties only. -/
def nestedErrors (property : String) (children : List ClassValidationError) :
    ClassValidationError where
  property := property
  value := .object []
  constraints := none
  children := children

theorem reports_all_iff_chain :
    ReportsAll [nestedErrors "trigger" [emptyText "logic"], emptyText "name"] :=
  (reports_all_iff (by decide)).mpr (by decide)

/-- The second of two properties is reported as if it were one of the first. -/
theorem sibling_reported_below :
    ¬ ∀ errors, allUnconstrained errors = false → ReportsAll errors := by
  intro hall
  obtain ⟨errors, hreported, hperm⟩ :=
    hall [nestedErrors "trigger" [emptyText "logic", emptyText "sources"]] (by decide)
  have hmem : ⟨"sources should not be empty", some "trigger.logic.sources", .string ""⟩ ∈
      expectedErrors [nestedErrors "trigger" [emptyText "logic", emptyText "sources"]] := by
    refine hperm.mem_iff.mp ?_
    cases hreported
    decide +kernel
  revert hmem
  decide +kernel

end MyHomeHub.CustomValidationException
