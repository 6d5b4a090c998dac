import SqlLowering.Proofs.HostBody
import SqlLowering.Proofs.Parts

/-!
# Compiled bodies and evaluation agree

A body with its parameters replaced by the values bound to them has a meaning by evaluation, and its
plan has one by running. Whatever evaluation yields, the plan yields. The two can differ on errors
only, and only where a field is taken from a record that is constructed in place: the plan computes
the field that is asked for, evaluation computes them all. A body without access to fields fails as
evaluation fails, with the same error.
-/

namespace SqlLowering

/-! ## Errors under another name -/

section MapError

variable {ε ε' α β : Type} (f : ε → ε')

/-- Errors are taken over at each step of a sequence. -/
theorem Except.mapError_bind (first : Except ε α) (next : α → Except ε β) :
    (first >>= next).mapError f = first.mapError f >>= fun a => (next a).mapError f := by
  cases first <;> rfl

theorem Except.mapError_ok (a : α) : (Except.ok a : Except ε α).mapError f = .ok a :=
  rfl

theorem Except.mapError_pure (a : α) :
    (pure a : Except ε α).mapError f = (pure a : Except ε' α) :=
  rfl

/-- An operator with errors of its own is one whose errors are taken over afterwards, if the right
operand is. -/
theorem BinaryOp.mapError_apply (op : BinaryOp) (lhs : Value) (lift : EvalError → ε)
    (right : Unit → Except EvalError Value) :
    (op.apply id lhs right).mapError lift =
      op.apply lift lhs fun _ => (right ()).mapError lift := by
  unfold BinaryOp.apply
  cases op.decided? lhs with
  | some value => rfl
  | none =>
    cases right () with
    | error error => rfl
    | ok rhs => cases result : op.strict lhs rhs <;> simp [Except.mapError, result]

end MapError

/-! ## Bodies that can be compared -/

/-- A body takes no field from anything, at any depth. -/
def Expr.LacksMembers (body : Expr) : Prop :=
  ∀ inner field type, ¬(Part.expr body).Contains (.expr (.member inner field type))

/-- Every parameter of a body is one of the first `count`. -/
def Expr.ParametersBelow (count : Nat) (body : Expr) : Prop :=
  ∀ index type, (Part.expr body).Contains (.expr (.parameter index type)) → index.toNat < count

theorem Expr.LacksMembers.of_child {body child : Expr} (lacks : body.LacksMembers)
    (member : .expr child ∈ body.children) : child.LacksMembers := by
  intro inner field type contains
  exact lacks inner field type (contains.of_child member)

theorem Expr.ParametersBelow.of_child {count : Nat} {body child : Expr}
    (below : body.ParametersBelow count) (member : .expr child ∈ body.children) :
    child.ParametersBelow count := by
  intro index type contains
  exact below index type (contains.of_child member)

/-- A body whose parameters are bound and that takes no fields. -/
structure Expr.IsPlain (count : Nat) (body : Expr) : Prop where
  bound : body.ParametersBelow count
  lacksMembers : body.LacksMembers

theorem Expr.IsPlain.of_child {count : Nat} {body child : Expr} (plain : body.IsPlain count)
    (member : .expr child ∈ body.children) : child.IsPlain count :=
  ⟨plain.bound.of_child member, plain.lacksMembers.of_child member⟩

/-! ## The same errors -/

/-- A body that depends on inputs only is evaluated as it stands; any other is compiled in parts. -/
theorem Expr.run_eq_or_of_compile {row : Row} {inputs : Inputs} {values : List Value} {body : Expr}
    {plan : Plan} {parts : Except LowerError Plan}
    (compiled : (if body.isParameterizable then .ok (.evaluate body) else parts) = .ok plan) :
    plan.run row inputs values = ((body.instantiate values).eval inputs).mapError .eval ∨
      parts = .ok plan := by
  split at compiled
  next parameterizable =>
    cases compiled
    rw [Expr.isParameterizable, Bool.and_eq_true] at parameterizable
    rw [Plan.run, Expr.instantiate_of_isOnHost values parameterizable.2]
    exact .inl rfl
  · exact .inr compiled

mutual

/-- A body without access to fields runs as it is evaluated, errors included. -/
theorem Expr.run_eq_of_compile (row : Row) (inputs : Inputs) (values : List Value) :
    ∀ (body : Expr) {plan : Plan}, body.IsPlain values.length → body.compile = .ok plan →
      plan.run row inputs values = ((body.instantiate values).eval inputs).mapError .eval
  | .parameter index type, plan, plain, compiled => by
    cases compiled
    have bound : index.toNat < values.length := plain.bound index type (.refl _)
    rw [Plan.run, Expr.instantiate, List.getElem?_eq_getElem bound]
    simp only [Expr.eval, Except.mapError_ok]
  | .constant value type, plan, _, compiled => by
    cases compiled
    simp only [Plan.run, Expr.instantiate, Expr.eval, Except.mapError_ok]
  | .aliased body name, plan, plain, compiled => by
    rw [Expr.compile] at compiled
    rw [Expr.instantiate, Expr.eval]
    exact body.run_eq_of_compile row inputs values (plain.of_child (List.mem_singleton_self _))
      compiled
  | .input name type, plan, _, compiled => by
    cases compiled
    simp only [Plan.run, Expr.instantiate]
  | .record fields, plan, plain, compiled => by
    rw [Expr.compile] at compiled
    rcases Expr.run_eq_or_of_compile compiled with same | compiled
    · exact same
    simp only [Except.bind_eq_ok, Except.pure_eq_ok] at compiled
    obtain ⟨plans, fieldsCompiled, rfl⟩ := compiled
    have same := Expr.runFields_eq_of_compile row inputs values fields
      (fun field member => plain.of_child (List.mem_map_of_mem member)) fieldsCompiled
    simp only [Plan.run, Expr.instantiate, Expr.eval, Except.mapError_bind, Except.mapError_pure,
      same]
  | .member body field type, plan, plain, compiled =>
    (plain.lacksMembers body field type (.refl _)).elim
  | .array elements type, plan, plain, compiled => by
    rw [Expr.compile] at compiled
    rcases Expr.run_eq_or_of_compile compiled with same | compiled
    · exact same
    simp only [Except.bind_eq_ok, Except.pure_eq_ok] at compiled
    obtain ⟨plans, elementsCompiled, rfl⟩ := compiled
    have same := Expr.runList_eq_of_compile row inputs values elements
      (fun element member => plain.of_child (List.mem_map_of_mem member)) elementsCompiled
    simp only [Plan.run, Expr.instantiate, Expr.eval, Except.mapError_bind, Except.mapError_pure,
      same]
  | .binary op left right, plan, plain, compiled => by
    rw [Expr.compile] at compiled
    rcases Expr.run_eq_or_of_compile compiled with same | compiled
    · exact same
    simp only [Except.bind_eq_ok, Except.pure_eq_ok] at compiled
    obtain ⟨leftPlan, leftCompiled, rightPlan, rightCompiled, rfl⟩ := compiled
    have leftSame := left.run_eq_of_compile row inputs values
      (plain.of_child List.mem_cons_self) leftCompiled
    have rightSame := right.run_eq_of_compile row inputs values
      (plain.of_child (List.mem_cons_of_mem _ List.mem_cons_self)) rightCompiled
    -- The right operand is computed in the same cases, since the left one decides alone in them.
    simp only [Plan.run, Expr.instantiate, Expr.eval, Except.mapError_bind,
      BinaryOp.mapError_apply, leftSame, rightSame]
  | .unary op operand, plan, plain, compiled => by
    rw [Expr.compile] at compiled
    rcases Expr.run_eq_or_of_compile compiled with same | compiled
    · exact same
    simp only [Except.bind_eq_ok, Except.pure_eq_ok] at compiled
    obtain ⟨operandPlan, operandCompiled, rfl⟩ := compiled
    have same := operand.run_eq_of_compile row inputs values
      (plain.of_child (List.mem_singleton_self _)) operandCompiled
    simp only [Plan.run, Expr.instantiate, Expr.eval, Except.mapError_bind, same]
  | .conditional test ifTrue ifFalse, plan, plain, compiled => by
    rw [Expr.compile] at compiled
    rcases Expr.run_eq_or_of_compile compiled with same | compiled
    · exact same
    simp only [Except.bind_eq_ok, Except.pure_eq_ok] at compiled
    obtain ⟨testPlan, testCompiled, truePlan, trueCompiled, falsePlan, falseCompiled, rfl⟩ :=
      compiled
    have testSame := test.run_eq_of_compile row inputs values
      (plain.of_child List.mem_cons_self) testCompiled
    have trueSame := ifTrue.run_eq_of_compile row inputs values
      (plain.of_child (by simp [Expr.children])) trueCompiled
    have falseSame := ifFalse.run_eq_of_compile row inputs values
      (plain.of_child (by simp [Expr.children])) falseCompiled
    simp only [Plan.run, Expr.instantiate, Expr.eval, Except.mapError_bind, testSame, trueSame,
      falseSame]
    congr
    funext tested
    congr
    funext holds
    cases holds <;> rfl

/-- Compiled bodies in a list run to what their instances evaluate to, in success and in error. -/
theorem Expr.runList_eq_of_compile (row : Row) (inputs : Inputs) (values : List Value) :
    ∀ (bodies : List Expr) {plans : List Plan}, (∀ body ∈ bodies, body.IsPlain values.length) →
      Expr.compileList bodies = .ok plans →
      Plan.runList row inputs values plans =
        (Expr.evalList inputs (Expr.instantiateList values bodies)).mapError .eval
  | [], plans, _, compiled => by
    cases compiled
    rfl
  | body :: rest, plans, plain, compiled => by
    simp only [Expr.compileList, Except.bind_eq_ok, Except.pure_eq_ok] at compiled
    obtain ⟨plan, bodyCompiled, others, restCompiled, rfl⟩ := compiled
    have same := body.run_eq_of_compile row inputs values (plain body List.mem_cons_self)
      bodyCompiled
    have restSame := Expr.runList_eq_of_compile row inputs values rest
      (fun other member => plain other (List.mem_cons_of_mem _ member)) restCompiled
    simp only [Plan.runList, Expr.instantiateList, Expr.evalList, Except.mapError_bind,
      Except.mapError_pure, same, restSame]

/-- Compiled bodies in fields run to what their instances evaluate to, in success and in error. -/
theorem Expr.runFields_eq_of_compile (row : Row) (inputs : Inputs) (values : List Value) :
    ∀ (fields : List (String × Expr)) {plans : List (String × Plan)},
      (∀ field ∈ fields, field.2.IsPlain values.length) → Expr.compileFields fields = .ok plans →
      Plan.runFields row inputs values plans =
        (Expr.evalFields inputs (Expr.instantiateFields values fields)).mapError .eval
  | [], plans, _, compiled => by
    cases compiled
    rfl
  | (name, body) :: rest, plans, plain, compiled => by
    simp only [Expr.compileFields, Except.bind_eq_ok, Except.pure_eq_ok] at compiled
    obtain ⟨plan, bodyCompiled, others, restCompiled, rfl⟩ := compiled
    have same := body.run_eq_of_compile row inputs values (plain _ List.mem_cons_self) bodyCompiled
    have restSame := Expr.runFields_eq_of_compile row inputs values rest
      (fun other member => plain other (List.mem_cons_of_mem _ member)) restCompiled
    simp only [Plan.runFields, Expr.instantiateFields, Expr.evalFields, Except.mapError_bind,
      Except.mapError_pure, same, restSame]

end

/-! ## Every parameter is replaced -/

/-- A body has no parameters, at any depth. -/
def Expr.LacksParameters (body : Expr) : Prop :=
  ∀ index type, ¬(Part.expr body).Contains (.expr (.parameter index type))

/-- A node that is no parameter lacks parameters if its children do. -/
theorem Expr.LacksParameters.of_children {body : Expr}
    (node : ∀ index type, body ≠ .parameter index type)
    (children : ∀ child ∈ body.children, ∃ inner, child = .expr inner ∧ inner.LacksParameters) :
    body.LacksParameters := by
  intro index type contains
  rcases Part.contains_iff.1 contains with same | ⟨child, member, inside⟩
  · exact node index type (Part.expr.inj same)
  · obtain ⟨inner, rfl, lacks⟩ := children child member
    exact lacks index type inside

theorem Expr.IsHosted.of_child {body child : Expr} (hosted : body.IsHosted)
    (member : .expr child ∈ body.children) : child.IsHosted := by
  obtain ⟨inner, same, innerHosted⟩ := hosted.of_contains ((Part.Contains.refl _).of_child member)
  cases same
  exact innerHosted

mutual

/-- With enough values, no parameter of a body is left. -/
theorem Expr.lacksParameters_instantiate (values : List Value) :
    ∀ (body : Expr), body.IsHosted → body.ParametersBelow values.length →
      (body.instantiate values).LacksParameters
  | .parameter index type, _, below => by
    have bound : index.toNat < values.length := below index type (.refl _)
    rw [Expr.instantiate, List.getElem?_eq_getElem bound]
    exact .of_children nofun nofun
  | .constant .., _, _ | .input .., _, _ => .of_children nofun nofun
  | .aliased body _, hosted, below | .member body _ _, hosted, below
  | .unary _ body, hosted, below => by
    have lacks := body.lacksParameters_instantiate values
      (hosted.of_child (List.mem_singleton_self _)) (below.of_child (List.mem_singleton_self _))
    refine .of_children nofun ?_
    simpa [Expr.instantiate, Expr.children] using lacks
  | .binary op left right, hosted, below => by
    have first : .expr left ∈ (Expr.binary op left right).children := by simp [Expr.children]
    have second : .expr right ∈ (Expr.binary op left right).children := by simp [Expr.children]
    have leftLacks := left.lacksParameters_instantiate values (hosted.of_child first)
      (below.of_child first)
    have rightLacks := right.lacksParameters_instantiate values (hosted.of_child second)
      (below.of_child second)
    refine .of_children nofun ?_
    simpa [Expr.instantiate, Expr.children] using ⟨leftLacks, rightLacks⟩
  | .conditional test ifTrue ifFalse, hosted, below => by
    have tested : .expr test ∈ (Expr.conditional test ifTrue ifFalse).children := by
      simp [Expr.children]
    have first : .expr ifTrue ∈ (Expr.conditional test ifTrue ifFalse).children := by
      simp [Expr.children]
    have second : .expr ifFalse ∈ (Expr.conditional test ifTrue ifFalse).children := by
      simp [Expr.children]
    have testLacks := test.lacksParameters_instantiate values (hosted.of_child tested)
      (below.of_child tested)
    have trueLacks := ifTrue.lacksParameters_instantiate values (hosted.of_child first)
      (below.of_child first)
    have falseLacks := ifFalse.lacksParameters_instantiate values (hosted.of_child second)
      (below.of_child second)
    refine .of_children nofun ?_
    simpa [Expr.instantiate, Expr.children] using ⟨testLacks, trueLacks, falseLacks⟩
  | .record fields, hosted, below => by
    have lacks := Expr.lacksParameters_instantiateFields values fields
      (fun field member => hosted.of_child (List.mem_map_of_mem member))
      (fun field member => below.of_child (List.mem_map_of_mem member))
    refine .of_children nofun ?_
    intro child member
    obtain ⟨field, listed, rfl⟩ := List.mem_map.1 member
    exact ⟨field.2, rfl, lacks field listed⟩
  | .array elements type, hosted, below => by
    have lacks := Expr.lacksParameters_instantiateList values elements
      (fun element member => hosted.of_child (List.mem_map_of_mem member))
      (fun element member => below.of_child (List.mem_map_of_mem member))
    refine .of_children nofun ?_
    intro child member
    obtain ⟨element, listed, rfl⟩ := List.mem_map.1 member
    exact ⟨element, rfl, lacks element listed⟩
  -- The nodes of the database have no place on the host.
  | .column .., hosted, _ | .function .., hosted, _ | .fragment .., hosted, _
  | .cast .., hosted, _ | .exists _, hosted, _ | .isIn .., hosted, _ | .aggregate .., hosted, _
  | .subquery .., hosted, _ | .defaultIfEmpty .., hosted, _ => by
    rcases hosted with onHost | ⟨plan, compiled⟩
    · cases onHost
    · cases compiled

theorem Expr.lacksParameters_instantiateList (values : List Value) :
    ∀ (bodies : List Expr), (∀ body ∈ bodies, body.IsHosted) →
      (∀ body ∈ bodies, body.ParametersBelow values.length) →
      ∀ body ∈ Expr.instantiateList values bodies, body.LacksParameters
  | [], _, _ => nofun
  | body :: rest, hosted, below => List.forall_mem_cons.2
    ⟨body.lacksParameters_instantiate values (hosted body List.mem_cons_self)
      (below body List.mem_cons_self),
      Expr.lacksParameters_instantiateList values rest
        (fun other member => hosted other (List.mem_cons_of_mem _ member))
        (fun other member => below other (List.mem_cons_of_mem _ member))⟩

theorem Expr.lacksParameters_instantiateFields (values : List Value) :
    ∀ (fields : List (String × Expr)), (∀ field ∈ fields, field.2.IsHosted) →
      (∀ field ∈ fields, field.2.ParametersBelow values.length) →
      ∀ field ∈ Expr.instantiateFields values fields, field.2.LacksParameters
  | [], _, _ => nofun
  | (_, body) :: rest, hosted, below => List.forall_mem_cons.2
    ⟨body.lacksParameters_instantiate values (hosted _ List.mem_cons_self)
      (below _ List.mem_cons_self),
      Expr.lacksParameters_instantiateFields values rest
        (fun other member => hosted other (List.mem_cons_of_mem _ member))
        (fun other member => below other (List.mem_cons_of_mem _ member))⟩

end

/-- With a value bound to each of its parameters, a body has no parameters left to replace; its plan
yields whatever the body evaluates to, and without access to fields it fails exactly as evaluation
does. -/
theorem Expr.run_agrees_with_eval {body : Expr} {plan : Plan} {values : List Value}
    (compiled : body.compile = .ok plan) (bound : body.ParametersBelow values.length) (row : Row)
    (inputs : Inputs) :
    (body.instantiate values).LacksParameters ∧
      (∀ v, (body.instantiate values).eval inputs = .ok v → plan.run row inputs values = .ok v) ∧
      (body.LacksMembers →
        plan.run row inputs values = ((body.instantiate values).eval inputs).mapError .eval) := by
  refine ⟨body.lacksParameters_instantiate values (.inr ⟨plan, compiled⟩) bound, ?_, ?_⟩
  · intro v evaluated
    exact body.run_of_compile row inputs values compiled evaluated
  · intro lacks
    exact body.run_eq_of_compile row inputs values ⟨bound, lacks⟩ compiled

/-- The sum of the first value and an input if the second value says so, and otherwise a quotient
that does not exist. -/
def Expr.sumOrQuotient : Expr :=
  .conditional (.parameter 1 .bool)
    (.binary .add (.parameter 0 .int32) (.aliased (.input "x" .int32) "X"))
    (.binary .divide (.parameter 0 .int32) (.constant (.int 0) .int32))

/-- The sum is given where the second value chooses it, and the quotient fails where it is chosen.
-/
theorem Expr.run_sumOrQuotient :
    ∃ plan, Expr.sumOrQuotient.compile = .ok plan ∧
      plan.run [] (NameMap.ofList [("x", .int 4)]) [.int 3, .bool true] = .ok (.int 7) ∧
      plan.run [] (NameMap.ofList [("x", .int 4)]) [.int 3, .bool false] =
        .error (.eval .divisionByZero) := by
  have bound : ∀ second, Expr.sumOrQuotient.ParametersBelow [Value.int 3, second].length := by
    intro second index type contains
    simp [@Part.contains_iff (.expr _), Part.children, Expr.children, Expr.sumOrQuotient]
      at contains
    rcases contains with ⟨rfl, -⟩ | ⟨rfl, -⟩ | ⟨rfl, -⟩ <;> simp
  have lacks : Expr.sumOrQuotient.LacksMembers := by
    intro inner field type contains
    simp [@Part.contains_iff (.expr _), Part.children, Expr.children, Expr.sumOrQuotient]
      at contains
  refine ⟨_, rfl, ?_, ?_⟩
  · have evaluated : (Expr.sumOrQuotient.instantiate [.int 3, .bool true]).eval
        (NameMap.ofList [("x", .int 4)]) = .ok (.int 7) := rfl
    exact (Expr.run_agrees_with_eval rfl (bound _) [] _).2.1 _ evaluated
  · exact (Expr.run_agrees_with_eval rfl (bound _) [] _).2.2 lacks

end SqlLowering
