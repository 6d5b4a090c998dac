import SqlLowering.Plan.HostBody
import SqlLowering.Proofs.Outcome

/-!
# Bodies on the host mean what evaluation says

A client body is compiled to a plan with the shapes bound around it. Its meaning is given by
evaluation alone: `Expr.instantiate` puts the bound values in the places of the parameters, and the
result is evaluated as any other expression of the host.

`Expr.run_of_compile` says that the plan yields every value that this meaning yields. Access to a
field of a record that is constructed in place skips the other fields, so the plan may also yield a
value where evaluation fails at a field that nobody asks for.
-/

namespace SqlLowering

/-! ## Parameters replaced by values -/

mutual

/-- A body with its parameters replaced by the values bound to them. Nodes of the database have no
place in a body and are left alone. -/
def Expr.instantiate (values : List Value) : Expr → Expr
  | .parameter index type =>
    match values[index.toNat]? with
    | some value => .constant value type
    | none => .parameter index type
  | .aliased expr name => .aliased (expr.instantiate values) name
  | .record fields => .record (Expr.instantiateFields values fields)
  | .array elements type => .array (Expr.instantiateList values elements) type
  | .member expr field type => .member (expr.instantiate values) field type
  | .binary op left right => .binary op (left.instantiate values) (right.instantiate values)
  | .unary op operand => .unary op (operand.instantiate values)
  | .conditional test ifTrue ifFalse =>
    .conditional (test.instantiate values) (ifTrue.instantiate values) (ifFalse.instantiate values)
  | other => other

/-- The bodies of a list with their parameters replaced. -/
def Expr.instantiateList (values : List Value) : List Expr → List Expr
  | [] => []
  | expr :: rest => expr.instantiate values :: Expr.instantiateList values rest

/-- Named bodies with their parameters replaced. -/
def Expr.instantiateFields (values : List Value) : List (String × Expr) → List (String × Expr)
  | [] => []
  | (name, expr) :: rest => (name, expr.instantiate values) :: Expr.instantiateFields values rest

end

mutual

/-- What the host can evaluate by itself has no parameters. -/
theorem Expr.instantiate_of_isOnHost (values : List Value) :
    ∀ {expr : Expr}, expr.isOnHost = true → expr.instantiate values = expr
  | .input .., _ | .constant .., _ => rfl
  | .binary _ left right, host => by
    simp only [Expr.isOnHost, Bool.and_eq_true] at host
    simp only [Expr.instantiate, left.instantiate_of_isOnHost values host.1,
      right.instantiate_of_isOnHost values host.2]
  | .unary _ operand, host => by
    simp only [Expr.isOnHost] at host
    simp only [Expr.instantiate, operand.instantiate_of_isOnHost values host]
  | .conditional test ifTrue ifFalse, host => by
    simp only [Expr.isOnHost, Bool.and_eq_true] at host
    simp only [Expr.instantiate, test.instantiate_of_isOnHost values host.1.1,
      ifTrue.instantiate_of_isOnHost values host.1.2, ifFalse.instantiate_of_isOnHost values host.2]
  | .record _, host => by
    simp only [Expr.isOnHost] at host
    rw [Expr.instantiate, Expr.instantiateFields_of_onHost values host]
  | .array _ _, host => by
    simp only [Expr.isOnHost] at host
    rw [Expr.instantiate, Expr.instantiateList_of_onHost values host]
  | .member expr _ _, host => by
    simp only [Expr.isOnHost] at host
    simp only [Expr.instantiate, expr.instantiate_of_isOnHost values host]

theorem Expr.instantiateList_of_onHost (values : List Value) :
    ∀ {exprs : List Expr}, Expr.areOnHost exprs = true → Expr.instantiateList values exprs = exprs
  | [], _ => rfl
  | expr :: rest, host => by
    simp only [Expr.areOnHost, Bool.and_eq_true] at host
    simp only [Expr.instantiateList, expr.instantiate_of_isOnHost values host.1,
      Expr.instantiateList_of_onHost values host.2]

theorem Expr.instantiateFields_of_onHost (values : List Value) :
    ∀ {fields : List (String × Expr)}, Expr.areFieldsOnHost fields = true →
      Expr.instantiateFields values fields = fields
  | [], _ => rfl
  | (_, expr) :: rest, host => by
    simp only [Expr.areFieldsOnHost, Bool.and_eq_true] at host
    simp only [Expr.instantiateFields, expr.instantiate_of_isOnHost values host.1,
      Expr.instantiateFields_of_onHost values host.2]

end

/-! ## Access to a field -/

/-- A field of a record that is constructed in place is what the plan of that field yields. -/
theorem Plan.run_lookup {row : Row} {inputs : Inputs} {values : List Value} {name : String}
    {plan : Plan} {fields : List (String × Plan)} {results : List (String × Value)}
    (ran : Plan.runFields row inputs values fields = .ok results)
    (found : fields.lookup name = some plan) :
    ∃ v, results.lookup name = some v ∧ plan.run row inputs values = .ok v := by
  induction fields generalizing results with
  | nil => cases found
  | cons head rest ih =>
    obtain ⟨other, first⟩ := head
    simp only [Plan.runFields, Except.bind_eq_ok, Except.pure_eq_ok] at ran
    obtain ⟨v, firstRan, others, restRan, rfl⟩ := ran
    rw [List.lookup_cons] at found ⊢
    by_cases same : name = other
    · simp only [same, BEq.rfl, Option.some.injEq] at found ⊢
      subst found
      exact ⟨v, rfl, firstRan⟩
    · simp only [beq_false_of_ne same] at found ⊢
      exact ih restRan found

/-- Access to a field yields the field of what the source yields, folded or not. -/
theorem Plan.run_access {row : Row} {inputs : Inputs} {values : List Value} {source : Plan}
    {name : String} {record v : Value} (ran : source.run row inputs values = .ok record)
    (projected : record.project name = .ok v) :
    (source.access name).run row inputs values = .ok v := by
  have unfolded : (Plan.field source name).run row inputs values = .ok v := by
    simp only [Plan.run, Except.bind_eq_ok, Except.mapError_eq_ok]
    exact ⟨record, ran, projected⟩
  unfold Plan.access
  split
  next fields =>
    cases found : fields.lookup name with
    | none => exact unfolded
    | some plan =>
      simp only [Plan.run, Except.bind_eq_ok, Except.pure_eq_ok] at ran
      obtain ⟨results, fieldsRan, rfl⟩ := ran
      obtain ⟨w, lookedUp, planRan⟩ := Plan.run_lookup fieldsRan found
      simp only [Value.project, Value.field?, lookedUp, Except.ok.injEq] at projected
      rw [Option.getD_some, planRan, projected]
  · exact unfolded

/-! ## Compiled bodies -/

/-- What depends on inputs only is evaluated as it stands, whatever is bound around it. -/
theorem Expr.run_evaluate {row : Row} {inputs : Inputs} {values : List Value} {expr : Expr}
    {v : Value} (parameterizable : expr.isParameterizable = true)
    (evaluated : (expr.instantiate values).eval inputs = .ok v) :
    (Plan.evaluate expr).run row inputs values = .ok v := by
  have onHost : expr.isOnHost = true := by
    simp only [Expr.isParameterizable, Bool.and_eq_true] at parameterizable
    exact parameterizable.2
  rw [Expr.instantiate_of_isOnHost values onHost] at evaluated
  rw [Plan.run, Except.mapError_eq_ok, evaluated]

/-- A body that depends on inputs only has been run by that; any other is compiled in parts. -/
theorem Expr.run_or_of_compile {row : Row} {inputs : Inputs} {values : List Value} {expr : Expr}
    {plan : Plan} {parts : Except LowerError Plan} {v : Value}
    (compiled : (if expr.isParameterizable then .ok (.evaluate expr) else parts) = .ok plan)
    (evaluated : (expr.instantiate values).eval inputs = .ok v) :
    plan.run row inputs values = .ok v ∨ parts = .ok plan := by
  split at compiled
  next parameterizable =>
    cases compiled
    exact .inl (Expr.run_evaluate parameterizable evaluated)
  · exact .inr compiled

mutual

/-- The plan of a body yields every value that the body has when the bound values stand in the
places of its parameters. -/
theorem Expr.run_of_compile (row : Row) (inputs : Inputs) (values : List Value) :
    ∀ (expr : Expr) {plan : Plan} {v : Value}, expr.compile = .ok plan →
      (expr.instantiate values).eval inputs = .ok v → plan.run row inputs values = .ok v
  | .parameter index type, plan, v, compiled, evaluated => by
    simp only [Expr.compile, Except.ok.injEq] at compiled
    subst compiled
    rw [Plan.run]
    rw [Expr.instantiate] at evaluated
    cases bound : values[index.toNat]? with
    | none => simp [bound, Expr.eval] at evaluated
    | some value => simpa [bound, Expr.eval] using evaluated
  | .constant value type, plan, v, compiled, evaluated => by
    simp only [Expr.compile, Except.ok.injEq] at compiled
    simp only [Expr.instantiate, Expr.eval, Except.ok.injEq] at evaluated
    subst compiled evaluated
    rw [Plan.run]
  | .aliased expr name, plan, v, compiled, evaluated => by
    rw [Expr.compile] at compiled
    rw [Expr.instantiate, Expr.eval] at evaluated
    exact expr.run_of_compile row inputs values compiled evaluated
  | .input name type, plan, v, compiled, evaluated => by
    simp only [Expr.compile, Except.ok.injEq] at compiled
    subst compiled
    exact Expr.run_evaluate (by simp [Expr.isParameterizable, Expr.readsInput, Expr.isOnHost])
      evaluated
  | .record fields, plan, v, compiled, evaluated => by
    rw [Expr.compile] at compiled
    rcases Expr.run_or_of_compile compiled evaluated with ran | compiled
    · exact ran
    simp only [Except.bind_eq_ok, Except.pure_eq_ok] at compiled
    obtain ⟨plans, fieldsCompiled, rfl⟩ := compiled
    simp only [Expr.instantiate, Expr.eval, Except.bind_eq_ok, Except.pure_eq_ok] at evaluated
    obtain ⟨results, fieldsEvaluated, rfl⟩ := evaluated
    simp only [Plan.run, Except.bind_eq_ok, Except.pure_eq_ok]
    exact ⟨results, Expr.runFields_of_compile row inputs values fields fieldsCompiled
      fieldsEvaluated, rfl⟩
  | .member expr field type, plan, v, compiled, evaluated => by
    rw [Expr.compile] at compiled
    rcases Expr.run_or_of_compile compiled evaluated with ran | compiled
    · exact ran
    simp only [Except.bind_eq_ok, Except.pure_eq_ok] at compiled
    obtain ⟨source, sourceCompiled, rfl⟩ := compiled
    simp only [Expr.instantiate, Expr.eval, Except.bind_eq_ok] at evaluated
    obtain ⟨record, sourceEvaluated, projected⟩ := evaluated
    exact Plan.run_access
      (expr.run_of_compile row inputs values sourceCompiled sourceEvaluated) projected
  | .array elements type, plan, v, compiled, evaluated => by
    rw [Expr.compile] at compiled
    rcases Expr.run_or_of_compile compiled evaluated with ran | compiled
    · exact ran
    simp only [Except.bind_eq_ok, Except.pure_eq_ok] at compiled
    obtain ⟨plans, elementsCompiled, rfl⟩ := compiled
    simp only [Expr.instantiate, Expr.eval, Except.bind_eq_ok, Except.pure_eq_ok] at evaluated
    obtain ⟨results, elementsEvaluated, rfl⟩ := evaluated
    simp only [Plan.run, Except.bind_eq_ok, Except.pure_eq_ok]
    exact ⟨results, Expr.runList_of_compile row inputs values elements elementsCompiled
      elementsEvaluated, rfl⟩
  | .binary op left right, plan, v, compiled, evaluated => by
    rw [Expr.compile] at compiled
    rcases Expr.run_or_of_compile compiled evaluated with ran | compiled
    · exact ran
    simp only [Except.bind_eq_ok, Except.pure_eq_ok] at compiled
    obtain ⟨leftPlan, leftCompiled, rightPlan, rightCompiled, rfl⟩ := compiled
    simp only [Expr.instantiate, Expr.eval, Except.bind_eq_ok, BinaryOp.apply_eq_ok] at evaluated
    obtain ⟨lhs, leftEvaluated, outcome⟩ := evaluated
    have leftRan := left.run_of_compile row inputs values leftCompiled leftEvaluated
    simp only [Plan.run, Except.bind_eq_ok, BinaryOp.apply_eq_ok]
    refine ⟨lhs, leftRan, ?_⟩
    rcases outcome with decided | ⟨undecided, rhs, rightEvaluated, combined⟩
    · exact Or.inl decided
    · exact Or.inr ⟨undecided, rhs,
        right.run_of_compile row inputs values rightCompiled rightEvaluated, combined⟩
  | .unary op operand, plan, v, compiled, evaluated => by
    rw [Expr.compile] at compiled
    rcases Expr.run_or_of_compile compiled evaluated with ran | compiled
    · exact ran
    simp only [Except.bind_eq_ok, Except.pure_eq_ok] at compiled
    obtain ⟨operandPlan, operandCompiled, rfl⟩ := compiled
    simp only [Expr.instantiate, Expr.eval, Except.bind_eq_ok] at evaluated
    obtain ⟨value, operandEvaluated, applied⟩ := evaluated
    simp only [Plan.run, Except.bind_eq_ok, Except.mapError_eq_ok]
    exact ⟨value, operand.run_of_compile row inputs values operandCompiled operandEvaluated,
      applied⟩
  | .conditional test ifTrue ifFalse, plan, v, compiled, evaluated => by
    rw [Expr.compile] at compiled
    rcases Expr.run_or_of_compile compiled evaluated with ran | compiled
    · exact ran
    simp only [Except.bind_eq_ok, Except.pure_eq_ok] at compiled
    obtain ⟨testPlan, testCompiled, truePlan, trueCompiled, falsePlan, falseCompiled, rfl⟩ :=
      compiled
    simp only [Expr.instantiate, Expr.eval, Except.bind_eq_ok] at evaluated
    obtain ⟨tested, testEvaluated, holds, decided, branch⟩ := evaluated
    simp only [Plan.run, Except.bind_eq_ok, Except.mapError_eq_ok]
    refine ⟨tested, test.run_of_compile row inputs values testCompiled testEvaluated, holds,
      decided, ?_⟩
    cases holds with
    | true => exact ifTrue.run_of_compile row inputs values trueCompiled branch
    | false => exact ifFalse.run_of_compile row inputs values falseCompiled branch

/-- Compiled bodies in a list run to the values of their instances, if these have values. -/
theorem Expr.runList_of_compile (row : Row) (inputs : Inputs) (values : List Value) :
    ∀ (exprs : List Expr) {plans : List Plan} {results : List Value},
      Expr.compileList exprs = .ok plans →
      Expr.evalList inputs (Expr.instantiateList values exprs) = .ok results →
      Plan.runList row inputs values plans = .ok results
  | [], plans, results, compiled, evaluated => by
    cases compiled
    cases evaluated
    rfl
  | expr :: rest, plans, results, compiled, evaluated => by
    simp only [Expr.compileList, Except.bind_eq_ok, Except.pure_eq_ok] at compiled
    obtain ⟨plan, exprCompiled, others, restCompiled, rfl⟩ := compiled
    simp only [Expr.instantiateList, Expr.evalList, Except.bind_eq_ok, Except.pure_eq_ok]
      at evaluated
    obtain ⟨value, exprEvaluated, restResults, restEvaluated, rfl⟩ := evaluated
    simp only [Plan.runList, Except.bind_eq_ok, Except.pure_eq_ok]
    exact ⟨value, expr.run_of_compile row inputs values exprCompiled exprEvaluated, restResults,
      Expr.runList_of_compile row inputs values rest restCompiled restEvaluated, rfl⟩

/-- Compiled bodies in fields run to the values of their instances, if these have values. -/
theorem Expr.runFields_of_compile (row : Row) (inputs : Inputs) (values : List Value) :
    ∀ (fields : List (String × Expr)) {plans : List (String × Plan)}
      {results : List (String × Value)},
      Expr.compileFields fields = .ok plans →
      Expr.evalFields inputs (Expr.instantiateFields values fields) = .ok results →
      Plan.runFields row inputs values plans = .ok results
  | [], plans, results, compiled, evaluated => by
    cases compiled
    cases evaluated
    rfl
  | (name, expr) :: rest, plans, results, compiled, evaluated => by
    simp only [Expr.compileFields, Except.bind_eq_ok, Except.pure_eq_ok] at compiled
    obtain ⟨plan, exprCompiled, others, restCompiled, rfl⟩ := compiled
    simp only [Expr.instantiateFields, Expr.evalFields, Except.bind_eq_ok, Except.pure_eq_ok]
      at evaluated
    obtain ⟨value, exprEvaluated, restResults, restEvaluated, rfl⟩ := evaluated
    simp only [Plan.runFields, Except.bind_eq_ok, Except.pure_eq_ok]
    exact ⟨value, expr.run_of_compile row inputs values exprCompiled exprEvaluated, restResults,
      Expr.runFields_of_compile row inputs values rest restCompiled restEvaluated, rfl⟩

end

end SqlLowering
