import SqlLowering.Plan.Projection
import SqlLowering.Proofs.Outcome

/-!
# Derivations of flattening

What a successful flattening of a shape can have done, said once: `Expr.Collects` has one rule for
each way in which a part of a shape becomes a plan, with the columns before and after it. Facts
about plans and their columns are inductions over these derivations; `Expr.collects_of_collect`
gives the derivation of every flattening that succeeds.
-/

namespace SqlLowering

/-- Whether a node is always taken apart: records and sides of outer joins. -/
def Expr.isShape : Expr → Bool
  | .record _ | .defaultIfEmpty .. => true
  | _ => false

/-- Whether an expression is evaluated as a whole, by the host or by the database. -/
def Expr.isWhole (expr : Expr) : Bool :=
  expr.isParameterizable || expr.isRenderable

/-- Whether an expression is a column: the database evaluates it, unless it is a constant that
stands under a node of the host. -/
def Expr.isLeaf (hosted : Bool) : Expr → Bool
  | .constant .. => !hosted
  | expr => !expr.isParameterizable && expr.isRenderable

mutual

/-- How a shape under a path becomes a plan, and what has been collected before and after it. -/
inductive Expr.Collects : List String → Bool → Expr → Collected → Plan → Collected → Prop
  | evaluated {path : List String} {hosted : Bool} {expr : Expr} {g : Collected} :
    expr.isShape = false → expr.isParameterizable = true →
    Expr.Collects path hosted expr g (.evaluate expr) g
  | constant {path : List String} {value : Value} {type : DataType} {g : Collected} :
    Expr.Collects path true (.constant value type) g (.constant value) g
  | leaf {path : List String} {hosted : Bool} {expr : Expr} {g : Collected} :
    expr.isShape = false → expr.isLeaf hosted = true →
    Expr.Collects path hosted expr g (expr.reading g.columns.length) (g.addAt path hosted expr)
  | record {path : List String} {hosted : Bool} {fields : List (String × Expr)}
      {plans : List (String × Plan)} {g after : Collected} :
    Expr.CollectsFields path hosted fields { g with numbered := 0 } plans after →
    Expr.Collects path hosted (.record fields) g (.construct plans)
      { after with numbered := g.numbered }
  | defaultIfEmpty {path : List String} {hosted : Bool} {expr flag : Expr} {flagAlias : String}
      {inner : Plan} {g after : Collected} :
    Expr.Collects path hosted expr (g.add (joinPath (pathName path) flagAlias) flag) inner after →
    Expr.Collects path hosted (.defaultIfEmpty expr flag flagAlias) g
      (.defaultIfEmpty g.columns.length expr.type.defaultValue inner) after
  | member {path : List String} {hosted : Bool} {expr : Expr} {field : String} {type : DataType}
      {source : Plan} {g after : Collected} :
    (Expr.member expr field type).isWhole = false →
    Expr.Collects path true expr (g.underHost hosted) source after →
    Expr.Collects path hosted (.member expr field type) g (source.access field) after
  | array {path : List String} {hosted : Bool} {elements : List Expr} {type : DataType}
      {plans : List Plan} {g after : Collected} :
    (Expr.array elements type).isWhole = false →
    Expr.CollectsList path elements (g.underHost hosted) plans after →
    Expr.Collects path hosted (.array elements type) g (.array plans) after
  | binary {path : List String} {hosted : Bool} {op : BinaryOp} {left right : Expr}
      {lhs rhs : Plan} {g middle after : Collected} :
    (Expr.binary op left right).isWhole = false →
    Expr.Collects path true left (g.underHost hosted) lhs middle →
    Expr.Collects path true right middle rhs after →
    Expr.Collects path hosted (.binary op left right) g (.binary op lhs rhs) after
  | unary {path : List String} {hosted : Bool} {op : UnaryOp} {operand : Expr} {plan : Plan}
      {g after : Collected} :
    (Expr.unary op operand).isWhole = false →
    Expr.Collects path true operand (g.underHost hosted) plan after →
    Expr.Collects path hosted (.unary op operand) g (.unary op plan) after
  | conditional {path : List String} {hosted : Bool} {test ifTrue ifFalse : Expr}
      {testPlan truePlan falsePlan : Plan} {g afterTest afterTrue after : Collected} :
    (Expr.conditional test ifTrue ifFalse).isWhole = false →
    Expr.Collects path true test (g.underHost hosted) testPlan afterTest →
    Expr.Collects path true ifTrue afterTest truePlan afterTrue →
    Expr.Collects path true ifFalse afterTrue falsePlan after →
    Expr.Collects path hosted (.conditional test ifTrue ifFalse) g
      (.conditional testPlan truePlan falsePlan) after

/-- How the elements of an array become plans, from the first on. -/
inductive Expr.CollectsList : List String → List Expr → Collected → List Plan → Collected → Prop
  | nil {path : List String} {g : Collected} : Expr.CollectsList path [] g [] g
  | cons {path : List String} {expr : Expr} {rest : List Expr} {plan : Plan} {plans : List Plan}
      {g middle after : Collected} :
    Expr.Collects path true expr g plan middle →
    Expr.CollectsList path rest middle plans after →
    Expr.CollectsList path (expr :: rest) g (plan :: plans) after

/-- How the fields of a record become plans, from the first on. -/
inductive Expr.CollectsFields : List String → Bool → List (String × Expr) → Collected →
    List (String × Plan) → Collected → Prop
  | nil {path : List String} {hosted : Bool} {g : Collected} :
    Expr.CollectsFields path hosted [] g [] g
  | cons {path : List String} {hosted : Bool} {name : String} {expr : Expr}
      {rest : List (String × Expr)} {plan : Plan} {plans : List (String × Plan)}
      {g middle after : Collected} :
    Expr.Collects (path ++ [name]) hosted expr g plan middle →
    Expr.CollectsFields path hosted rest middle plans after →
    Expr.CollectsFields path hosted ((name, expr) :: rest) g ((name, plan) :: plans) after

end

/-! ## Every flattening has a derivation -/

/-- An expression that is not taken apart is evaluated by the host, is a constant there, or is a
column. -/
theorem Expr.collects_of_collectWhole? {path : List String} {hosted : Bool} {expr : Expr}
    {g after : Collected} {plan : Plan} (apart : expr.isShape = false)
    (collected : expr.collectWhole? path hosted g = some (plan, after)) :
    Expr.Collects path hosted expr g plan after := by
  unfold Expr.collectWhole? at collected
  split at collected
  next parameterizable =>
    cases collected
    exact .evaluated apart parameterizable
  next notParameterizable =>
    split at collected
    · cases collected
      exact .constant
    next notConstant =>
      split at collected
      next renderable =>
        cases collected
        refine .leaf apart ?_
        unfold Expr.isLeaf
        split
        · cases hosted with
          | false => rfl
          | true => exact (notConstant _ _ rfl rfl).elim
        · simp [notParameterizable, renderable]
      · cases collected

theorem Expr.isWhole_of_collectWhole? {path : List String} {hosted : Bool} {expr : Expr}
    {g : Collected} (refused : expr.collectWhole? path hosted g = none) :
    expr.isWhole = false := by
  unfold Expr.collectWhole? at refused
  split at refused
  · cases refused
  next notParameterizable =>
    split at refused
    · cases refused
    · split at refused
      · cases refused
      next notRenderable => simp [Expr.isWhole, notParameterizable, notRenderable]

/-- An expression that may stay whole has been collected so, or in parts. -/
theorem Expr.collects_or_of_collect {path : List String} {hosted : Bool} {expr : Expr}
    {g after : Collected} {plan : Plan} {parts : Except LowerError (Plan × Collected)}
    (apart : expr.isShape = false)
    (collected : (match expr.collectWhole? path hosted g with
      | some whole => Except.ok whole
      | none => parts) = .ok (plan, after)) :
    Expr.Collects path hosted expr g plan after ∨
      expr.isWhole = false ∧ parts = .ok (plan, after) := by
  split at collected
  next found =>
    cases collected
    exact .inl (Expr.collects_of_collectWhole? apart found)
  next refused => exact .inr ⟨Expr.isWhole_of_collectWhole? refused, collected⟩

mutual

/-- A flattening that succeeds has a derivation. -/
theorem Expr.collects_of_collect :
    ∀ (expr : Expr) {path : List String} {hosted : Bool} {g after : Collected} {plan : Plan},
      expr.collect path hosted g = .ok (plan, after) → Expr.Collects path hosted expr g plan after
  | .record fields, path, hosted, g, after, plan, collected => by
    simp only [Expr.collect, Except.bind_eq_ok, Except.pure_eq_ok] at collected
    obtain ⟨⟨plans, last⟩, fieldsCollected, same⟩ := collected
    cases same
    exact .record (Expr.collectsFields_of_collect fields fieldsCollected)
  | .defaultIfEmpty expr flag flagAlias, path, hosted, g, after, plan, collected => by
    simp only [Expr.collect, Except.bind_eq_ok, Except.pure_eq_ok] at collected
    obtain ⟨⟨inner, last⟩, exprCollected, same⟩ := collected
    cases same
    exact .defaultIfEmpty (expr.collects_of_collect exprCollected)
  | .member expr field type, path, hosted, g, after, plan, collected => by
    rw [Expr.collect] at collected
    rcases Expr.collects_or_of_collect rfl collected with whole | ⟨apart, collected⟩
    · exact whole
    simp only [Except.bind_eq_ok, Except.pure_eq_ok] at collected
    obtain ⟨⟨source, last⟩, exprCollected, same⟩ := collected
    cases same
    exact .member apart (expr.collects_of_collect exprCollected)
  | .array elements type, path, hosted, g, after, plan, collected => by
    rw [Expr.collect] at collected
    rcases Expr.collects_or_of_collect rfl collected with whole | ⟨apart, collected⟩
    · exact whole
    simp only [Except.bind_eq_ok, Except.pure_eq_ok] at collected
    obtain ⟨⟨plans, last⟩, elementsCollected, same⟩ := collected
    cases same
    exact .array apart (Expr.collectsList_of_collect elements elementsCollected)
  | .binary op left right, path, hosted, g, after, plan, collected => by
    rw [Expr.collect] at collected
    rcases Expr.collects_or_of_collect rfl collected with whole | ⟨apart, collected⟩
    · exact whole
    simp only [Except.bind_eq_ok, Except.pure_eq_ok] at collected
    obtain ⟨⟨lhs, middle⟩, leftCollected, ⟨rhs, last⟩, rightCollected, same⟩ := collected
    cases same
    exact .binary apart (left.collects_of_collect leftCollected)
      (right.collects_of_collect rightCollected)
  | .unary op operand, path, hosted, g, after, plan, collected => by
    rw [Expr.collect] at collected
    rcases Expr.collects_or_of_collect rfl collected with whole | ⟨apart, collected⟩
    · exact whole
    simp only [Except.bind_eq_ok, Except.pure_eq_ok] at collected
    obtain ⟨⟨inner, last⟩, operandCollected, same⟩ := collected
    cases same
    exact .unary apart (operand.collects_of_collect operandCollected)
  | .conditional test ifTrue ifFalse, path, hosted, g, after, plan, collected => by
    rw [Expr.collect] at collected
    rcases Expr.collects_or_of_collect rfl collected with whole | ⟨apart, collected⟩
    · exact whole
    simp only [Except.bind_eq_ok, Except.pure_eq_ok] at collected
    obtain ⟨⟨testPlan, afterTest⟩, testCollected, ⟨truePlan, afterTrue⟩, trueCollected,
      ⟨falsePlan, last⟩, falseCollected, same⟩ := collected
    cases same
    exact .conditional apart
      (test.collects_of_collect testCollected) (ifTrue.collects_of_collect trueCollected)
      (ifFalse.collects_of_collect falseCollected)
  -- The nodes that have no parts of their own to flatten.
  | .column .., path, hosted, g, after, plan, collected
  | .aliased .., path, hosted, g, after, plan, collected
  | .constant .., path, hosted, g, after, plan, collected
  | .input .., path, hosted, g, after, plan, collected
  | .function .., path, hosted, g, after, plan, collected
  | .fragment .., path, hosted, g, after, plan, collected
  | .cast .., path, hosted, g, after, plan, collected
  | .exists _, path, hosted, g, after, plan, collected
  | .isIn .., path, hosted, g, after, plan, collected
  | .aggregate .., path, hosted, g, after, plan, collected
  | .subquery .., path, hosted, g, after, plan, collected
  | .parameter .., path, hosted, g, after, plan, collected => by
    simp only [Expr.collect] at collected
    split at collected
    next found =>
      cases collected
      exact Expr.collects_of_collectWhole? rfl found
    · cases collected

theorem Expr.collectsList_of_collect :
    ∀ (exprs : List Expr) {path : List String} {g after : Collected} {plans : List Plan},
      Expr.collectList path exprs g = .ok (plans, after) →
      Expr.CollectsList path exprs g plans after
  | [], path, g, after, plans, collected => by
    cases collected
    exact .nil
  | expr :: rest, path, g, after, plans, collected => by
    simp only [Expr.collectList, Except.bind_eq_ok, Except.pure_eq_ok] at collected
    obtain ⟨⟨plan, middle⟩, exprCollected, ⟨others, last⟩, restCollected, same⟩ := collected
    cases same
    exact .cons (expr.collects_of_collect exprCollected)
      (Expr.collectsList_of_collect rest restCollected)

theorem Expr.collectsFields_of_collect :
    ∀ (fields : List (String × Expr)) {path : List String} {hosted : Bool} {g after : Collected}
      {plans : List (String × Plan)},
      Expr.collectFields path hosted fields g = .ok (plans, after) →
      Expr.CollectsFields path hosted fields g plans after
  | [], path, hosted, g, after, plans, collected => by
    cases collected
    exact .nil
  | (name, expr) :: rest, path, hosted, g, after, plans, collected => by
    simp only [Expr.collectFields, Except.bind_eq_ok, Except.pure_eq_ok] at collected
    obtain ⟨⟨plan, middle⟩, exprCollected, ⟨others, last⟩, restCollected, same⟩ := collected
    cases same
    exact .cons (expr.collects_of_collect exprCollected)
      (Expr.collectsFields_of_collect rest restCollected)

end

/-! ## Columns are added at the end -/

/-- A new column goes behind those that are there, whatever its name. -/
theorem Collected.columns_addAt (g : Collected) (path : List String) (hosted : Bool)
    (expr : Expr) :
    ∃ name, (g.addAt path hosted expr).columns = g.columns ++ [⟨name, expr⟩] := by
  cases hosted with
  | true => exact ⟨_, rfl⟩
  | false => exact ⟨_, rfl⟩

@[simp]
theorem Collected.columns_underHost (g : Collected) (hosted : Bool) :
    (g.underHost hosted).columns = g.columns := by
  cases hosted <;> rfl

mutual

/-- Flattening a shape keeps the columns that are there and adds its own behind them. -/
theorem Expr.Collects.columns_kept {path : List String} {hosted : Bool} {expr : Expr}
    {g after : Collected} {plan : Plan} :
    Expr.Collects path hosted expr g plan after → g.columns <+: after.columns
  | .evaluated _ _ | .constant => List.prefix_rfl
  | .leaf _ _ => by
    obtain ⟨name, columns⟩ := g.columns_addAt path hosted expr
    rw [columns]
    exact List.prefix_append _ _
  | .record fields => by
    have kept := fields.columns_kept
    exact kept
  | .defaultIfEmpty inner => (List.prefix_append _ _).trans inner.columns_kept
  | .member _ source => by simpa using source.columns_kept
  | .array _ elements => by simpa using elements.columns_kept
  | .binary _ left right => by
    have kept := left.columns_kept
    rw [Collected.columns_underHost] at kept
    exact kept.trans right.columns_kept
  | .unary _ operand => by simpa using operand.columns_kept
  | .conditional _ test ifTrue ifFalse => by
    have kept := test.columns_kept
    rw [Collected.columns_underHost] at kept
    exact (kept.trans ifTrue.columns_kept).trans ifFalse.columns_kept

theorem Expr.CollectsList.columns_kept {path : List String} {exprs : List Expr}
    {g after : Collected} {plans : List Plan} :
    Expr.CollectsList path exprs g plans after → g.columns <+: after.columns
  | .nil => List.prefix_rfl
  | .cons head tail => head.columns_kept.trans tail.columns_kept

theorem Expr.CollectsFields.columns_kept {path : List String} {hosted : Bool}
    {fields : List (String × Expr)} {g after : Collected} {plans : List (String × Plan)} :
    Expr.CollectsFields path hosted fields g plans after → g.columns <+: after.columns
  | .nil => List.prefix_rfl
  | .cons head tail => head.columns_kept.trans tail.columns_kept

end

end SqlLowering
