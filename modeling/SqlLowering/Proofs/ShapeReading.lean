import SqlLowering.Proofs.Flattening
import SqlLowering.Proofs.HostBody
import SqlLowering.Script.Expr

/-!
# Projections are rebuilt from their columns

A projection can be read directly, without columns and plans: `Projection.read` walks the projection
itself and asks a `database`, an assignment of values to expressions, for every part that the
database evaluates. Flattening instead hands out ordinals while it walks, and the plan finds the
values again by those ordinals.

`Projection.materialize_of_read` says that the plan of a projection, run on the row of the values
that the database assigns to its columns, yields every value that the direct reading yields. What
carries the induction is that columns are only ever added at the end: a plan reads the row right as
long as the row begins with the values of the columns that there were after the plan was made.
-/

namespace SqlLowering

/-! ## The direct reading -/

/-- Why a projection has no direct reading. -/
inductive ReadError where
  | value (error : ValueError)
  | malformedDocument
  | eval (error : EvalError)

/-- What a value stands for that holds a document of a type. Null holds none: a collection then has
no elements, and everything else is null. -/
def Value.decodeAs (type : DataType) (held : Value) : Except ReadError Value := do
  match ← (held.coerce .string).mapError .value with
  | .string text =>
    match Json.parse? text with
    | some json => (Value.ofJson type json).mapError .value
    | none => .error .malformedDocument
  | _ =>
    match type with
    | .collection _ => return .array []
    | _ => return .null

/-- Whether the database returns an expression as a document. -/
def Expr.isDocument : Expr → Bool
  | .subquery kind _ type => kind.isDocument type
  | _ => false

/-- The reading of an expression that the database evaluates. -/
def Expr.readLeaf (database : Expr → Value) (leaf : Expr) : Except ReadError Value :=
  if leaf.isDocument then (database leaf).decodeAs leaf.type
  else ((database leaf).coerce leaf.type).mapError .value

/-- The reading of an expression that is not taken apart: the host evaluates what depends on inputs
only, a constant under a node of the host is itself, and what can be written as SQL is a leaf. -/
def Expr.readWhole? (database : Expr → Value) (inputs : Inputs) (hosted : Bool) (expr : Expr) :
    Option (Except ReadError Value) :=
  if expr.isParameterizable then some ((expr.eval inputs).mapError .eval)
  else match hosted, expr with
    | true, .constant value _ => some (.ok value)
    | _, expr => if expr.isRenderable then some (expr.readLeaf database) else none

mutual

/-- The reading of a shape; `hosted` says whether it stands under a node of the host. -/
def Expr.read (database : Expr → Value) (inputs : Inputs) (hosted : Bool) :
    Expr → Except ReadError Value
  | .record fields => return .record (← Expr.readFields database inputs hosted fields)
  | .defaultIfEmpty expr flag _ => do
    match ← ((database flag).coerce .bool).mapError .value with
    | .bool true => return expr.type.defaultValue
    | _ => expr.read database inputs hosted
  | .member expr field type =>
    match (Expr.member expr field type).readWhole? database inputs hosted with
    | some whole => whole
    | none => do ((← expr.read database inputs true).project field).mapError .eval
  | .array elements type =>
    match (Expr.array elements type).readWhole? database inputs hosted with
    | some whole => whole
    | none => return .array (← Expr.readList database inputs elements)
  | .binary op left right =>
    match (Expr.binary op left right).readWhole? database inputs hosted with
    | some whole => whole
    | none => do
      op.apply .eval (← left.read database inputs true) fun _ => right.read database inputs true
  | .unary op operand =>
    match (Expr.unary op operand).readWhole? database inputs hosted with
    | some whole => whole
    | none => do (op.apply (← operand.read database inputs true)).mapError .eval
  | .conditional test ifTrue ifFalse =>
    match (Expr.conditional test ifTrue ifFalse).readWhole? database inputs hosted with
    | some whole => whole
    | none => do
      if ← (← test.read database inputs true).holds.mapError .eval then
        ifTrue.read database inputs true
      else
        ifFalse.read database inputs true
  | other =>
    match other.readWhole? database inputs hosted with
    | some whole => whole
    | none => .error (.eval (.unsupported other.refusedName))

/-- The readings of the elements of an array, from the first on. -/
def Expr.readList (database : Expr → Value) (inputs : Inputs) :
    List Expr → Except ReadError (List Value)
  | [] => .ok []
  | expr :: rest => do
    return (← expr.read database inputs true) :: (← Expr.readList database inputs rest)

/-- The readings of the fields of a record, from the first on. -/
def Expr.readFields (database : Expr → Value) (inputs : Inputs) (hosted : Bool) :
    List (String × Expr) → Except ReadError (List (String × Value))
  | [] => .ok []
  | (name, expr) :: rest => do
    return (name, ← expr.read database inputs hosted) ::
      (← Expr.readFields database inputs hosted rest)

end

/-- The reading of a projection. Bodies on the host are evaluated with the readings of the shapes in
the places of their parameters. -/
def Projection.read (database : Expr → Value) (inputs : Inputs) :
    Projection → Except ReadError Value
  | .server body => body.read database inputs false
  | .client body after => do
    let shape ← body.read database inputs false
    ((after.instantiate [shape]).eval inputs).mapError .eval
  | .composite outer inner result => do
    let first ← outer.read database inputs
    let second ← inner.read database inputs
    ((result.instantiate [first, second]).eval inputs).mapError .eval

/-! ## Readings of what is not taken apart -/

theorem Expr.read_of_readWhole? {database : Expr → Value} {inputs : Inputs} {hosted : Bool}
    {expr : Expr} {reading : Except ReadError Value} (apart : expr.isShape = false)
    (found : expr.readWhole? database inputs hosted = some reading) :
    expr.read database inputs hosted = reading := by
  cases expr with
  | record _ => cases apart
  | defaultIfEmpty _ _ _ => cases apart
  | _ => simp [Expr.read, found]

theorem Expr.readWhole?_eq_none {database : Expr → Value} {inputs : Inputs} {hosted : Bool}
    {expr : Expr} (apart : expr.isWhole = false) :
    expr.readWhole? database inputs hosted = none := by
  simp only [Expr.isWhole, Bool.or_eq_false_iff] at apart
  unfold Expr.readWhole?
  rw [if_neg (by simp [apart.1])]
  split
  · simp [Expr.isRenderable] at apart
  · rw [if_neg (by simp [apart.2])]

/-- What depends on inputs only is read by evaluating it. -/
theorem Expr.read_of_isParameterizable {database : Expr → Value} {inputs : Inputs}
    {hosted : Bool} {expr : Expr} (apart : expr.isShape = false)
    (parameterizable : expr.isParameterizable = true) :
    expr.read database inputs hosted = (expr.eval inputs).mapError .eval := by
  refine Expr.read_of_readWhole? apart ?_
  unfold Expr.readWhole?
  rw [if_pos parameterizable]

/-- A constant under a node of the host is itself. -/
theorem Expr.read_constant (database : Expr → Value) (inputs : Inputs) (value : Value)
    (type : DataType) : (Expr.constant value type).read database inputs true = .ok value :=
  Expr.read_of_readWhole? rfl rfl

/-- A leaf is read from the database. -/
theorem Expr.read_of_isLeaf {database : Expr → Value} {inputs : Inputs} {hosted : Bool}
    {expr : Expr} (apart : expr.isShape = false) (leaf : expr.isLeaf hosted = true) :
    expr.read database inputs hosted = expr.readLeaf database := by
  refine Expr.read_of_readWhole? apart ?_
  unfold Expr.isLeaf at leaf
  split at leaf
  · simp only [Bool.not_eq_true'] at leaf
    subst leaf
    rfl
  next notConstant =>
    simp only [Bool.and_eq_true, Bool.not_eq_true'] at leaf
    unfold Expr.readWhole?
    rw [if_neg (by simp [leaf.1])]
    split
    next value type => exact (notConstant value type rfl).elim
    · rw [if_pos leaf.2]

/-! ## Columns of a row -/

theorem Row.read_eq_ok {row : Row} {ordinal : Nat} {type : DataType} {held v : Value}
    (holds : row[ordinal]? = some held) :
    row.read ordinal type = .ok v ↔ held.coerce type = .ok v := by
  rw [Row.read, holds]
  exact Except.mapError_eq_ok

/-- A column that holds a document yields what its value stands for. -/
theorem Row.decode_of_decodeAs {row : Row} {ordinal : Nat} {type : DataType} {held v : Value}
    (holds : row[ordinal]? = some held) (decoded : held.decodeAs type = .ok v) :
    row.decode ordinal type = .ok v := by
  simp only [Value.decodeAs, Except.bind_eq_ok, Except.mapError_eq_ok] at decoded
  obtain ⟨read, coerced, decoded⟩ := decoded
  simp only [Row.decode, Except.bind_eq_ok]
  refine ⟨read, (Row.read_eq_ok holds).2 coerced, ?_⟩
  cases read with
  | string text =>
    simp only at decoded ⊢
    cases parsed : Json.parse? text with
    | none => simp [parsed] at decoded
    | some json => simpa [parsed, Except.mapError_eq_ok] using decoded
  | _ => cases type <;> simpa [Row.absentDocument, Except.pure_eq_ok] using decoded

/-- How the column of an expression is read depends on whether it holds a document. -/
theorem Expr.reading_eq (expr : Expr) (ordinal : Nat) :
    expr.reading ordinal =
      if expr.isDocument then .decodeSubDocument ordinal expr.type
      else .readColumn ordinal expr.type := by
  cases expr with
  | subquery kind select type =>
    cases kind <;> cases scalar : type.isScalar <;>
      simp [Expr.reading, Expr.isDocument, SubqueryKind.isDocument, Expr.type, scalar]
  | _ => rfl

/-- A column yields the reading of its expression. -/
theorem Expr.run_reading {database : Expr → Value} {inputs : Inputs} {values : List Value}
    {expr : Expr} {row : Row} {ordinal : Nat} {v : Value}
    (holds : row[ordinal]? = some (database expr)) (read : expr.readLeaf database = .ok v) :
    (expr.reading ordinal).run row inputs values = .ok v := by
  rw [Expr.reading_eq]
  unfold Expr.readLeaf at read
  cases document : expr.isDocument with
  | true =>
    rw [document] at read
    exact Row.decode_of_decodeAs holds read
  | false =>
    rw [document] at read
    exact (Row.read_eq_ok holds).2 (Except.mapError_eq_ok.1 read)

/-! ## Plans rebuild the reading -/

/-- A row that begins with the values that the database assigns to columns. -/
def Row.BeginsWith (database : Expr → Value) (columns : List Column) (row : Row) : Prop :=
  columns.map (fun column => database column.expr) <+: row

theorem Row.BeginsWith.mono {database : Expr → Value} {columns more : List Column} {row : Row}
    (begins : row.BeginsWith database more) (kept : columns <+: more) :
    row.BeginsWith database columns :=
  (kept.map _).trans begins

/-- The last of the columns is found at its ordinal, however the row goes on. -/
theorem Row.BeginsWith.getElem? {database : Expr → Value} {columns : List Column} {column : Column}
    {row : Row} (begins : row.BeginsWith database (columns ++ [column])) :
    row[columns.length]? = some (database column.expr) := by
  obtain ⟨rest, rfl⟩ := begins
  simp

mutual

/-- The plan of a shape yields the reading of the shape from every row that begins with the values
of the columns collected up to it. -/
theorem Expr.Collects.run_of_read {database : Expr → Value} {inputs : Inputs} {path : List String}
    {hosted : Bool} {expr : Expr} {g after : Collected} {plan : Plan} {row : Row}
    {values : List Value} {v : Value} :
    Expr.Collects path hosted expr g plan after → row.BeginsWith database after.columns →
      expr.read database inputs hosted = .ok v → plan.run row inputs values = .ok v
  | .evaluated apart parameterizable, _, read => by
    rw [Expr.read_of_isParameterizable apart parameterizable, Except.mapError_eq_ok] at read
    rw [Plan.run, Except.mapError_eq_ok, read]
  | .constant, _, read => by
    rw [Expr.read_constant, Except.ok.injEq] at read
    rw [Plan.run, read]
  | .leaf apart leaf, begins, read => by
    obtain ⟨name, columns⟩ := g.columns_addAt path hosted expr
    rw [columns] at begins
    rw [Expr.read_of_isLeaf apart leaf] at read
    exact Expr.run_reading begins.getElem? read
  | .record fields, begins, read => by
    simp only [Expr.read, Except.bind_eq_ok, Except.pure_eq_ok] at read
    obtain ⟨results, fieldsRead, rfl⟩ := read
    simp only [Plan.run, Except.bind_eq_ok, Except.pure_eq_ok]
    exact ⟨results, fields.run_of_read begins fieldsRead, rfl⟩
  | .defaultIfEmpty inner, begins, read => by
    simp only [Expr.read, Except.bind_eq_ok, Except.mapError_eq_ok] at read
    obtain ⟨flagged, coerced, read⟩ := read
    have held := (begins.mono inner.columns_kept).getElem?
    simp only [Plan.run, Except.bind_eq_ok]
    refine ⟨flagged, (Row.read_eq_ok held).2 coerced, ?_⟩
    cases flagged with
    | bool empty =>
      cases empty with
      | true =>
        cases read
        rfl
      | false => exact inner.run_of_read begins read
    | _ => exact inner.run_of_read begins read
  | .member apart source, begins, read => by
    rw [Expr.read, Expr.readWhole?_eq_none apart] at read
    simp only [Except.bind_eq_ok, Except.mapError_eq_ok] at read
    obtain ⟨record, sourceRead, projected⟩ := read
    exact Plan.run_access (source.run_of_read begins sourceRead) projected
  | .array apart elements, begins, read => by
    rw [Expr.read, Expr.readWhole?_eq_none apart] at read
    simp only [Except.bind_eq_ok, Except.pure_eq_ok] at read
    obtain ⟨results, elementsRead, rfl⟩ := read
    simp only [Plan.run, Except.bind_eq_ok, Except.pure_eq_ok]
    exact ⟨results, elements.run_of_read begins elementsRead, rfl⟩
  | .binary apart left right, begins, read => by
    rw [Expr.read, Expr.readWhole?_eq_none apart] at read
    simp only [Except.bind_eq_ok, BinaryOp.apply_eq_ok] at read
    obtain ⟨lhs, leftRead, outcome⟩ := read
    -- The left plan was made before the columns of the right side were there.
    have leftRan : Plan.run row inputs values _ = .ok lhs :=
      left.run_of_read (begins.mono right.columns_kept) leftRead
    simp only [Plan.run, Except.bind_eq_ok, BinaryOp.apply_eq_ok]
    refine ⟨lhs, leftRan, ?_⟩
    rcases outcome with decided | ⟨undecided, rhs, rightRead, combined⟩
    · exact Or.inl decided
    · exact Or.inr ⟨undecided, rhs, right.run_of_read begins rightRead, combined⟩
  | .unary apart operand, begins, read => by
    rw [Expr.read, Expr.readWhole?_eq_none apart] at read
    simp only [Except.bind_eq_ok, Except.mapError_eq_ok] at read
    obtain ⟨value, operandRead, applied⟩ := read
    simp only [Plan.run, Except.bind_eq_ok, Except.mapError_eq_ok]
    exact ⟨value, operand.run_of_read begins operandRead, applied⟩
  | .conditional apart test ifTrue ifFalse, begins, read => by
    rw [Expr.read, Expr.readWhole?_eq_none apart] at read
    simp only [Except.bind_eq_ok, Except.mapError_eq_ok] at read
    obtain ⟨tested, testRead, holds, decided, branch⟩ := read
    have beginsTrue := begins.mono ifFalse.columns_kept
    have beginsTest := beginsTrue.mono ifTrue.columns_kept
    simp only [Plan.run, Except.bind_eq_ok, Except.mapError_eq_ok]
    refine ⟨tested, test.run_of_read beginsTest testRead, holds, decided, ?_⟩
    cases holds with
    | true => exact ifTrue.run_of_read beginsTrue branch
    | false => exact ifFalse.run_of_read begins branch

/-- The plans of expressions in a list give what reading the list with the values of the database
gives. -/
theorem Expr.CollectsList.run_of_read {database : Expr → Value} {inputs : Inputs}
    {path : List String} {exprs : List Expr} {g after : Collected} {plans : List Plan} {row : Row}
    {values results : List Value} :
    Expr.CollectsList path exprs g plans after → row.BeginsWith database after.columns →
      Expr.readList database inputs exprs = .ok results →
      Plan.runList row inputs values plans = .ok results
  | .nil, _, read => by
    cases read
    rfl
  | .cons head tail, begins, read => by
    simp only [Expr.readList, Except.bind_eq_ok, Except.pure_eq_ok] at read
    obtain ⟨value, headRead, others, tailRead, rfl⟩ := read
    simp only [Plan.runList, Except.bind_eq_ok, Except.pure_eq_ok]
    exact ⟨value, head.run_of_read (begins.mono tail.columns_kept) headRead, others,
      tail.run_of_read begins tailRead, rfl⟩

/-- The plans of fields give what reading the fields with the values of the database gives. -/
theorem Expr.CollectsFields.run_of_read {database : Expr → Value} {inputs : Inputs}
    {path : List String} {hosted : Bool} {fields : List (String × Expr)} {g after : Collected}
    {plans : List (String × Plan)} {row : Row} {values : List Value}
    {results : List (String × Value)} :
    Expr.CollectsFields path hosted fields g plans after → row.BeginsWith database after.columns →
      Expr.readFields database inputs hosted fields = .ok results →
      Plan.runFields row inputs values plans = .ok results
  | .nil, _, read => by
    cases read
    rfl
  | .cons head tail, begins, read => by
    simp only [Expr.readFields, Except.bind_eq_ok, Except.pure_eq_ok] at read
    obtain ⟨value, headRead, others, tailRead, rfl⟩ := read
    simp only [Plan.runFields, Except.bind_eq_ok, Except.pure_eq_ok]
    exact ⟨value, head.run_of_read (begins.mono tail.columns_kept) headRead, others,
      tail.run_of_read begins tailRead, rfl⟩

end

/-! ## Projections -/

/-- The columns of a shape with its position in their names are the same expressions. -/
theorem Shapes.map_expr_positioned (database : Expr → Value) (columns : List Column) :
    (Shapes.positioned columns).map (fun column => database column.expr) =
      columns.map fun column => database column.expr := by
  simp [Shapes.positioned, Function.comp_def]

/-- One more shape: its plan yields its reading, and the columns before it keep their places. -/
theorem Shapes.run_of_add {database : Expr → Value} {inputs : Inputs} {shapes after : Shapes}
    {body : Expr} {plan : Plan} {row : Row} (added : shapes.add body = .ok (plan, after))
    (begins : row.BeginsWith database after.columns) :
    row.BeginsWith database shapes.columns ∧
      ∀ {values : List Value} {v : Value}, body.read database inputs false = .ok v →
        plan.run row inputs values = .ok v := by
  simp only [Shapes.add, Except.bind_eq_ok, Except.pure_eq_ok] at added
  obtain ⟨⟨bodyPlan, g⟩, collected, same⟩ := added
  cases same
  have derivation := body.collects_of_collect collected
  have kept := begins.mono derivation.columns_kept
  refine ⟨?_, fun read => derivation.run_of_read begins read⟩
  by_cases second : shapes.count = 1
  · simp only [second, if_true, Row.BeginsWith, Shapes.map_expr_positioned] at kept
    exact kept
  · simpa only [second, if_false] using kept

/-- The plan of a projection yields its reading from every row that begins with the values of the
columns of its shapes. -/
theorem Projection.run_of_flattenFrom {database : Expr → Value} {inputs : Inputs} {row : Row} :
    ∀ (projection : Projection) {shapes after : Shapes} {plan : Plan},
      projection.flattenFrom shapes = .ok (plan, after) →
      row.BeginsWith database after.columns →
      row.BeginsWith database shapes.columns ∧
        ∀ {values : List Value} {v : Value}, projection.read database inputs = .ok v →
          plan.run row inputs values = .ok v
  | .server body, shapes, after, plan, flattened, begins => by
    rw [Projection.flattenFrom] at flattened
    exact Shapes.run_of_add flattened begins
  | .client body host, shapes, after, plan, flattened, begins => by
    simp only [Projection.flattenFrom, Except.bind_eq_ok, Except.pure_eq_ok] at flattened
    obtain ⟨⟨bodyPlan, last⟩, added, hostPlan, compiled, same⟩ := flattened
    cases same
    obtain ⟨kept, bodyRuns⟩ := Shapes.run_of_add added begins
    refine ⟨kept, fun {values v} read => ?_⟩
    simp only [Projection.read, Except.bind_eq_ok, Except.mapError_eq_ok] at read
    obtain ⟨shape, bodyRead, evaluated⟩ := read
    simp only [Plan.run, Plan.runList, Except.bind_eq_ok, Except.pure_eq_ok]
    exact ⟨[shape], ⟨shape, bodyRuns bodyRead, [], rfl, rfl⟩,
      host.run_of_compile row inputs [shape] compiled evaluated⟩
  | .composite outer inner result, shapes, after, plan, flattened, begins => by
    simp only [Projection.flattenFrom, Except.bind_eq_ok, Except.pure_eq_ok] at flattened
    obtain ⟨⟨outerPlan, middle⟩, outerFlattened, ⟨innerPlan, last⟩, innerFlattened, resultPlan,
      compiled, same⟩ := flattened
    cases same
    obtain ⟨between, innerRuns⟩ := inner.run_of_flattenFrom innerFlattened begins
    obtain ⟨kept, outerRuns⟩ := outer.run_of_flattenFrom outerFlattened between
    refine ⟨kept, fun {values v} read => ?_⟩
    simp only [Projection.read, Except.bind_eq_ok, Except.mapError_eq_ok] at read
    obtain ⟨first, outerRead, second, innerRead, evaluated⟩ := read
    simp only [Plan.run, Plan.runList, Except.bind_eq_ok, Except.pure_eq_ok]
    exact ⟨[first, second],
      ⟨first, outerRuns outerRead, [second], ⟨second, innerRuns innerRead, [], rfl, rfl⟩, rfl⟩,
      result.run_of_compile row inputs [first, second] compiled evaluated⟩

/-- A projection that can be flattened is rebuilt from its columns: on the row of the values that
the database assigns to them, its plan yields every value that the projection reads as. -/
theorem Projection.materialize_of_read {projection : Projection} {columns : List Column}
    {plan : Plan} (flattened : projection.flatten = .ok (columns, plan))
    (database : Expr → Value) (inputs : Inputs) {v : Value}
    (read : projection.read database inputs = .ok v) :
    plan.materialize (columns.map fun column => database column.expr) inputs = .ok v := by
  simp only [Projection.flatten, Except.bind_eq_ok, Except.pure_eq_ok] at flattened
  obtain ⟨⟨flattenedPlan, shapes⟩, flattenedFrom, same⟩ := flattened
  cases same
  exact (projection.run_of_flattenFrom flattenedFrom List.prefix_rfl).2 read

/-- An order whose customer may be missing, and a number that the host adds to, combined. -/
def Projection.orderWithNext : Projection :=
  .composite
    (.server (.record
      [("Id", .column ⟨0⟩ "Id" .int32),
        ("Customer", .defaultIfEmpty (.record [("Name", .column ⟨1⟩ "Name" .string)])
          (.fragment "c.Id IS NULL" .bool) "$empty"),
        ("Pair", .array [.column ⟨2⟩ "A" .int32, .constant (.int 5) .int32] (.collection .int32)),
        ("Tag", .input "tag" .string)]))
    (.client (.column ⟨3⟩ "Total" .int32)
      (.binary .add (.parameter 0 .int32) (.constant (.int 1) .int32)))
    (.record
      [("Pair", .member (.parameter 0 (.record [])) "Pair" (.collection .int32)),
        ("Next", .parameter 1 .int32),
        ("Name", .member (.member (.parameter 0 (.record [])) "Customer" (.record [])) "Name"
          .string),
        ("Tag", .member (.parameter 0 (.record [])) "Tag" .string)])

/-- A database in which the customer is there. -/
def orderDatabase : Expr → Value
  | .column ⟨1⟩ _ _ => .string "Ada"
  | .column ⟨2⟩ _ _ => .int 20
  | .column ⟨3⟩ _ _ => .int 30
  | .fragment _ _ => .int 0
  | _ => .null

theorem Projection.materialize_orderWithNext :
    ∃ (columns : List Column) (plan : Plan) (v : Value),
      Projection.orderWithNext.flatten = .ok (columns, plan) ∧
      Projection.orderWithNext.read orderDatabase (NameMap.ofList [("tag", .string "x")]) = .ok v ∧
      plan.materialize (columns.map fun column => orderDatabase column.expr)
        (NameMap.ofList [("tag", .string "x")]) = .ok v ∧
      v = .record [("Pair", .array [.int 20, .int 5]), ("Next", .int 31),
        ("Name", .string "Ada"), ("Tag", .string "x")] := by
  have read : Projection.orderWithNext.read orderDatabase
      (NameMap.ofList [("tag", .string "x")]) = .ok (.record [("Pair", .array [.int 20, .int 5]),
        ("Next", .int 31), ("Name", .string "Ada"), ("Tag", .string "x")]) := by
    rfl
  exact ⟨_, _, _, rfl, read, Projection.materialize_of_read rfl orderDatabase _ read, rfl⟩

end SqlLowering
