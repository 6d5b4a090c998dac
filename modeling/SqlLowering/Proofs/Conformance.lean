import SqlLowering.Proofs.ShapeReading

/-!
# Results have the type of their projection

Values reach a result in different ways: a column is coerced, a document is decoded, and where an
outer join found no row a default stands in. Each of them yields values of the wanted type only
(`Value.conforms_of_coerce`, `Value.conforms_of_ofJson`, `DataType.conforms_defaultValue`), so a
shape that is built from such parts yields values of its static type, from whatever row it is read.
-/

namespace SqlLowering

/-! ## Values of a type -/

namespace Value

mutual

/-- Whether a value is one of a type. Null is one of every type, and integers and floating-point
numbers have no sizes. -/
def conforms : DataType → Value → Bool
  | _, .null => true
  | .bool, .bool _ => true
  | .int16, .int _ | .int32, .int _ | .int64, .int _ => true
  | .float32, .float _ | .float64, .float _ => true
  | .string, .string _ => true
  | .blob, .bytes _ => true
  | .date, .date _ => true
  | .timestamp, .timestamp _ => true
  | .uuid, .uuid _ => true
  | .record types, .record fields => fieldsConform types fields
  | .collection element, .array items => items.all (conforms element)
  | _, _ => false

/-- Whether fields are those of a record type: the same names in the same order, with values of
their types. -/
def fieldsConform : List FieldType → List (String × Value) → Bool
  | [], [] => true
  | ⟨name, type, _⟩ :: types, (field, value) :: fields =>
    name = field && conforms type value && fieldsConform types fields
  | _, _ => false

end

@[simp]
theorem conforms_null (type : DataType) : conforms type .null = true := by
  cases type <;> rfl

theorem conforms_of_readDate {text : String} {v : Value} (read : readDate text = .ok v) :
    conforms .date v = true := by
  unfold readDate at read
  split at read <;> cases read
  rfl

theorem conforms_of_readTimestamp {text : String} {v : Value} (read : readTimestamp text = .ok v) :
    conforms .timestamp v = true := by
  unfold readTimestamp at read
  split at read <;> cases read
  rfl

theorem conforms_of_readUuid {text : String} {v : Value} (read : readUuid text = .ok v) :
    conforms .uuid v = true := by
  unfold readUuid at read
  split at read <;> cases read
  rfl

/-- A column that is read at a scalar type yields a value of it. Records and collections are passed
on unread, so their types say nothing about what is in them. -/
theorem conforms_of_coerce {value v : Value} {type : DataType} (scalar : type.isScalar = true)
    (coerced : value.coerce type = .ok v) : conforms type v = true := by
  cases type with
  | record _ | collection _ => cases scalar
  | date =>
    cases value with
    | string text => exact conforms_of_readDate coerced
    | _ => cases coerced <;> rfl
  | timestamp =>
    cases value with
    | string text => exact conforms_of_readTimestamp coerced
    | _ => cases coerced <;> rfl
  | uuid =>
    cases value with
    | string text => exact conforms_of_readUuid coerced
    | _ => cases coerced <;> rfl
  | _ => cases value <;> cases coerced <;> rfl

/-- What is decoded at a scalar type has that type. -/
theorem conforms_of_ofJson_scalar {type : DataType} {json : Json} {v : Value}
    (scalar : type.isScalar = true) (decoded : ofJson type json = .ok v) :
    conforms type v = true := by
  cases type with
  | record _ | collection _ => cases scalar
  | date =>
    cases json with
    | string text => exact conforms_of_readDate decoded
    | _ => cases decoded <;> rfl
  | timestamp =>
    cases json with
    | string text => exact conforms_of_readTimestamp decoded
    | _ => cases decoded <;> rfl
  | uuid =>
    cases json with
    | string text => exact conforms_of_readUuid decoded
    | _ => cases decoded <;> rfl
  | blob =>
    cases json with
    | array items =>
      rw [ofJson] at decoded
      split at decoded <;> cases decoded
      rfl
    | _ => cases decoded <;> rfl
  | bool | int16 | int32 | int64 =>
    cases json with
    | int i =>
      simp only [ofJson, Except.bind_eq_ok, Except.pure_eq_ok] at decoded
      obtain ⟨n, -, rfl⟩ := decoded
      rfl
    | _ => cases decoded <;> rfl
  | float32 | float64 | string => cases json <;> cases decoded <;> rfl

theorem all_conforms_of_mapM {element : DataType} {items : List Json} {values : List Value}
    (each : ∀ {json : Json} {v : Value}, ofJson element json = .ok v → conforms element v = true)
    (decoded : items.mapM (ofJson element) = .ok values) :
    values.all (conforms element) = true := by
  rw [List.all_eq_true]
  intro v member
  obtain ⟨json, -, jsonDecoded⟩ := Except.exists_of_mem_mapM decoded member
  exact each jsonDecoded

mutual

/-- A document that is decoded at a type yields a value of it. -/
theorem conforms_of_ofJson : ∀ (type : DataType) {json : Json} {v : Value},
    ofJson type json = .ok v → conforms type v = true
  | .record types, json, v, decoded => by
    cases json with
    | null =>
      cases decoded
      rfl
    | _ =>
      rw [ofJson] at decoded
      · split at decoded
        · cases decoded
          rfl
        · simp only [Except.bind_eq_ok, Except.pure_eq_ok] at decoded
          obtain ⟨fields, fieldsDecoded, rfl⟩ := decoded
          exact fieldsConform_of_fieldsOfJson types fieldsDecoded
        · cases decoded
      · exact nofun
  | .collection element, json, v, decoded => by
    cases json with
    | array items =>
      simp only [ofJson, Except.bind_eq_ok, Except.pure_eq_ok] at decoded
      obtain ⟨values, itemsDecoded, rfl⟩ := decoded
      exact all_conforms_of_mapM (conforms_of_ofJson element) itemsDecoded
    | _ => cases decoded <;> rfl
  | .bool, _, _, decoded | .int16, _, _, decoded | .int32, _, _, decoded | .int64, _, _, decoded
  | .float32, _, _, decoded | .float64, _, _, decoded | .string, _, _, decoded
  | .blob, _, _, decoded | .date, _, _, decoded | .timestamp, _, _, decoded
  | .uuid, _, _, decoded => conforms_of_ofJson_scalar rfl decoded

/-- The fields that are decoded at the types of a record have these types, one by one. -/
theorem fieldsConform_of_fieldsOfJson : ∀ (types : List FieldType) {members : List (String × Json)}
    {fields : List (String × Value)}, fieldsOfJson types members = .ok fields →
      fieldsConform types fields = true
  | [], members, fields, decoded => by
    cases decoded
    rfl
  | ⟨name, type, nullable⟩ :: rest, members, fields, decoded => by
    have known : ∀ {value : Value} {others : List (String × Value)}, conforms type value = true →
        fieldsOfJson rest members = .ok others →
        fieldsConform (⟨name, type, nullable⟩ :: rest) ((name, value) :: others) = true := by
      intro value others typed othersDecoded
      simp [fieldsConform, typed, fieldsConform_of_fieldsOfJson rest othersDecoded]
    rw [fieldsOfJson] at decoded
    split at decoded
    · simp only [Except.bind_eq_ok, Except.pure_eq_ok] at decoded
      obtain ⟨value, valueDecoded, others, othersDecoded, rfl⟩ := decoded
      exact known (conforms_of_ofJson type valueDecoded) othersDecoded
    · simp only [Except.bind_eq_ok, Except.pure_eq_ok] at decoded
      obtain ⟨value, missing, others, othersDecoded, rfl⟩ := decoded
      cases missing
      exact known (conforms_null type) othersDecoded

end

end Value

theorem DataType.conforms_defaultValue (type : DataType) :
    Value.conforms type type.defaultValue = true := by
  cases type <;> rfl

/-! ## Columns of a type -/

namespace Row

variable {row : Row} {ordinal : Nat} {type : DataType} {v : Value}

theorem conforms_of_read (scalar : type.isScalar = true) (read : row.read ordinal type = .ok v) :
    Value.conforms type v = true := by
  unfold Row.read at read
  split at read
  · exact Value.conforms_of_coerce scalar (Except.mapError_eq_ok.1 read)
  · cases read

theorem conforms_absentDocument (type : DataType) :
    Value.conforms type (absentDocument type) = true := by
  cases type <;> rfl

theorem conforms_of_decode (decoded : row.decode ordinal type = .ok v) :
    Value.conforms type v = true := by
  simp only [Row.decode, Except.bind_eq_ok] at decoded
  obtain ⟨held, -, decoded⟩ := decoded
  split at decoded
  · split at decoded
    · exact Value.conforms_of_ofJson type (Except.mapError_eq_ok.1 decoded)
    · cases decoded
  · rw [Except.pure_eq_ok] at decoded
    rw [← decoded]
    exact conforms_absentDocument type

end Row

/-! ## Shapes over the database -/

/-- Whether the database evaluates an expression, to a scalar or to a document. -/
def Expr.isTypedLeaf (expr : Expr) : Bool :=
  !expr.isParameterizable && expr.isRenderable && (expr.type.isScalar || expr.isDocument)

mutual

/-- Whether a shape is built by records and sides of outer joins from what the database
evaluates. -/
def Expr.isDatabaseShape : Expr → Bool
  | .record fields => Expr.areDatabaseShapes fields
  | .defaultIfEmpty expr _ _ => expr.isDatabaseShape
  | leaf => leaf.isTypedLeaf

/-- Whether all named expressions are shapes over the database. -/
def Expr.areDatabaseShapes : List (String × Expr) → Bool
  | [] => true
  | (_, expr) :: rest => expr.isDatabaseShape && Expr.areDatabaseShapes rest

end

theorem Expr.isTypedLeaf_of_isDatabaseShape {expr : Expr} (apart : expr.isShape = false)
    (shape : expr.isDatabaseShape = true) : expr.isTypedLeaf = true := by
  cases expr with
  | record _ | defaultIfEmpty _ _ _ => cases apart
  | _ => exact shape

theorem Expr.conforms_of_reading {expr : Expr} (leaf : expr.isTypedLeaf = true) {ordinal : Nat}
    {row : Row} {inputs : Inputs} {values : List Value} {v : Value}
    (ran : (expr.reading ordinal).run row inputs values = .ok v) :
    Value.conforms expr.type v = true := by
  rw [Expr.isTypedLeaf, Bool.and_eq_true, Bool.or_eq_true] at leaf
  rw [Expr.reading_eq] at ran
  cases document : expr.isDocument with
  | true =>
    rw [document] at ran
    exact Row.conforms_of_decode ran
  | false =>
    rw [document] at ran leaf
    exact Row.conforms_of_read (leaf.2.resolve_right Bool.false_ne_true) ran

/-- What is not taken apart in a shape over the database is a leaf. -/
theorem Expr.isWhole_of_isDatabaseShape {expr : Expr} (apart : expr.isShape = false)
    (shape : expr.isDatabaseShape = true) : expr.isWhole = true := by
  have leaf := Expr.isTypedLeaf_of_isDatabaseShape apart shape
  rw [Expr.isTypedLeaf, Bool.and_eq_true, Bool.and_eq_true] at leaf
  rw [Expr.isWhole, leaf.1.2, Bool.or_true]

mutual

/-- The plan of a shape over the database yields values of its type only. -/
theorem Expr.Collects.conforms {path : List String} {expr : Expr} {g after : Collected}
    {plan : Plan} {row : Row} {inputs : Inputs} {values : List Value} {v : Value} :
    Expr.Collects path false expr g plan after → expr.isDatabaseShape = true →
      plan.run row inputs values = .ok v → Value.conforms expr.type v = true
  | .evaluated apart parameterizable, shape, _ => by
    have leaf := Expr.isTypedLeaf_of_isDatabaseShape apart shape
    rw [Expr.isTypedLeaf, parameterizable] at leaf
    cases leaf
  | .leaf apart _, shape, ran =>
    Expr.conforms_of_reading (Expr.isTypedLeaf_of_isDatabaseShape apart shape) ran
  | .record fields, shape, ran => by
    simp only [Plan.run, Except.bind_eq_ok, Except.pure_eq_ok] at ran
    obtain ⟨results, fieldsRan, rfl⟩ := ran
    exact fields.conforms shape fieldsRan
  | .defaultIfEmpty inner, shape, ran => by
    simp only [Plan.run, Except.bind_eq_ok] at ran
    obtain ⟨flagged, -, ran⟩ := ran
    split at ran
    · rw [Except.pure_eq_ok] at ran
      rw [← ran]
      exact DataType.conforms_defaultValue _
    · exact inner.conforms shape ran
  -- The other nodes of the host are taken apart only when they are no leaves.
  | .member apart _, shape, _ | .array apart _, shape, _ | .binary apart _ _, shape, _
  | .unary apart _, shape, _ | .conditional apart _ _ _, shape, _ => by
    rw [Expr.isWhole_of_isDatabaseShape rfl shape] at apart
    cases apart

/-- What the plans of the fields of a record of the database give from a row has the types of the
fields. -/
theorem Expr.CollectsFields.conforms {path : List String} {fields : List (String × Expr)}
    {g after : Collected} {plans : List (String × Plan)} {row : Row} {inputs : Inputs}
    {values : List Value} {results : List (String × Value)} :
    Expr.CollectsFields path false fields g plans after → Expr.areDatabaseShapes fields = true →
      Plan.runFields row inputs values plans = .ok results →
      Value.fieldsConform (Expr.fieldTypes fields) results = true
  | .nil, _, ran => by
    cases ran
    rfl
  | .cons head tail, shapes, ran => by
    rw [Expr.areDatabaseShapes, Bool.and_eq_true] at shapes
    simp only [Plan.runFields, Except.bind_eq_ok, Except.pure_eq_ok] at ran
    obtain ⟨value, headRan, others, tailRan, rfl⟩ := ran
    simp [Expr.fieldTypes, Value.fieldsConform, head.conforms shapes.1 headRan,
      tail.conforms shapes.2 tailRan]

end

/-! ## Every such shape can be flattened -/

theorem Expr.exists_collectWhole? {expr : Expr} (leaf : expr.isTypedLeaf = true)
    (path : List String) (g : Collected) :
    ∃ plan after, expr.collectWhole? path false g = some (plan, after) := by
  rw [Expr.isTypedLeaf, Bool.and_eq_true, Bool.and_eq_true, Bool.not_eq_true'] at leaf
  exact ⟨expr.reading g.columns.length, g.addAt path false expr,
    by simp [Expr.collectWhole?, leaf.1.1, leaf.1.2]⟩

mutual

/-- A shape that is all of the database can always be flattened. -/
theorem Expr.exists_collect : ∀ (expr : Expr), expr.isDatabaseShape = true →
    ∀ (path : List String) (g : Collected),
      ∃ plan after, expr.collect path false g = .ok (plan, after)
  | .record fields, shape, path, g => by
    obtain ⟨plans, after, collected⟩ :=
      Expr.exists_collectFields fields shape path { g with numbered := 0 }
    exact ⟨_, _, by rw [Expr.collect, collected]; rfl⟩
  | .defaultIfEmpty expr flag flagAlias, shape, path, g => by
    obtain ⟨inner, after, collected⟩ :=
      expr.exists_collect shape path (g.add (joinPath (pathName path) flagAlias) flag)
    exact ⟨_, _, by rw [Expr.collect, collected]; rfl⟩
  | .column .., leaf, path, g | .aliased .., leaf, path, g | .constant .., leaf, path, g
  | .input .., leaf, path, g | .binary .., leaf, path, g | .unary .., leaf, path, g
  | .conditional .., leaf, path, g | .function .., leaf, path, g | .fragment .., leaf, path, g
  | .cast .., leaf, path, g | .exists _, leaf, path, g | .isIn .., leaf, path, g
  | .aggregate .., leaf, path, g | .subquery .., leaf, path, g | .array .., leaf, path, g
  | .member .., leaf, path, g | .parameter .., leaf, path, g => by
    obtain ⟨plan, after, collected⟩ := Expr.exists_collectWhole? leaf path g
    exact ⟨plan, after, by simp only [Expr.collect, collected]⟩

theorem Expr.exists_collectFields : ∀ (fields : List (String × Expr)),
    Expr.areDatabaseShapes fields = true → ∀ (path : List String) (g : Collected),
      ∃ plans after, Expr.collectFields path false fields g = .ok (plans, after)
  | [], _, path, g => ⟨[], g, rfl⟩
  | (name, expr) :: rest, shapes, path, g => by
    rw [Expr.areDatabaseShapes, Bool.and_eq_true] at shapes
    obtain ⟨plan, middle, collected⟩ := expr.exists_collect shapes.1 (path ++ [name]) g
    obtain ⟨plans, after, others⟩ := Expr.exists_collectFields rest shapes.2 path middle
    exact ⟨_, _, by rw [Expr.collectFields, collected]; simp only [bind, Except.bind, others]; rfl⟩

end

/-- A shape that is built by records and sides of outer joins from what the database evaluates can
be flattened, and whatever its plan yields, from any row and with any inputs, is a value of the type
of the projection. -/
theorem Projection.conforms_of_materialize {body : Expr} (shape : body.isDatabaseShape = true) :
    ∃ columns plan, (Projection.server body).flatten = .ok (columns, plan) ∧
      ∀ (row : Row) (inputs : Inputs) (v : Value), plan.materialize row inputs = .ok v →
        Value.conforms (Projection.server body).type v = true := by
  obtain ⟨plan, after, collected⟩ := body.exists_collect shape [] ⟨[], 0⟩
  have flattened : (Projection.server body).flatten = .ok (after.columns, plan) := by
    have path : (if Shapes.empty.count = 0 then [] else ["$" ++ toString Shapes.empty.count]) =
        ([] : List String) := rfl
    have before : (if Shapes.empty.count = 1 then Shapes.positioned Shapes.empty.columns
        else Shapes.empty.columns) = [] := rfl
    rw [Projection.flatten, Projection.flattenFrom, Shapes.add, path, before, collected]
    rfl
  refine ⟨after.columns, plan, flattened, ?_⟩
  intro row inputs v materialized
  exact (body.collects_of_collect collected).conforms shape materialized

/-- The numbers of the orders of a customer, and whether they are paid. -/
def Select.paidOrders : Select where
  projection := .server (.record
    [("Id", .column ⟨2⟩ "Id" .int32), ("Paid", .column ⟨2⟩ "Paid" .bool)])
  table := some (.base ⟨2⟩ "dbo" "Orders" "o")
  predicate := some (.binary .equal (.column ⟨2⟩ "Customer" .int32) (.column ⟨1⟩ "Id" .int32))
  grouping := none
  ordering := none
  offset := none
  limit := none
  distinct := false

/-- A visit with the customer, who may be missing, and the orders of the customer. -/
def Expr.visitWithOrders : Expr :=
  .record
    [("Late", .column ⟨0⟩ "Late" .bool),
      ("Customer", .defaultIfEmpty
        (.record
          [("Name", .column ⟨1⟩ "Name" .string),
            ("Orders", .subquery .collection .paidOrders
              (.collection Select.paidOrders.projection.type))])
        (.function "IS_MISSING" [.column ⟨1⟩ "Id" .int32] .bool) "$empty")]

/-- Its plan. -/
def Plan.visitWithOrders : Plan :=
  .construct
    [("Late", .readColumn 0 .bool),
      ("Customer", .defaultIfEmpty 1 .null (.construct
        [("Name", .readColumn 2 .string),
          ("Orders", .decodeSubDocument 3 (.collection Select.paidOrders.projection.type))]))]

/-- A truth value is held as an integer. The document has members in another order, a record in an
array of its own, an unknown member and a missing one. -/
theorem Projection.conforms_visitWithOrders :
    let row : Row := [.int 1, .int 0, .string "Ada",
      .string "[\x7b\"Paid\":true,\"Id\":7\x7d,[\x7b\"Id\":8,\"By\":null\x7d]]"]
    Expr.visitWithOrders.isDatabaseShape = true ∧
      ∃ columns v,
        (Projection.server .visitWithOrders).flatten = .ok (columns, .visitWithOrders) ∧
        Plan.visitWithOrders.materialize row .empty = .ok v ∧
        v.text = "\x7b Late = true, Customer = \x7b Name = Ada, Orders = " ++
          "[\x7b Id = 7, Paid = true \x7d, \x7b Id = 8, Paid = NULL \x7d] \x7d \x7d" ∧
        Value.conforms (Projection.server .visitWithOrders).type v = true := by
  intro row
  have shape : Expr.visitWithOrders.isDatabaseShape = true := by decide
  obtain ⟨columns, plan, flattened, conforms⟩ := Projection.conforms_of_materialize shape
  have same : (Projection.server .visitWithOrders).flatten = .ok (_, .visitWithOrders) := rfl
  rw [same] at flattened
  cases flattened
  have shown : (Plan.visitWithOrders.materialize row .empty).toOption.map Value.text =
      some ("\x7b Late = true, Customer = \x7b Name = Ada, Orders = " ++
        "[\x7b Id = 7, Paid = true \x7d, \x7b Id = 8, Paid = NULL \x7d] \x7d \x7d") := by
    decide +kernel
  cases materialized : Plan.visitWithOrders.materialize row .empty with
  | error _ =>
    rw [materialized] at shown
    cases shown
  | ok v =>
    rw [materialized] at shown
    exact ⟨shape, _, v, same, rfl, Option.some.inj shown, conforms row .empty v materialized⟩

end SqlLowering
