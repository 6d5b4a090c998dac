import SqlLowering.Proofs.Outcome

/-!
# What a plan uses, and why it fails

A plan takes values from the columns of a row, from the inputs of the query and from what is bound
around it. `Plan.uses` lists what it takes from the row and from the inputs, in the order in which
the plan is written down, and `Plan.isScoped` says whether every value that it takes from around it
is there.

Nothing else matters to a run. `Plan.arises_of_run` says once where each error of a run can come
from, and `Plan.run_eq_of_agreesOn` that rows with the same values in the columns that a plan uses
are the same to it.
-/

namespace SqlLowering

namespace Plan

/-- Something that a plan takes from outside. -/
inductive Use where
  /-- The value of a column, as one of a type. -/
  | value (ordinal : Nat) (type : DataType)
  /-- The document of a type that a column holds. -/
  | document (ordinal : Nat) (type : DataType)
  /-- The truth value of a column that says whether a side of an outer join is empty. -/
  | flag (ordinal : Nat)
  /-- The value of an expression over the inputs. -/
  | inputs (expr : Expr)

/-- The column that is used. -/
def Use.ordinal? : Use → Option Nat
  | .value ordinal _ | .document ordinal _ | .flag ordinal => some ordinal
  | .inputs _ => none

/-- The expression that is evaluated. -/
def Use.expr? : Use → Option Expr
  | .inputs expr => some expr
  | _ => none

mutual

/-- What a plan takes from the row and from the inputs, from left to right; a flag comes before what
it guards. -/
def uses : Plan → List Use
  | .readColumn ordinal type => [.value ordinal type]
  | .decodeSubDocument ordinal type => [.document ordinal type]
  | .defaultIfEmpty flagOrdinal _ inner => .flag flagOrdinal :: inner.uses
  | .construct fields => fieldUses fields
  | .combine parts body => listUses parts ++ body.uses
  | .bound _ | .constant _ => []
  | .field source _ => source.uses
  | .array elements => listUses elements
  | .binary _ left right => left.uses ++ right.uses
  | .unary _ operand => operand.uses
  | .conditional test ifTrue ifFalse => test.uses ++ ifTrue.uses ++ ifFalse.uses
  | .evaluate expr => [.inputs expr]

/-- What plans take, one after the other. -/
def listUses : List Plan → List Use
  | [] => []
  | plan :: rest => plan.uses ++ listUses rest

/-- What named plans take, one after the other. -/
def fieldUses : List (String × Plan) → List Use
  | [] => []
  | (_, plan) :: rest => plan.uses ++ fieldUses rest

end

/-- The columns that a plan reads, from left to right. -/
def ordinals (plan : Plan) : List Nat :=
  plan.uses.filterMap Use.ordinal?

/-- The expressions that a plan evaluates, from left to right. -/
def evaluated (plan : Plan) : List Expr :=
  plan.uses.filterMap Use.expr?

mutual

/-- Whether every value that a plan takes from around it is one of the first `count`. The results of
the parts of a combination are all that its body has around it. -/
def isScoped (count : Nat) : Plan → Bool
  | .bound index => index.toNat < count
  | .combine parts body => areScoped count parts && body.isScoped parts.length
  | .readColumn .. | .decodeSubDocument .. | .constant _ | .evaluate _ => true
  | .defaultIfEmpty _ _ inner => inner.isScoped count
  | .construct fields => areFieldsScoped count fields
  | .field source _ => source.isScoped count
  | .array elements => areScoped count elements
  | .binary _ left right => left.isScoped count && right.isScoped count
  | .unary _ operand => operand.isScoped count
  | .conditional test ifTrue ifFalse =>
    test.isScoped count && ifTrue.isScoped count && ifFalse.isScoped count

/-- Whether plans are scoped. -/
def areScoped (count : Nat) : List Plan → Bool
  | [] => true
  | plan :: rest => plan.isScoped count && areScoped count rest

/-- Whether named plans are scoped. -/
def areFieldsScoped (count : Nat) : List (String × Plan) → Bool
  | [] => true
  | (_, plan) :: rest => plan.isScoped count && areFieldsScoped count rest

end

/-! ## Access to a field -/

theorem uses_sublist_of_lookup {name : String} {plan : Plan} {fields : List (String × Plan)}
    (found : fields.lookup name = some plan) : plan.uses.Sublist (fieldUses fields) := by
  induction fields with
  | nil => cases found
  | cons head rest ih =>
    obtain ⟨other, first⟩ := head
    rw [List.lookup_cons] at found
    rw [fieldUses]
    by_cases same : name = other
    · simp only [same, BEq.rfl, Option.some.injEq] at found
      subst found
      exact List.sublist_append_left _ _
    · simp only [beq_false_of_ne same] at found
      exact (ih found).trans (List.sublist_append_right _ _)

/-- Access to a field uses what the source uses, without the other fields if it is folded. -/
theorem uses_access (source : Plan) (name : String) :
    (source.access name).uses.Sublist source.uses := by
  unfold access
  split
  next fields =>
    cases found : fields.lookup name with
    | none => exact List.Sublist.refl _
    | some plan => exact uses_sublist_of_lookup found
  · exact List.Sublist.refl _

/-- A field of scoped plans has a scoped plan. -/
theorem isScoped_of_lookup {count : Nat} {name : String} {plan : Plan}
    {fields : List (String × Plan)} (inScope : areFieldsScoped count fields = true)
    (found : fields.lookup name = some plan) : plan.isScoped count = true := by
  induction fields with
  | nil => cases found
  | cons head rest ih =>
    obtain ⟨other, first⟩ := head
    rw [areFieldsScoped, Bool.and_eq_true] at inScope
    rw [List.lookup_cons] at found
    by_cases same : name = other
    · simp only [same, BEq.rfl, Option.some.injEq] at found
      subst found
      exact inScope.1
    · simp only [beq_false_of_ne same] at found
      exact ih inScope.2 found

theorem isScoped_access {count : Nat} {source : Plan} (inScope : source.isScoped count = true)
    (name : String) : (source.access name).isScoped count = true := by
  unfold access
  split
  next fields =>
    cases found : fields.lookup name with
    | none => exact inScope
    | some plan => exact isScoped_of_lookup inScope found
  · exact inScope

end Plan

/-! ## Errors of the host -/

/-- Whether an error comes from an operation on values, and not from a missing input or from a node
that the host cannot evaluate. -/
def EvalError.isOperational : EvalError → Bool
  | .missingInput _ | .unsupported _ => false
  | _ => true

section Failures

variable {ε ε' α β : Type}

theorem Except.bind_eq_error {first : Except ε α} {next : α → Except ε β} {error : ε} :
    (first >>= next) = .error error ↔
      first = .error error ∨ ∃ a, first = .ok a ∧ next a = .error error := by
  cases first <;> simp [bind, Except.bind]

theorem Except.mapError_eq_error {first : Except ε α} {f : ε → ε'} {error : ε'} :
    first.mapError f = .error error ↔ ∃ cause, first = .error cause ∧ f cause = error := by
  cases first with
  | ok _ => exact ⟨nofun, by rintro ⟨_, failed, -⟩; cases failed⟩
  | error cause =>
    have reworded : (Except.error cause : Except ε α).mapError f = .error (f cause) := rfl
    rw [reworded, Except.error.injEq]
    simp

theorem BinaryOp.isOperational_of_arithmetic {op : BinaryOp} {lhs rhs : Value} {error : EvalError}
    (failed : op.arithmetic lhs rhs = .error error) : error.isOperational = true := by
  unfold BinaryOp.arithmetic at failed
  grind [EvalError.isOperational]

theorem BinaryOp.isOperational_of_strict {op : BinaryOp} {lhs rhs : Value} {error : EvalError}
    (failed : op.strict lhs rhs = .error error) : error.isOperational = true := by
  unfold BinaryOp.strict at failed
  grind [EvalError.isOperational, BinaryOp.isOperational_of_arithmetic]

/-- An operator fails as its right operand does, or by an operation on values. -/
theorem BinaryOp.apply_eq_error {lift : EvalError → ε} {op : BinaryOp} {lhs : Value}
    {right : Unit → Except ε Value} {error : ε} (failed : op.apply lift lhs right = .error error) :
    right () = .error error ∨ ∃ cause, cause.isOperational = true ∧ lift cause = error := by
  unfold BinaryOp.apply at failed
  split at failed
  · cases failed
  · split at failed
    next rightFailed =>
      cases failed
      exact .inl rightFailed
    next rhs _ =>
      obtain ⟨cause, strictFailed, same⟩ := Except.mapError_eq_error.1 failed
      exact .inr ⟨cause, BinaryOp.isOperational_of_strict strictFailed, same⟩

theorem UnaryOp.isOperational_of_apply {op : UnaryOp} {value : Value} {error : EvalError}
    (failed : op.apply value = .error error) : error.isOperational = true := by
  unfold UnaryOp.apply at failed
  split at failed
  case h_5 =>
    obtain ⟨cause, -, rfl⟩ := Except.mapError_eq_error.1 failed
    rfl
  all_goals
    cases failed
    try rfl

theorem Value.isOperational_of_holds {value : Value} {error : EvalError}
    (failed : value.holds = .error error) : error.isOperational = true := by
  unfold Value.holds at failed
  split at failed
  all_goals
    cases failed
    try rfl

theorem Value.isOperational_of_project {field : String} {value : Value} {error : EvalError}
    (failed : value.project field = .error error) : error.isOperational = true := by
  unfold Value.project at failed
  split at failed
  · cases failed
  · split at failed
    · cases failed
    · cases failed
      rfl

end Failures

/-! ## Where the errors of a run come from -/

/-- Where an error for a row can come from, by what is used and whether all that is bound is
there. -/
inductive RowError.Arises (row : Row) (inputs : Inputs) (uses : List Plan.Use) (inScope : Bool) :
    RowError → Prop
  | outOfRange {use : Plan.Use} {ordinal : Nat} :
    use ∈ uses → use.ordinal? = some ordinal → row.length ≤ ordinal →
    RowError.Arises row inputs uses inScope (.columnOutOfRange ordinal row.length)
  | column {ordinal : Nat} {cause : ValueError} :
    RowError.Arises row inputs uses inScope (.column ordinal cause)
  | subDocument {ordinal : Nat} : RowError.Arises row inputs uses inScope (.subDocument ordinal)
  | subDocumentShape {ordinal : Nat} {cause : ValueError} :
    RowError.Arises row inputs uses inScope (.subDocumentShape ordinal cause)
  | unbound {index : UInt64} :
    inScope = false → RowError.Arises row inputs uses inScope (.unboundParameter index)
  | evaluation {expr : Expr} {cause : EvalError} :
    .inputs expr ∈ uses → expr.eval inputs = .error cause →
    RowError.Arises row inputs uses inScope (.eval cause)
  | operation {cause : EvalError} :
    cause.isOperational = true → RowError.Arises row inputs uses inScope (.eval cause)

section Runs

variable {row : Row} {inputs : Inputs}

/-- A part fails for the reasons of the whole. -/
theorem RowError.Arises.mono {uses more : List Plan.Use} {inScope outer : Bool} {error : RowError}
    (arises : error.Arises row inputs uses inScope) (used : uses ⊆ more)
    (narrower : outer = true → inScope = true) : error.Arises row inputs more outer := by
  cases arises with
  | outOfRange member column beyond => exact .outOfRange (used member) column beyond
  | column => exact .column
  | subDocument => exact .subDocument
  | subDocumentShape => exact .subDocumentShape
  | unbound outside =>
    refine .unbound ?_
    cases outer with
    | false => rfl
    | true => rw [narrower rfl] at outside; cases outside
  | evaluation member failed => exact .evaluation (used member) failed
  | operation operational => exact .operation operational

theorem RowError.Arises.append_left {uses more : List Plan.Use} {inScope inScope' : Bool}
    {error : RowError} (arises : error.Arises row inputs uses inScope) :
    error.Arises row inputs (uses ++ more) (inScope && inScope') := by
  refine arises.mono (List.subset_append_left _ _) fun both => ?_
  rw [Bool.and_eq_true] at both
  exact both.1

theorem RowError.Arises.append_right {uses more : List Plan.Use} {inScope inScope' : Bool}
    {error : RowError} (arises : error.Arises row inputs more inScope') :
    error.Arises row inputs (uses ++ more) (inScope && inScope') := by
  refine arises.mono (List.subset_append_right _ _) fun both => ?_
  rw [Bool.and_eq_true] at both
  exact both.2

theorem Row.arises_of_read {uses : List Plan.Use} {inScope : Bool} {use : Plan.Use} {ordinal : Nat}
    {type : DataType} {error : RowError} (member : use ∈ uses)
    (column : use.ordinal? = some ordinal) (failed : row.read ordinal type = .error error) :
    error.Arises row inputs uses inScope := by
  unfold Row.read at failed
  split at failed
  · obtain ⟨cause, -, rfl⟩ := Except.mapError_eq_error.1 failed
    exact .column
  next missing =>
    cases failed
    exact .outOfRange member column (List.getElem?_eq_none_iff.1 missing)

theorem Row.arises_of_decode {uses : List Plan.Use} {inScope : Bool} {use : Plan.Use}
    {ordinal : Nat} {type : DataType} {error : RowError} (member : use ∈ uses)
    (column : use.ordinal? = some ordinal) (failed : row.decode ordinal type = .error error) :
    error.Arises row inputs uses inScope := by
  unfold Row.decode at failed
  rcases Except.bind_eq_error.1 failed with failed | ⟨held, -, failed⟩
  · exact Row.arises_of_read member column failed
  split at failed
  · split at failed
    · obtain ⟨cause, -, rfl⟩ := Except.mapError_eq_error.1 failed
      exact .subDocumentShape
    · cases failed
      exact .subDocument
  · cases failed

theorem Plan.length_of_runList {values results : List Value} {plans : List Plan}
    (ran : Plan.runList row inputs values plans = .ok results) :
    results.length = plans.length := by
  induction plans generalizing results with
  | nil =>
    cases ran
    rfl
  | cons plan rest ih =>
    simp only [Plan.runList, Except.bind_eq_ok, Except.pure_eq_ok] at ran
    obtain ⟨value, -, others, restRan, rfl⟩ := ran
    rw [List.length_cons, List.length_cons, ih restRan]

variable (row inputs)

mutual

/-- Every error of a run comes from a column that the plan uses, from an expression that it
evaluates, from an operation on values, or from a value that is not bound around it. -/
theorem Plan.arises_of_run :
    ∀ (plan : Plan) (values : List Value) {error : RowError},
      plan.run row inputs values = .error error →
      error.Arises row inputs plan.uses (plan.isScoped values.length)
  | .readColumn ordinal type, values, error, failed => by
    rw [Plan.run] at failed
    exact Row.arises_of_read List.mem_cons_self rfl failed
  | .decodeSubDocument ordinal type, values, error, failed => by
    rw [Plan.run] at failed
    exact Row.arises_of_decode List.mem_cons_self rfl failed
  | .defaultIfEmpty flagOrdinal default inner, values, error, failed => by
    rw [Plan.run] at failed
    rcases Except.bind_eq_error.1 failed with failed | ⟨flagged, -, failed⟩
    · exact Row.arises_of_read List.mem_cons_self rfl failed
    split at failed
    · cases failed
    · exact (inner.arises_of_run values failed).mono (List.subset_cons_self _ _) id
  | .construct fields, values, error, failed => by
    rw [Plan.run] at failed
    rcases Except.bind_eq_error.1 failed with failed | ⟨results, -, failed⟩
    · exact Plan.arises_of_runFields fields values failed
    · cases failed
  | .combine parts body, values, error, failed => by
    rw [Plan.run] at failed
    rcases Except.bind_eq_error.1 failed with failed | ⟨results, ran, failed⟩
    · exact (Plan.arises_of_runList parts values failed).append_left
    · -- The body sees the results of the parts and nothing of what is bound around the whole.
      have inBody := body.arises_of_run results failed
      rw [Plan.length_of_runList ran] at inBody
      exact inBody.append_right
  | .bound index, values, error, failed => by
    rw [Plan.run] at failed
    split at failed
    · cases failed
    next missing =>
      cases failed
      refine .unbound ?_
      rw [Plan.isScoped, decide_eq_false_iff_not, Nat.not_lt]
      exact List.getElem?_eq_none_iff.1 missing
  | .field source name, values, error, failed => by
    rw [Plan.run] at failed
    rcases Except.bind_eq_error.1 failed with failed | ⟨record, -, failed⟩
    · exact source.arises_of_run values failed
    · obtain ⟨cause, projectFailed, rfl⟩ := Except.mapError_eq_error.1 failed
      exact .operation (Value.isOperational_of_project projectFailed)
  | .array elements, values, error, failed => by
    rw [Plan.run] at failed
    rcases Except.bind_eq_error.1 failed with failed | ⟨results, -, failed⟩
    · exact Plan.arises_of_runList elements values failed
    · cases failed
  | .constant value, values, error, failed => by
    rw [Plan.run] at failed
    cases failed
  | .binary op left right, values, error, failed => by
    rw [Plan.run] at failed
    rcases Except.bind_eq_error.1 failed with failed | ⟨lhs, -, failed⟩
    · exact (left.arises_of_run values failed).append_left
    rcases BinaryOp.apply_eq_error failed with failed | ⟨cause, operational, rfl⟩
    · exact (right.arises_of_run values failed).append_right
    · exact .operation operational
  | .unary op operand, values, error, failed => by
    rw [Plan.run] at failed
    rcases Except.bind_eq_error.1 failed with failed | ⟨value, -, failed⟩
    · exact operand.arises_of_run values failed
    · obtain ⟨cause, applyFailed, rfl⟩ := Except.mapError_eq_error.1 failed
      exact .operation (UnaryOp.isOperational_of_apply applyFailed)
  | .conditional test ifTrue ifFalse, values, error, failed => by
    rw [Plan.run] at failed
    rcases Except.bind_eq_error.1 failed with failed | ⟨tested, -, failed⟩
    · exact (test.arises_of_run values failed).append_left.append_left
    rcases Except.bind_eq_error.1 failed with failed | ⟨holds, -, failed⟩
    · obtain ⟨cause, testFailed, rfl⟩ := Except.mapError_eq_error.1 failed
      exact .operation (Value.isOperational_of_holds testFailed)
    split at failed
    · exact (ifTrue.arises_of_run values failed).append_right.append_left
    · exact (ifFalse.arises_of_run values failed).append_right
  | .evaluate expr, values, error, failed => by
    rw [Plan.run] at failed
    obtain ⟨cause, evalFailed, rfl⟩ := Except.mapError_eq_error.1 failed
    exact .evaluation List.mem_cons_self evalFailed

theorem Plan.arises_of_runList :
    ∀ (plans : List Plan) (values : List Value) {error : RowError},
      Plan.runList row inputs values plans = .error error →
      error.Arises row inputs (Plan.listUses plans) (Plan.areScoped values.length plans)
  | [], values, error, failed => by cases failed
  | plan :: rest, values, error, failed => by
    rw [Plan.runList] at failed
    rcases Except.bind_eq_error.1 failed with failed | ⟨value, -, failed⟩
    · exact (plan.arises_of_run values failed).append_left
    rcases Except.bind_eq_error.1 failed with failed | ⟨others, -, failed⟩
    · exact (Plan.arises_of_runList rest values failed).append_right
    · cases failed

theorem Plan.arises_of_runFields :
    ∀ (fields : List (String × Plan)) (values : List Value) {error : RowError},
      Plan.runFields row inputs values fields = .error error →
      error.Arises row inputs (Plan.fieldUses fields) (Plan.areFieldsScoped values.length fields)
  | [], values, error, failed => by cases failed
  | (name, plan) :: rest, values, error, failed => by
    rw [Plan.runFields] at failed
    rcases Except.bind_eq_error.1 failed with failed | ⟨value, -, failed⟩
    · exact (plan.arises_of_run values failed).append_left
    rcases Except.bind_eq_error.1 failed with failed | ⟨others, -, failed⟩
    · exact (Plan.arises_of_runFields rest values failed).append_right
    · cases failed

end

end Runs

/-! ## Rows that are the same to a plan -/

/-- Two rows hold the same values in the columns that are used. -/
def Row.AgreesOn (uses : List Plan.Use) (row other : Row) : Prop :=
  ∀ use ∈ uses, ∀ ordinal, use.ordinal? = some ordinal →
    ∃ held, row[ordinal]? = some held ∧ other[ordinal]? = some held

section Agreement

variable {row other : Row}

theorem Row.AgreesOn.mono {uses more : List Plan.Use} (agrees : row.AgreesOn more other)
    (used : uses ⊆ more) : row.AgreesOn uses other :=
  fun use member => agrees use (used member)

theorem Row.AgreesOn.append {first second : List Plan.Use}
    (agrees : row.AgreesOn (first ++ second) other) :
    row.AgreesOn first other ∧ row.AgreesOn second other :=
  ⟨agrees.mono (List.subset_append_left _ _), agrees.mono (List.subset_append_right _ _)⟩

theorem Row.AgreesOn.read_eq {uses : List Plan.Use} (agrees : row.AgreesOn uses other)
    {use : Plan.Use} (member : use ∈ uses) {ordinal : Nat} (column : use.ordinal? = some ordinal)
    (type : DataType) : row.read ordinal type = other.read ordinal type := by
  obtain ⟨held, here, there⟩ := agrees use member ordinal column
  rw [Row.read, Row.read, here, there]

variable (inputs : Inputs)

mutual

/-- A plan makes the same of two rows with the same values in the columns that it uses. -/
theorem Plan.run_eq_of_agreesOn :
    ∀ (plan : Plan) (values : List Value), row.AgreesOn plan.uses other →
      plan.run row inputs values = plan.run other inputs values
  | .readColumn ordinal type, values, agrees => by
    rw [Plan.run, Plan.run, agrees.read_eq List.mem_cons_self rfl]
  | .decodeSubDocument ordinal type, values, agrees => by
    rw [Plan.run, Plan.run, Row.decode, Row.decode, agrees.read_eq List.mem_cons_self rfl]
  | .defaultIfEmpty flagOrdinal default inner, values, agrees => by
    have same := inner.run_eq_of_agreesOn values (agrees.mono (List.subset_cons_self _ _))
    rw [Plan.run, Plan.run, agrees.read_eq List.mem_cons_self rfl, same]
  | .construct fields, values, agrees => by
    rw [Plan.run, Plan.run, Plan.runFields_eq_of_agreesOn fields values agrees]
  | .combine parts body, values, agrees => by
    obtain ⟨first, second⟩ := agrees.append
    simp only [Plan.run, Plan.runList_eq_of_agreesOn parts values first,
      fun results => body.run_eq_of_agreesOn results second]
  | .bound index, values, agrees => by rw [Plan.run, Plan.run]
  | .field source name, values, agrees => by
    rw [Plan.run, Plan.run, source.run_eq_of_agreesOn values agrees]
  | .array elements, values, agrees => by
    rw [Plan.run, Plan.run, Plan.runList_eq_of_agreesOn elements values agrees]
  | .constant value, values, agrees => by rw [Plan.run, Plan.run]
  | .binary op left right, values, agrees => by
    obtain ⟨first, second⟩ := agrees.append
    rw [Plan.run, Plan.run, left.run_eq_of_agreesOn values first,
      right.run_eq_of_agreesOn values second]
  | .unary op operand, values, agrees => by
    rw [Plan.run, Plan.run, operand.run_eq_of_agreesOn values agrees]
  | .conditional test ifTrue ifFalse, values, agrees => by
    obtain ⟨before, third⟩ := agrees.append
    obtain ⟨first, second⟩ := Row.AgreesOn.append before
    rw [Plan.run, Plan.run, test.run_eq_of_agreesOn values first,
      ifTrue.run_eq_of_agreesOn values second, ifFalse.run_eq_of_agreesOn values third]
  | .evaluate expr, values, agrees => by rw [Plan.run, Plan.run]

theorem Plan.runList_eq_of_agreesOn :
    ∀ (plans : List Plan) (values : List Value), row.AgreesOn (Plan.listUses plans) other →
      Plan.runList row inputs values plans = Plan.runList other inputs values plans
  | [], values, agrees => by rw [Plan.runList, Plan.runList]
  | plan :: rest, values, agrees => by
    obtain ⟨first, second⟩ := agrees.append
    rw [Plan.runList, Plan.runList, plan.run_eq_of_agreesOn values first,
      Plan.runList_eq_of_agreesOn rest values second]

theorem Plan.runFields_eq_of_agreesOn :
    ∀ (fields : List (String × Plan)) (values : List Value),
      row.AgreesOn (Plan.fieldUses fields) other →
      Plan.runFields row inputs values fields = Plan.runFields other inputs values fields
  | [], values, agrees => by rw [Plan.runFields, Plan.runFields]
  | (name, plan) :: rest, values, agrees => by
    obtain ⟨first, second⟩ := agrees.append
    rw [Plan.runFields, Plan.runFields, plan.run_eq_of_agreesOn values first,
      Plan.runFields_eq_of_agreesOn rest values second]

end

end Agreement

end SqlLowering
