import SqlLowering.Lowering.Basic
import SqlLowering.Proofs.Declarations
import SqlLowering.Proofs.LeftToHost

/-!
# Unknown tables

The tables of a query are gathered before it is rendered, by a traversal of its own. Rendering goes
another way: shapes are flattened, record comparisons are expanded, and what depends on inputs only
is bound. It asks for the alias of a table at every column and at every table that it writes.

The gathering misses nothing (`Part.mem_declarations_of_contains`), and rendering asks only for
tables that the query refers to (`Select.missesOnly_script`). So a query fails for an unknown table
only if it has a column of a table that is declared nowhere in it.
-/

namespace SqlLowering

/-! ## Computations that miss tables -/

/-- A computation that fails for an unknown table fails for one of `tables`. -/
def MissesOnly {α : Type} (tables : TableId → Prop) (result : Except LowerError α) : Prop :=
  ∀ id, result = .error (.unknownTable id) → tables id

namespace MissesOnly

variable {α β : Type} {tables more : TableId → Prop}

theorem ok (a : α) : MissesOnly tables (.ok a) :=
  nofun

theorem pure (a : α) : MissesOnly tables (Pure.pure a) :=
  nofun

theorem bind {first : Except LowerError α} {next : α → Except LowerError β}
    (misses : MissesOnly tables first)
    (nextMisses : ∀ a, first = .ok a → MissesOnly tables (next a)) :
    MissesOnly tables (first >>= next) := by
  intro id failed
  cases first with
  | error failure =>
    apply misses id
    rw [Except.error.inj failed]
  | ok a => exact nextMisses a rfl id failed

theorem mono {result : Except LowerError α} (misses : MissesOnly tables result)
    (sub : ∀ id, tables id → more id) : MissesOnly more result := by
  intro id failed
  exact sub id (misses id failed)

theorem mapM {f : α → Except LowerError β} {list : List α}
    (each : ∀ a ∈ list, MissesOnly tables (f a)) : MissesOnly tables (list.mapM f) := by
  induction list with
  | nil => exact .pure _
  | cons a rest ih =>
    rw [List.mapM_cons]
    refine .bind (each a List.mem_cons_self) fun _ _ => .bind (ih ?_) fun _ _ => .pure _
    intro b member
    exact each b (List.mem_cons_of_mem _ member)

end MissesOnly

/-! ## Flattening asks for no table -/

section Flattening

variable {tables : TableId → Prop}

mutual

/-- Compiling a body fails for no unknown table. -/
theorem Expr.missesOnly_compile : ∀ body : Expr, MissesOnly tables body.compile
  | .parameter .. | .constant .. | .input .. => .ok _
  | .aliased body _ => by
    rw [Expr.compile]
    exact body.missesOnly_compile
  | .record fields => by
    rw [Expr.compile]
    split
    · exact .ok _
    · exact .bind (Expr.missesOnly_compileFields fields) fun _ _ => .pure _
  | .member body _ _ => by
    rw [Expr.compile]
    split
    · exact .ok _
    · exact .bind body.missesOnly_compile fun _ _ => .pure _
  | .array elements _ => by
    rw [Expr.compile]
    split
    · exact .ok _
    · exact .bind (Expr.missesOnly_compileList elements) fun _ _ => .pure _
  | .binary _ left right => by
    rw [Expr.compile]
    split
    · exact .ok _
    · exact .bind left.missesOnly_compile fun _ _ => .bind right.missesOnly_compile fun _ _ =>
        .pure _
  | .unary _ operand => by
    rw [Expr.compile]
    split
    · exact .ok _
    · exact .bind operand.missesOnly_compile fun _ _ => .pure _
  | .conditional test ifTrue ifFalse => by
    rw [Expr.compile]
    split
    · exact .ok _
    · exact .bind test.missesOnly_compile fun _ _ => .bind ifTrue.missesOnly_compile fun _ _ =>
        .bind ifFalse.missesOnly_compile fun _ _ => .pure _
  | .column .. | .function .. | .fragment .. | .cast .. | .exists _ | .isIn .. | .aggregate ..
  | .subquery .. | .defaultIfEmpty .. => nofun

theorem Expr.missesOnly_compileList :
    ∀ bodies : List Expr, MissesOnly tables (Expr.compileList bodies)
  | [] => .ok _
  | body :: rest =>
    .bind body.missesOnly_compile fun _ _ => .bind (Expr.missesOnly_compileList rest) fun _ _ =>
      .pure _

theorem Expr.missesOnly_compileFields :
    ∀ fields : List (String × Expr), MissesOnly tables (Expr.compileFields fields)
  | [] => .ok _
  | (_, body) :: rest =>
    .bind body.missesOnly_compile fun _ _ => .bind (Expr.missesOnly_compileFields rest) fun _ _ =>
      .pure _

end

/-- A shape that may stay whole misses tables only where its parts do. -/
theorem Expr.missesOnly_wholeOr {path : List String} {hosted : Bool} {expr : Expr} {g : Collected}
    {parts : Except LowerError (Plan × Collected)} (misses : MissesOnly tables parts) :
    MissesOnly tables (match expr.collectWhole? path hosted g with
      | some whole => .ok whole
      | none => parts) := by
  split
  · exact .ok _
  · exact misses

mutual

/-- Flattening a shape fails for no unknown table. -/
theorem Expr.missesOnly_collect :
    ∀ (expr : Expr) (path : List String) (hosted : Bool) (g : Collected),
      MissesOnly tables (expr.collect path hosted g)
  | .record fields, path, hosted, g => by
    rw [Expr.collect]
    exact .bind (Expr.missesOnly_collectFields fields path hosted _) fun _ _ => .pure _
  | .defaultIfEmpty expr _ _, path, hosted, g => by
    rw [Expr.collect]
    exact .bind (expr.missesOnly_collect path hosted _) fun _ _ => .pure _
  | .member expr _ _, path, hosted, g => by
    rw [Expr.collect]
    exact Expr.missesOnly_wholeOr (.bind (expr.missesOnly_collect path true _) fun _ _ => .pure _)
  | .array elements _, path, hosted, g => by
    rw [Expr.collect]
    exact Expr.missesOnly_wholeOr
      (.bind (Expr.missesOnly_collectList elements path _) fun _ _ => .pure _)
  | .binary _ left right, path, hosted, g => by
    rw [Expr.collect]
    exact Expr.missesOnly_wholeOr (.bind (left.missesOnly_collect path true _) fun _ _ =>
      .bind (right.missesOnly_collect path true _) fun _ _ => .pure _)
  | .unary _ operand, path, hosted, g => by
    rw [Expr.collect]
    exact Expr.missesOnly_wholeOr
      (.bind (operand.missesOnly_collect path true _) fun _ _ => .pure _)
  | .conditional test ifTrue ifFalse, path, hosted, g => by
    rw [Expr.collect]
    exact Expr.missesOnly_wholeOr (.bind (test.missesOnly_collect path true _) fun _ _ =>
      .bind (ifTrue.missesOnly_collect path true _) fun _ _ =>
        .bind (ifFalse.missesOnly_collect path true _) fun _ _ => .pure _)
  | .column .., path, hosted, g | .aliased .., path, hosted, g | .constant .., path, hosted, g
  | .input .., path, hosted, g | .function .., path, hosted, g | .fragment .., path, hosted, g
  | .cast .., path, hosted, g | .exists _, path, hosted, g | .isIn .., path, hosted, g
  | .aggregate .., path, hosted, g | .subquery .., path, hosted, g
  | .parameter .., path, hosted, g => by
    simp only [Expr.collect]
    split
    · exact .ok _
    · exact nofun

theorem Expr.missesOnly_collectList :
    ∀ (exprs : List Expr) (path : List String) (g : Collected),
      MissesOnly tables (Expr.collectList path exprs g)
  | [], _, _ => .ok _
  | expr :: rest, path, g => by
    rw [Expr.collectList]
    exact .bind (expr.missesOnly_collect path true g) fun _ _ =>
      .bind (Expr.missesOnly_collectList rest path _) fun _ _ => .pure _

theorem Expr.missesOnly_collectFields :
    ∀ (fields : List (String × Expr)) (path : List String) (hosted : Bool) (g : Collected),
      MissesOnly tables (Expr.collectFields path hosted fields g)
  | [], _, _, _ => .ok _
  | (name, expr) :: rest, path, hosted, g => by
    rw [Expr.collectFields]
    exact .bind (expr.missesOnly_collect (path ++ [name]) hosted g) fun _ _ =>
      .bind (Expr.missesOnly_collectFields rest path hosted _) fun _ _ => .pure _

end

theorem Projection.missesOnly_flattenFrom :
    ∀ (projection : Projection) (shapes : Shapes),
      MissesOnly tables (projection.flattenFrom shapes)
  | .server body, shapes => .bind (body.missesOnly_collect _ _ _) fun _ _ => .pure _
  | .client body after, shapes => by
    rw [Projection.flattenFrom]
    exact .bind (.bind (body.missesOnly_collect _ _ _) fun _ _ => .pure _) fun _ _ =>
      .bind after.missesOnly_compile fun _ _ => .pure _
  | .composite outer inner result, shapes => by
    rw [Projection.flattenFrom]
    exact .bind (outer.missesOnly_flattenFrom _) fun _ _ =>
      .bind (inner.missesOnly_flattenFrom _) fun _ _ =>
        .bind result.missesOnly_compile fun _ _ => .pure _

theorem Projection.missesOnly_flatten (projection : Projection) :
    MissesOnly tables projection.flatten :=
  .bind (projection.missesOnly_flattenFrom _) fun _ _ => .pure _

theorem Expr.missesOnly_groupingKeys (key : Expr) : MissesOnly tables key.groupingKeys :=
  .bind (key.missesOnly_collect _ _ _) fun _ _ => .pure _

end Flattening

/-! ## References to tables -/

namespace Part

/-- The table that a part itself refers to: a column to its table, and a table to itself. -/
def reference? : Part → Option TableId
  | .expr (.column id _ _) => some id
  | .table own => own.identity?.map (·.1)
  | _ => none

/-- A part refers to a table, at any depth. -/
def Refers (part : Part) (id : TableId) : Prop :=
  ∃ inner, part.Contains inner ∧ inner.reference? = some id

theorem Refers.of_contains {part inner : Part} {id : TableId} (refers : inner.Refers id)
    (contains : part.Contains inner) : part.Refers id := by
  obtain ⟨innermost, inside, same⟩ := refers
  exact ⟨innermost, contains.trans inside, same⟩

/-- The comparison of two records refers to what the records refer to. -/
theorem Refers.of_recordComparison {op : BinaryOp} {left right : List (String × Expr)}
    {comparison : Expr} (compared : recordComparison op left right = .ok comparison) {id : TableId}
    (refers : (Part.expr comparison).Refers id) :
    (Part.expr (.binary op (.record left) (.record right))).Refers id := by
  obtain ⟨inner, inside, same⟩ := refers
  have plain : inner.isCombined = false := by
    unfold reference? at same
    split at same
    · rfl
    · rfl
    · cases same
  exact ⟨inner, (contains_recordComparison compared plain).1 inside, same⟩

/-- A part refers to a table that is not among those of the query. -/
def RefersBeyond (ctx : RenderContext) (part : Part) (id : TableId) : Prop :=
  part.Refers id ∧ ctx.tables.lookup id = none

end Part

section Rendering

variable {ctx : RenderContext} {below : Below} {α : Type}

theorem MissesOnly.of_contains {part inner : Part} {result : Except LowerError α}
    (misses : MissesOnly (inner.RefersBeyond ctx) result) (contains : part.Contains inner) :
    MissesOnly (part.RefersBeyond ctx) result :=
  misses.mono fun _ beyond => ⟨beyond.1.of_contains contains, beyond.2⟩

theorem MissesOnly.of_child {part child : Part} {result : Except LowerError α}
    (misses : MissesOnly (child.RefersBeyond ctx) result) (member : child ∈ part.children) :
    MissesOnly (part.RefersBeyond ctx) result :=
  misses.of_contains ((Part.Contains.refl _).of_child member)

theorem RenderContext.missesOnly_tableName {part : Part} {id : TableId}
    (refers : part.reference? = some id) :
    MissesOnly (part.RefersBeyond ctx) (ctx.tableName id) := by
  intro other failed
  unfold RenderContext.tableName at failed
  split at failed
  · cases failed
  next missing =>
    cases failed
    exact ⟨⟨part, .refl part, refers⟩, missing⟩

theorem RenderContext.missesOnly_literal {tables : TableId → Prop} (value : Value) :
    MissesOnly tables (ctx.literal value) := by
  intro id failed
  unfold RenderContext.literal at failed
  split at failed <;> cases failed

theorem BinaryOp.missesOnly_sign {tables : TableId → Prop} (op : BinaryOp) :
    MissesOnly tables op.sign := by
  intro id failed
  cases op <;> cases failed

theorem missesOnly_recordComparison {tables : TableId → Prop} (op : BinaryOp)
    (left right : List (String × Expr)) : MissesOnly tables (recordComparison op left right) := by
  intro id failed
  unfold recordComparison at failed
  split at failed
  · cases failed
  · cases terms : List.zipWith (fun l r => Expr.binary op l.2 r.2) left right
    all_goals
      rw [terms] at failed
      cases failed

/-! ## Rendering asks for tables that are referred to -/

/-- The renderer of one level less asks only for tables that are referred to. -/
structure Below.MissesReferred (ctx : RenderContext) (below : Below) : Prop where
  expr : ∀ expr, MissesOnly ((Part.expr expr).RefersBeyond ctx) (below.expr expr)
  select : ∀ select, MissesOnly ((Part.select select).RefersBeyond ctx) (below.select select)

theorem Below.MissesReferred.subquery (misses : below.MissesReferred ctx) (asDocument : Bool)
    (select : Select) :
    MissesOnly ((Part.select select).RefersBeyond ctx)
      (renderSubquery ctx below asDocument select) :=
  .bind (misses.select select) fun _ _ => .pure _

mutual

/-- Rendering an expression fails only for unknown tables that it refers to. -/
theorem Below.MissesReferred.render (misses : below.MissesReferred ctx) :
    ∀ (expr : Expr) (position : Position),
      MissesOnly ((Part.expr expr).RefersBeyond ctx) (expr.render ctx below position)
  | .column id name type, position => by
    rw [Expr.render]
    exact .bind (RenderContext.missesOnly_tableName rfl) fun _ _ => .pure _
  | .aliased expr name, position => by
    rw [Expr.render]
    exact .bind ((misses.render expr .whole).of_child (List.mem_singleton_self _)) fun _ _ =>
      .pure _
  | .constant value type, position => by
    rw [Expr.render]
    exact .bind (RenderContext.missesOnly_literal value) fun _ _ => .pure _
  | .binary op left right, position => by
    have first : ∀ position, MissesOnly ((Part.expr (.binary op left right)).RefersBeyond ctx)
        (left.render ctx below position) :=
      fun position => (misses.render left position).of_child List.mem_cons_self
    have second : ∀ position, MissesOnly ((Part.expr (.binary op left right)).RefersBeyond ctx)
        (right.render ctx below position) :=
      fun position => (misses.render right position).of_child
        (List.mem_cons_of_mem _ List.mem_cons_self)
    rw [Expr.render]
    split
    · exact .ok _
    by_cases joined : op = .coalesce
    · rw [if_pos joined]
      exact .bind (first .whole) fun _ _ => .bind (second .whole) fun _ _ =>
        .bind (.pure _) fun _ _ => .pure _
    rw [if_neg joined]
    split
    next =>
      -- The expansion is rendered in place of the comparison, one level below.
      refine .bind (missesOnly_recordComparison op _ _) fun comparison compared =>
        .bind ?_ fun _ _ => .pure _
      exact (misses.expr comparison).mono fun _ beyond =>
        ⟨beyond.1.of_recordComparison compared, beyond.2⟩
    next =>
      exact .bind op.missesOnly_sign fun _ _ => .bind (first .operand) fun _ _ =>
        .bind (second .operand) fun _ _ => .bind (.pure _) fun _ _ => .pure _
  | .unary op operand, position => by
    have inner : ∀ position, MissesOnly ((Part.expr (.unary op operand)).RefersBeyond ctx)
        (operand.render ctx below position) :=
      fun position => (misses.render operand position).of_child (List.mem_singleton_self _)
    by_cases hoisted : (Expr.unary op operand).isHoisted = true
    · cases op <;> rw [Expr.render, if_pos hoisted] <;> exact .ok _
    cases op with
    | not =>
      rw [Expr.render, if_neg hoisted]
      split
      · exact .bind (inner .whole) fun _ _ => .pure _
      · exact .bind (inner .operand) fun _ _ => .pure _
    | negate =>
      rw [Expr.render, if_neg hoisted]
      exact .bind (inner .operand) fun _ _ => .pure _
    | convert type =>
      rw [Expr.render, if_neg hoisted]
      exact inner .whole
  | .conditional test ifTrue ifFalse, position => by
    rw [Expr.render]
    split
    · exact .ok _
    · refine .bind ((misses.render test .whole).of_child ?_) fun _ _ =>
        .bind ((misses.render ifTrue .whole).of_child ?_) fun _ _ =>
          .bind ((misses.render ifFalse .whole).of_child ?_) fun _ _ => .pure _
      all_goals simp [Part.children, Expr.children]
  | .function name args type, position => by
    rw [Expr.render]
    refine .bind (misses.renderList args fun expr member => ?_) fun _ _ => .pure _
    exact (Part.Contains.refl _).of_child (List.mem_map_of_mem member)
  | .fragment sql type, position => .ok _
  | .cast expr sqlType type, position => by
    rw [Expr.render]
    exact .bind ((misses.render expr .whole).of_child (List.mem_singleton_self _)) fun _ _ =>
      .pure _
  | .exists select, position => by
    rw [Expr.render]
    exact .bind ((misses.subquery _ select).of_child (List.mem_singleton_self _)) fun _ _ => .pure _
  | .isIn value values, position => by
    rw [Expr.render]
    exact .bind ((misses.render value .whole).of_child List.mem_cons_self) fun _ _ =>
      .bind ((misses.renderValues values).of_child (List.mem_cons_of_mem _ List.mem_cons_self))
        fun _ _ => .pure _
  | .aggregate function arg distinct type, position => by
    rw [Expr.render]
    exact .bind ((misses.render arg .whole).of_child (List.mem_singleton_self _)) fun _ _ =>
      .pure _
  | .subquery kind select type, position => by
    rw [Expr.render]
    exact (misses.subquery _ select).of_child (List.mem_singleton_self _)
  | .input .., position | .record _, position | .array .., position | .member .., position
  | .parameter .., position | .defaultIfEmpty .., position => by
    simp only [Expr.render]
    split
    · exact .ok _
    · exact nofun

theorem Below.MissesReferred.renderList (misses : below.MissesReferred ctx) :
    ∀ (exprs : List Expr) {part : Part}, (∀ expr ∈ exprs, part.Contains (.expr expr)) →
      MissesOnly (part.RefersBeyond ctx) (Expr.renderList ctx below exprs)
  | [], _, _ => .ok _
  | expr :: rest, part, within => by
    rw [Expr.renderList]
    refine .bind ((misses.render expr .whole).of_contains (within expr List.mem_cons_self))
      fun _ _ => .bind (misses.renderList rest ?_) fun _ _ => .pure _
    intro other member
    exact within other (List.mem_cons_of_mem _ member)

/-- Rendering the values of a list fails only for unknown tables that they refer to. -/
theorem Below.MissesReferred.renderValues (misses : below.MissesReferred ctx) :
    ∀ values : InValues,
      MissesOnly ((Part.values values).RefersBeyond ctx) (values.render ctx below)
  | .subquery select => by
    rw [InValues.render]
    exact .bind ((misses.select select).of_child (List.mem_singleton_self _)) fun _ _ => .pure _
  | .list [] => .ok _
  | .list (expr :: rest) => by
    simp only [InValues.render]
    refine .bind (misses.renderList (expr :: rest) fun other member => ?_) fun _ _ => .pure _
    exact (Part.Contains.refl _).of_child (List.mem_map_of_mem member)
  | .constants values => by
    rw [InValues.render]
    unfold RenderContext.literals
    split
    · exact .ok _
    · exact .bind (.mapM fun value _ => RenderContext.missesOnly_literal value) fun _ _ => .pure _
  | .dynamic expr => by
    rw [InValues.render]
    split
    · exact .ok _
    · exact nofun

end

theorem Below.MissesReferred.renderItem (misses : below.MissesReferred ctx) (expr : Expr) :
    MissesOnly ((Part.expr expr).RefersBeyond ctx) (expr.renderItem ctx below) := by
  refine .bind (misses.render expr .whole) fun _ _ => ?_
  split <;> exact .pure _

theorem Below.MissesReferred.renderColumns (misses : below.MissesReferred ctx) (outermost : Bool)
    {columns : List Column} {part : Part}
    (within : ∀ column ∈ columns, part.Contains (.expr column.expr)) :
    MissesOnly (part.RefersBeyond ctx) (SqlLowering.renderColumns ctx below outermost columns) := by
  unfold SqlLowering.renderColumns
  split
  · exact .ok _
  refine .bind (.mapM fun column member => ?_) fun _ _ => .pure _
  refine .bind ((misses.renderItem column.expr).of_contains (within column member)) fun _ _ => ?_
  dsimp only
  split <;> exact .pure _

theorem RenderContext.missesOnly_aliased {table : Table} {id : TableId} {preferred : String}
    (identity : table.identity? = some (id, preferred)) (script : Script) :
    MissesOnly ((Part.table table).RefersBeyond ctx) (ctx.aliased id script) := by
  have refers : (Part.table table).reference? = some id := by rw [Part.reference?, identity]; rfl
  exact .bind (RenderContext.missesOnly_tableName refers) fun _ _ => .pure _

/-- Rendering a table fails only for unknown tables that it refers to. -/
theorem Below.MissesReferred.renderTable (misses : below.MissesReferred ctx) :
    ∀ table : Table, MissesOnly ((Part.table table).RefersBeyond ctx) (table.render ctx below)
  | .base id schema name preferred => by
    rw [Table.render]
    exact RenderContext.missesOnly_aliased rfl _
  | .subquery id preferred select => by
    rw [Table.render]
    exact .bind ((misses.subquery _ select).of_child (List.mem_singleton_self _)) fun _ _ =>
      RenderContext.missesOnly_aliased rfl _
  | .setOperation id preferred op left right => by
    rw [Table.render]
    exact .bind ((misses.select left).of_child List.mem_cons_self) fun _ _ =>
      .bind ((misses.select right).of_child (List.mem_cons_of_mem _ List.mem_cons_self)) fun _ _ =>
        RenderContext.missesOnly_aliased rfl _
  | .join kind outer inner predicate => by
    rw [Table.render]
    refine .bind ((misses.renderTable outer).of_child ?_) fun _ _ =>
      .bind ((misses.renderTable inner).of_child ?_) fun _ _ =>
        .bind ((misses.render predicate .whole).of_child ?_) fun _ _ => .pure _
    all_goals simp [Part.children, Table.children]
  | .cross kind outer inner => by
    rw [Table.render]
    exact .bind ((misses.renderTable outer).of_child List.mem_cons_self) fun _ _ =>
      .bind ((misses.renderTable inner).of_child (List.mem_cons_of_mem _ List.mem_cons_self))
        fun _ _ => .pure _

theorem Below.MissesReferred.renderTerm (misses : below.MissesReferred ctx) (expr : Expr)
    (descending : Bool) :
    MissesOnly ((Part.expr expr).RefersBeyond ctx)
      (SqlLowering.renderTerm ctx below expr descending) :=
  .bind (misses.renderItem expr) fun _ _ => .pure _

theorem Below.MissesReferred.renderOrdering (misses : below.MissesReferred ctx) :
    ∀ ordering : OrderBy,
      MissesOnly ((Part.ordering ordering).RefersBeyond ctx) (ordering.render ctx below)
  | .term expr descending => by
    rw [OrderBy.render]
    exact (misses.renderTerm expr descending).of_child (List.mem_singleton_self _)
  | .andThen previous expr descending => by
    rw [OrderBy.render]
    exact .bind ((misses.renderOrdering previous).of_child List.mem_cons_self) fun _ _ =>
      .bind ((misses.renderTerm expr descending).of_child
        (List.mem_cons_of_mem _ List.mem_cons_self)) fun _ _ => .pure _

theorem MissesOnly.renderClause {tables : TableId → Prop} {keyword : String}
    {render : α → Except LowerError Script} {body : Option α}
    (misses : ∀ a, body = some a → MissesOnly tables (render a)) :
    MissesOnly tables (SqlLowering.renderClause keyword render body) := by
  cases body with
  | none => exact .ok _
  | some a => exact .bind (misses a rfl) fun _ _ => .pure _

theorem Below.MissesReferred.renderGrouping (misses : below.MissesReferred ctx) (key : Expr) :
    MissesOnly ((Part.expr key).RefersBeyond ctx) (SqlLowering.renderGrouping ctx below key) := by
  refine .bind key.missesOnly_groupingKeys fun keys found => ?_
  refine .bind (.mapM fun expr member => ?_) fun _ _ => .pure _
  exact (misses.renderItem expr).of_contains (Expr.contains_of_groupingKeys found member)

section Paging

variable {tables : TableId → Prop} {offset limit : Option Expr}

theorem missesOnly_renderTop {placement : LimitPlacement}
    (misses : ∀ expr, limit = some expr → MissesOnly tables (expr.render ctx below .whole)) :
    MissesOnly tables (renderTop ctx below placement limit) := by
  cases limit with
  | none => exact .ok _
  | some expr =>
    rw [renderTop]
    split
    · exact .bind (misses expr rfl) fun _ _ => .pure _
    · exact .ok _

/-- Rendering an offset and a limit fails only for tables that one of them fails for. -/
theorem missesOnly_renderPaging {placement : LimitPlacement} {ordered : Bool}
    (missesOffset : ∀ expr, offset = some expr → MissesOnly tables (expr.render ctx below .whole))
    (missesLimit : ∀ expr, limit = some expr → MissesOnly tables (expr.render ctx below .whole)) :
    MissesOnly tables (renderPaging ctx below placement ordered offset limit) := by
  unfold renderPaging
  split
  · exact .ok _
  · exact .ok _
  next skipped =>
    refine .bind (missesOffset skipped rfl) fun _ _ => ?_
    cases limit with
    | none => exact .bind (.pure _) fun _ _ => .pure _
    | some expr =>
      exact .bind (missesLimit expr rfl) fun _ _ => .bind (.pure _) fun _ _ => .pure _
  · exact .bind (.renderClause missesLimit) fun _ _ =>
      .bind (.renderClause missesOffset) fun _ _ => .pure _

end Paging

/-- Rendering a select fails only for unknown tables that it refers to. -/
theorem Below.MissesReferred.renderSelect (misses : below.MissesReferred ctx) (outermost : Bool)
    (select : Select) :
    MissesOnly ((Part.select select).RefersBeyond ctx) (select.render ctx below outermost) := by
  have clause : ∀ {part : Part}, part ∈ select.clauses →
      part ∈ (Part.select select).children := by
    intro part member
    exact List.mem_cons_of_mem _ (List.mem_append_right _ member)
  have limits : ∀ expr, select.limit = some expr →
      MissesOnly ((Part.select select).RefersBeyond ctx) (expr.render ctx below .whole) := by
    intro expr same
    exact (misses.render expr .whole).of_child (clause (by simp [Select.clauses, same]))
  have offsets : ∀ expr, select.offset = some expr →
      MissesOnly ((Part.select select).RefersBeyond ctx) (expr.render ctx below .whole) := by
    intro expr same
    exact (misses.render expr .whole).of_child (clause (by simp [Select.clauses, same]))
  unfold Select.render
  refine .bind (missesOnly_renderTop limits) fun _ _ =>
    .bind select.projection.missesOnly_flatten fun flattened found =>
    .bind (misses.renderColumns outermost ?_) fun _ _ =>
    .bind (.renderClause ?_) fun _ _ => .bind (.renderClause ?_) fun _ _ =>
    .bind (.renderClause ?_) fun _ _ => .bind (.renderClause ?_) fun _ _ =>
    .bind (missesOnly_renderPaging offsets limits) fun _ _ => .pure _
  · intro column member
    exact (Projection.contains_of_flatten found member).of_child List.mem_cons_self
  · intro table same
    exact (misses.renderTable table).of_child (clause (by simp [Select.clauses, same]))
  · intro predicate same
    exact (misses.render predicate .whole).of_child (clause (by simp [Select.clauses, same]))
  · intro key same
    refine (misses.renderGrouping key).of_child ?_
    simp [Part.children, Select.children, same]
  · intro ordering same
    exact (misses.renderOrdering ordering).of_child (clause (by simp [Select.clauses, same]))

/-- The renderers of all levels ask only for tables that are referred to. -/
theorem Below.missesReferred_level (ctx : RenderContext) (levels : Nat) :
    (Below.level ctx levels).MissesReferred ctx := by
  induction levels with
  | zero => exact ⟨fun _ => nofun, fun _ => nofun⟩
  | succ n ih => exact ⟨fun expr => ih.render expr .whole, ih.renderSelect false⟩

/-- A query asks only for tables that it refers to. -/
theorem Select.missesOnly_script (dialect : Dialect) (select : Select) :
    MissesOnly ((Part.select select).RefersBeyond ⟨dialect, select.declarations⟩)
      (select.script dialect) :=
  (Below.missesReferred_level _ select.depth).renderSelect true select

end Rendering

/-! ## Queries that fail for an unknown table -/

/-- A select has a column of a table, at any depth. -/
def Select.HasColumnOf (select : Select) (id : TableId) : Prop :=
  ∃ name type, (Part.select select).Contains (.expr (.column id name type))

/-- A table of an identity stands in a select, at any depth. -/
def Select.Declares (select : Select) (id : TableId) : Prop :=
  ∃ table preferred, (Part.select select).Contains (.table table) ∧
    table.identity? = some (id, preferred)

/-- A declared table has an alias to go by. -/
theorem Select.Declares.exists_lookup {select : Select} {id : TableId}
    (declares : select.Declares id) :
    ∃ preferred, select.declarations.lookup id = some preferred := by
  obtain ⟨table, preferred, contains, own⟩ := declares
  have listed : (id, preferred) ∈ select.declarations :=
    Part.mem_declarations_of_contains contains own
  cases found : select.declarations.lookup id with
  | some chosen => exact ⟨chosen, rfl⟩
  | none =>
    have other := List.lookup_eq_none_iff.1 found _ listed
    simp at other

/-- What a select refers to is a table of it, or it has a column of it. -/
theorem Part.Refers.cases_select {select : Select} {id : TableId}
    (refers : (Part.select select).Refers id) : select.HasColumnOf id ∨ select.Declares id := by
  obtain ⟨inner, contains, same⟩ := refers
  unfold Part.reference? at same
  split at same
  · cases same
    exact .inl ⟨_, _, contains⟩
  next table =>
    obtain ⟨⟨own, preferred⟩, identity, rfl⟩ := Option.map_eq_some_iff.1 same
    exact .inr ⟨table, preferred, contains, identity⟩
  · cases same

/-- A query fails for an unknown table only if it has a column of that table and declares the table
nowhere. So a query that declares the tables of its columns does not fail so, and a table of the
query can always be given an alias. -/
theorem Select.lower_unknownTable (dialect : Dialect) (indentWidth : Nat) (select : Select) :
    (∀ id, select.lower dialect indentWidth = .error (.unknownTable id) →
        select.HasColumnOf id ∧ ¬select.Declares id) ∧
      ((∀ id, select.HasColumnOf id → select.Declares id) →
        ∀ id, select.lower dialect indentWidth ≠ .error (.unknownTable id)) ∧
      ∀ id, select.Declares id → ∀ body, ∃ script,
        RenderContext.aliased ⟨dialect, select.declarations⟩ id body = .ok script := by
  have fails : ∀ id, select.lower dialect indentWidth = .error (.unknownTable id) →
      select.HasColumnOf id ∧ ¬select.Declares id := by
    intro id failed
    have misses : MissesOnly ((Part.select select).RefersBeyond ⟨dialect, select.declarations⟩)
        (select.lower dialect indentWidth) :=
      .bind (select.missesOnly_script dialect) fun _ _ =>
        .bind select.projection.missesOnly_flatten fun _ _ => .pure _
    obtain ⟨refers, missing⟩ := misses id failed
    have undeclared : ¬select.Declares id := by
      intro declares
      obtain ⟨preferred, found⟩ := declares.exists_lookup
      rw [missing] at found
      cases found
    exact ⟨refers.cases_select.resolve_right undeclared, undeclared⟩
  refine ⟨fails, ?_, ?_⟩
  · intro declared id failed
    obtain ⟨column, undeclared⟩ := fails id failed
    exact undeclared (declared id column)
  · intro id declares body
    obtain ⟨preferred, found⟩ := declares.exists_lookup
    refine ⟨body ++ Script.text " AS " ++ Script.tableName id preferred, ?_⟩
    simp only [RenderContext.aliased, RenderContext.tableName, found]
    rfl

/-- The numbers of a table for which a nested select compares a pair of columns with a pair that has
a column of another table. -/
def Select.pairedWith (other : TableId) : Select where
  projection := .server (.column ⟨0⟩ "A" .int32)
  table := some (.base ⟨0⟩ "dbo" "T" "t")
  predicate := some (.exists {
    projection := .server (.constant (.int 1) .int32)
    table := some (.base ⟨1⟩ "dbo" "U" "u")
    predicate := some (.binary .equal
      (.record [("a", .column ⟨0⟩ "A" .int32), ("b", .column ⟨1⟩ "B" .int32)])
      (.record [("a", .column ⟨1⟩ "A" .int32), ("b", .column other "B" .int32)]))
    grouping := none
    ordering := none
    offset := none
    limit := none
    distinct := false })
  grouping := none
  ordering := none
  offset := none
  limit := none
  distinct := false

theorem Select.lower_pairedWith_stray :
    (Select.pairedWith ⟨9⟩).lower .sqlServer 4 = .error (.unknownTable ⟨9⟩) ∧
      (Select.pairedWith ⟨9⟩).HasColumnOf ⟨9⟩ ∧ ¬(Select.pairedWith ⟨9⟩).Declares ⟨9⟩ := by
  have failed : (Select.pairedWith ⟨9⟩).lower .sqlServer 4 = .error (.unknownTable ⟨9⟩) := rfl
  exact ⟨failed, (Select.lower_unknownTable .sqlServer 4 _).1 _ failed⟩

end SqlLowering
