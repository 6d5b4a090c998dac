import Mathlib.Data.List.Forall2
import SqlLowering.Lowering.Basic
import SqlLowering.Proofs.Outcome

/-!
# Rendering as a grammar

What a successful rendering can have done, said once. A script is derived like a sentence of a
grammar: a node of a query is replaced by a form, pieces with the nodes in between that are still to
be written (`Node.Produces`, one rule for each way to write a node), until only pieces are left
(`Renders`). Nested selects and the expansions of record comparisons are nodes like all others, so
facts about whole scripts are plain inductions over one relation; `Select.renders_of_script` gives
the derivation of every script.
-/

namespace SqlLowering

/-- A part of a query that is written at its place. -/
inductive Node where
  | expr (position : Position) (expr : Expr)
  | values (values : InValues)
  | table (table : Table)
  | ordering (ordering : OrderBy)
  | select (outermost : Bool) (select : Select)

/-- What stands in a form: a piece as it is written, or a node in the place of what it is rendered
to. -/
inductive Symbol where
  | piece (piece : Piece)
  | node (node : Node)

/-- A script in which some nodes are still to be written. -/
abbrev Form := List Symbol

/-! ## Forms

Each way to put scripts together has its counterpart for forms, under the same name. -/

namespace Form

/-- A script as it stands. -/
def script (script : Script) : Form :=
  script.map .piece

/-- A text as it is. -/
def text (sql : String) : Form :=
  script (.text sql)

/-- A node by itself. -/
def node (node : Node) : Form :=
  [.node node]

/-- An expression where it needs no brackets. -/
def whole (expr : Expr) : Form :=
  node (.expr .whole expr)

/-- An expression as an operand. -/
def operand (expr : Expr) : Form :=
  node (.expr .operand expr)

/-- A form on lines of its own, one level further in. -/
def block (body : Form) : Form :=
  script [.edit .indent, .edit .newline] ++ body ++ script [.edit .dedent, .edit .newline]

/-- Forms with a separator between each two of them. -/
def separated (separator : String) : List Form → Form
  | [] => []
  | [form] => form
  | form :: rest => form ++ text separator ++ separated separator rest

/-- The parentheses of a binary expression as an operand. -/
def around : Position → Form → Form
  | .whole, body => body
  | .operand, body => text "(" ++ body ++ text ")"

/-- A select in brackets, as rows or as one document. -/
def subquery (ctx : RenderContext) (asDocument : Bool) (select : Select) : Form :=
  text "(" ++
    block (node (.select false select) ++
      script (if asDocument then .newline ++ .text ctx.dialect.subDocumentDirective else [])) ++
    text ")"

/-- An expression as a value in a list: a condition becomes one or zero, unless it stands as a value
already. -/
def item (expr : Expr) : Form :=
  if expr.type.isBoolean && !expr.isListed then
    text "(CASE WHEN " ++ whole expr ++ text " THEN 1 ELSE 0 END)"
  else
    whole expr

/-- A column of a select. The outermost select converts truth values to the type they are stored in.
-/
def column (ctx : RenderContext) (outermost : Bool) (column : Column) : Form :=
  let stored :=
    if outermost && column.expr.type.isBoolean && !column.expr.isStored then
      text "CAST(" ++ item column.expr ++
        text (" AS " ++ ctx.dialect.booleanStorageType ++ ")")
    else item column.expr
  if column.name.isEmpty then stored
  else stored ++ text " AS " ++ script (ctx.identifier column.name)

/-- The columns of a select, or the constant one if there are none. -/
def columns (ctx : RenderContext) (outermost : Bool) (columns : List Column) : Form :=
  if columns.isEmpty then text "1" else separated ", " (columns.map (column ctx outermost))

/-- A table under its alias. -/
def named (id : TableId) (preferred : String) (table : Form) : Form :=
  table ++ text " AS " ++ script (.tableName id preferred)

/-- One term of an ordering. -/
def term (expr : Expr) (descending : Bool) : Form :=
  item expr ++ text (if descending then " DESC" else " ASC")

/-- A clause on a line of its own, if there is anything in it. -/
def clause (keyword : String) : Option Form → Form
  | none => []
  | some body => script .newline ++ text (keyword ++ " ") ++ body

/-- The limit in front of the columns, where the dialect says it there. -/
def top (placement : LimitPlacement) : Option Expr → Form
  | some limit =>
    if placement = .top then text "TOP (" ++ whole limit ++ text ") " else []
  | none => []

/-- An offset, with a limit behind it if there is one. It needs an ordering, which is made up if
there is none. -/
def fetch (ctx : RenderContext) (ordered : Bool) (offset : Expr) (limit : Option Expr) : Form :=
  script (if ordered then []
    else .newline ++ .text ("ORDER BY " ++ ctx.dialect.constantOrdering)) ++
    script .newline ++ text "OFFSET " ++ whole offset ++ text " ROWS" ++
    match limit with
    | none => []
    | some limit => text " FETCH NEXT " ++ whole limit ++ text " ROWS ONLY"

/-- The offset and the limit at the end of a select, where the dialect says them there. -/
def paging (ctx : RenderContext) (placement : LimitPlacement) (ordered : Bool)
    (offset limit : Option Expr) : Form :=
  match placement, offset with
  | .top, _ | .offsetFetch, none => []
  | .offsetFetch, some offset => fetch ctx ordered offset limit
  | .limitOffset, offset => clause "LIMIT" (limit.map whole) ++ clause "OFFSET" (offset.map whole)

/-- A select with its columns and the keys of its grouping. -/
def select (ctx : RenderContext) (outermost : Bool) (select : Select) (items : List Column)
    (keys : List Expr) : Form :=
  let placement := ctx.dialect.limitPlacement select.offset.isSome
  text (if select.distinct then "SELECT DISTINCT " else "SELECT ") ++ top placement select.limit ++
    columns ctx outermost items ++
    clause "FROM" (select.table.map fun table => node (.table table)) ++
    clause "WHERE" (select.predicate.map whole) ++
    clause "GROUP BY" (select.grouping.map fun _ => separated ", " (keys.map item)) ++
    clause "ORDER BY" (select.ordering.map fun ordering => node (.ordering ordering)) ++
    paging ctx placement select.ordering.isSome select.offset select.limit

end Form

/-! ## The rules -/

/-- Whether an expression is bound as a parameter at a position. A binary one is taken apart as an
operand, even if it depends on inputs only. -/
def Expr.isBoundAt (position : Position) : Expr → Bool
  | .binary op left right => position = .whole && (Expr.binary op left right).isHoisted
  | expr => expr.isHoisted

theorem Expr.isHoisted_of_isBoundAt {position : Position} {expr : Expr}
    (bound : expr.isBoundAt position = true) : expr.isHoisted = true := by
  cases expr with
  | binary op left right =>
    rw [Expr.isBoundAt, Bool.and_eq_true] at bound
    exact bound.2
  | _ => exact bound

/-- The ways to write a node, with what is left to be written. -/
inductive Node.Produces (ctx : RenderContext) : Node → Form → Prop
  | column {position : Position} {table : TableId} {name preferred : String} {type : DataType} :
    ctx.tables.lookup table = some preferred →
    Node.Produces ctx (.expr position (.column table name type))
      (.script (.tableName table preferred ++ .text "." ++ ctx.identifier name))
  | aliased {position : Position} {expr : Expr} {name : String} :
    Node.Produces ctx (.expr position (.aliased expr name))
      (.whole expr ++ .text " AS " ++ .script (ctx.identifier name))
  | constant {position : Position} {value : Value} {type : DataType} {sql : String} :
    ctx.literal value = .ok sql →
    Node.Produces ctx (.expr position (.constant value type)) (.text sql)
  | hoisted {position : Position} {expr : Expr} :
    expr.isBoundAt position = true →
    Node.Produces ctx (.expr position expr) (.script (.parameter expr))
  | coalesce {position : Position} {left right : Expr} :
    (Expr.binary .coalesce left right).isBoundAt position = false →
    Node.Produces ctx (.expr position (.binary .coalesce left right))
      (.around position (.text "COALESCE(" ++ .whole left ++ .text ", " ++ .whole right ++
        .text ")"))
  | records {position : Position} {op : BinaryOp} {left right : List (String × Expr)}
      {comparison : Expr} :
    op.comparesRecords = true → recordComparison op left right = .ok comparison →
    (Expr.binary op (.record left) (.record right)).isBoundAt position = false →
    Node.Produces ctx (.expr position (.binary op (.record left) (.record right)))
      (.around position (.whole comparison))
  | sign {position : Position} {op : BinaryOp} {left right : Expr} {sign : String} :
    op.sign = .ok sign →
    (∀ ls rs, op.comparesRecords = true → left = .record ls → right = .record rs → False) →
    (Expr.binary op left right).isBoundAt position = false →
    Node.Produces ctx (.expr position (.binary op left right))
      (.around position (.operand left ++ .text (" " ++ sign ++ " ") ++ .operand right))
  | notTest {position : Position} {operand : Expr} :
    operand.takesNot = true → (Expr.unary .not operand).isHoisted = false →
    Node.Produces ctx (.expr position (.unary .not operand)) (.text "NOT " ++ .whole operand)
  | notValue {position : Position} {operand : Expr} :
    operand.takesNot = false → (Expr.unary .not operand).isHoisted = false →
    Node.Produces ctx (.expr position (.unary .not operand)) (.text "0 = " ++ .operand operand)
  | negate {position : Position} {operand : Expr} :
    (Expr.unary .negate operand).isHoisted = false →
    Node.Produces ctx (.expr position (.unary .negate operand)) (.text "-" ++ .operand operand)
  | convert {position : Position} {type : DataType} {operand : Expr} :
    (Expr.unary (.convert type) operand).isHoisted = false →
    Node.Produces ctx (.expr position (.unary (.convert type) operand)) (.whole operand)
  | conditional {position : Position} {test ifTrue ifFalse : Expr} :
    (Expr.conditional test ifTrue ifFalse).isHoisted = false →
    Node.Produces ctx (.expr position (.conditional test ifTrue ifFalse))
      (.text "(CASE WHEN " ++ .whole test ++ .text " THEN " ++ .whole ifTrue ++ .text " ELSE " ++
        .whole ifFalse ++ .text " END)")
  | function {position : Position} {name : String} {args : List Expr} {type : DataType} :
    Node.Produces ctx (.expr position (.function name args type))
      (.text (name ++ "(") ++ .separated ", " (args.map .whole) ++ .text ")")
  | fragment {position : Position} {sql : String} {type : DataType} :
    Node.Produces ctx (.expr position (.fragment sql type)) (.text sql)
  | cast {position : Position} {expr : Expr} {sqlType : String} {type : DataType} :
    Node.Produces ctx (.expr position (.cast expr sqlType type))
      (.text "CAST(" ++ .whole expr ++ .text (" AS " ++ sqlType ++ ")"))
  | exists {position : Position} {select : Select} :
    Node.Produces ctx (.expr position (.exists select))
      (.text "EXISTS " ++ .subquery ctx false select)
  | isIn {position : Position} {value : Expr} {values : InValues} :
    Node.Produces ctx (.expr position (.isIn value values))
      (.whole value ++ .text " IN (" ++ .node (.values values) ++ .text ")")
  | aggregate {position : Position} {function : String} {arg : Expr} {distinct : Bool}
      {type : DataType} :
    Node.Produces ctx (.expr position (.aggregate function arg distinct type))
      (.text (function ++ "(" ++ if distinct then "DISTINCT " else "") ++ .whole arg ++ .text ")")
  | subquery {position : Position} {kind : SubqueryKind} {select : Select} {type : DataType} :
    Node.Produces ctx (.expr position (.subquery kind select type))
      (.subquery ctx (kind.isDocument type) select)
  | valuesSubquery {select : Select} :
    Node.Produces ctx (.values (.subquery select)) (.block (.node (.select false select)))
  | noValues : Node.Produces ctx (.values (.list [])) (.script ctx.emptyList)
  | valuesList {elements : List Expr} :
    elements ≠ [] →
    Node.Produces ctx (.values (.list elements)) (.separated ", " (elements.map .whole))
  | valuesConstants {constants : List Value} {literals : Script} :
    ctx.literals constants = .ok literals →
    Node.Produces ctx (.values (.constants constants)) (.script literals)
  | valuesDynamic {source : Expr} :
    source.isParameterizable = true →
    Node.Produces ctx (.values (.dynamic source)) (.script (.list source))
  | base {id : TableId} {schema name own preferred : String} :
    ctx.tables.lookup id = some preferred →
    Node.Produces ctx (.table (.base id schema name own))
      (.named id preferred
        (.script (if schema.isEmpty then [] else ctx.identifier schema ++ Script.text ".") ++
          .script (ctx.identifier name)))
  | derived {id : TableId} {own preferred : String} {select : Select} :
    ctx.tables.lookup id = some preferred →
    Node.Produces ctx (.table (.subquery id own select))
      (.named id preferred (.subquery ctx false select))
  | setOperation {id : TableId} {own preferred : String} {op : SetOperator} {left right : Select} :
    ctx.tables.lookup id = some preferred →
    Node.Produces ctx (.table (.setOperation id own op left right))
      (.named id preferred (.text "(" ++
        .block (.node (.select false left) ++
          .script (.newline ++ .text op.keyword ++ .newline) ++ .node (.select false right)) ++
        .text ")"))
  | join {kind : JoinKind} {outer inner : Table} {predicate : Expr} :
    Node.Produces ctx (.table (.join kind outer inner predicate))
      (.node (.table outer) ++ .script .newline ++ .text (kind.keyword ++ " ") ++
        .node (.table inner) ++ .text " ON " ++ .whole predicate)
  | cross {kind : CrossKind} {outer inner : Table} :
    Node.Produces ctx (.table (.cross kind outer inner))
      (.node (.table outer) ++ .script .newline ++ .text (kind.keyword ++ " ") ++
        .node (.table inner))
  | term {expr : Expr} {descending : Bool} :
    Node.Produces ctx (.ordering (.term expr descending)) (.term expr descending)
  | andThen {previous : OrderBy} {expr : Expr} {descending : Bool} :
    Node.Produces ctx (.ordering (.andThen previous expr descending))
      (.node (.ordering previous) ++ .text ", " ++ .term expr descending)
  | select {outermost : Bool} {select : Select} {columns : List Column} {plan : Plan}
      {keys : List Expr} :
    select.projection.flatten = .ok (columns, plan) →
    (∀ key, select.grouping = some key → key.groupingKeys = .ok keys) →
    Node.Produces ctx (.select outermost select) (.select ctx outermost select columns keys)

/-- The scripts of a form: each node is replaced by a script of a form that it produces. -/
inductive Renders (ctx : RenderContext) : Form → Script → Prop
  | nil : Renders ctx [] []
  | piece {form : Form} {rest : Script} (piece : Piece) :
    Renders ctx form rest → Renders ctx (.piece piece :: form) (piece :: rest)
  | node {node : Node} {produced form : Form} {first rest : Script} :
    node.Produces ctx produced → Renders ctx produced first → Renders ctx form rest →
    Renders ctx (.node node :: form) (first ++ rest)

/-! ## Derivations of forms -/

section Renders

variable {ctx : RenderContext}

namespace Renders

variable {form form' : Form} {first second : Script}

theorem append (renders : Renders ctx form first) (renders' : Renders ctx form' second) :
    Renders ctx (form ++ form') (first ++ second) := by
  induction renders with
  | nil => exact renders'
  | piece piece _ ih => exact .piece piece ih
  | node produces produced _ _ ih =>
    rw [List.append_assoc]
    exact .node produces produced ih

theorem of_produces {node : Node} {produced : Form} {script : Script}
    (produces : node.Produces ctx produced) (renders : Renders ctx produced script) :
    Renders ctx (.node node) script := by
  have derived := Renders.node produces renders .nil
  rwa [List.append_nil] at derived

theorem script (script : Script) : Renders ctx (.script script) script := by
  induction script with
  | nil => exact .nil
  | cons piece rest ih => exact .piece piece ih

theorem text (sql : String) : Renders ctx (.text sql) (.text sql) :=
  script _

theorem block (renders : Renders ctx form first) : Renders ctx (.block form) (.block first) :=
  ((script _).append renders).append (script _)

theorem around (position : Position) (renders : Renders ctx form first) :
    Renders ctx (.around position form) (match position with
      | .whole => first
      | .operand => Script.text "(" ++ first ++ Script.text ")") := by
  cases position with
  | whole => exact renders
  | operand => exact ((text "(").append renders).append (text ")")

theorem separated (separator : String) {forms : List Form} {scripts : List Script}
    (renders : List.Forall₂ (Renders ctx) forms scripts) :
    Renders ctx (.separated separator forms) (.separated separator scripts) := by
  induction renders with
  | nil => exact .nil
  | cons first rest ih =>
    cases rest with
    | nil => exact first
    | cons _ _ => exact (first.append (text separator)).append ih

end Renders

/-! ## Every rendering has a derivation -/

/-- The scripts of a renderer are derived. -/
structure Below.Sound (ctx : RenderContext) (below : Below) : Prop where
  expr : ∀ {expr : Expr} {script : Script},
    below.expr expr = .ok script → Renders ctx (.whole expr) script
  select : ∀ {select : Select} {script : Script},
    below.select select = .ok script → Renders ctx (.node (.select false select)) script

variable {below : Below}

theorem RenderContext.tableName_eq_ok {id : TableId} {script : Script}
    (rendered : ctx.tableName id = .ok script) :
    ∃ preferred, ctx.tables.lookup id = some preferred ∧ script = .tableName id preferred := by
  unfold RenderContext.tableName at rendered
  split at rendered
  next preferred found =>
    cases rendered
    exact ⟨preferred, found, rfl⟩
  · cases rendered

theorem Below.Sound.subquery (sound : below.Sound ctx) {asDocument : Bool} {select : Select}
    {script : Script} (rendered : renderSubquery ctx below asDocument select = .ok script) :
    Renders ctx (.subquery ctx asDocument select) script := by
  simp only [renderSubquery, Except.bind_eq_ok, Except.pure_eq_ok] at rendered
  obtain ⟨body, bodyRendered, rfl⟩ := rendered
  exact ((Renders.text "(").append ((sound.select bodyRendered).append (.script _)).block).append
    (.text ")")

mutual

/-- The script of an expression is derived. -/
theorem Below.Sound.renders (sound : below.Sound ctx) :
    ∀ (expr : Expr) {position : Position} {script : Script},
      expr.render ctx below position = .ok script →
      Renders ctx (.node (.expr position expr)) script
  | .column table name type, position, script, rendered => by
    simp only [Expr.render, Except.bind_eq_ok, Except.pure_eq_ok] at rendered
    obtain ⟨named, found, rfl⟩ := rendered
    obtain ⟨preferred, declared, rfl⟩ := RenderContext.tableName_eq_ok found
    exact .of_produces (.column declared) (.script _)
  | .aliased expr name, position, script, rendered => by
    simp only [Expr.render, Except.bind_eq_ok, Except.pure_eq_ok] at rendered
    obtain ⟨inner, innerRendered, rfl⟩ := rendered
    exact .of_produces .aliased (((sound.renders expr innerRendered).append (.text _)).append
      (.script _))
  | .constant value type, position, script, rendered => by
    simp only [Expr.render, Except.bind_eq_ok, Except.pure_eq_ok] at rendered
    obtain ⟨sql, literal, rfl⟩ := rendered
    exact .of_produces (.constant literal) (.text _)
  | .binary op left right, position, script, rendered => by
    rw [Expr.render] at rendered
    by_cases hoisted : position = .whole ∧ (Expr.binary op left right).isHoisted = true
    · rw [if_pos hoisted] at rendered
      cases rendered
      have bound : (Expr.binary op left right).isBoundAt position = true := by
        simp [Expr.isBoundAt, hoisted]
      exact .of_produces (.hoisted bound) (.script _)
    rw [if_neg hoisted] at rendered
    have apart : (Expr.binary op left right).isBoundAt position = false := by
      rw [Expr.isBoundAt, Bool.and_eq_false_iff, decide_eq_false_iff_not, ← Bool.not_eq_true]
      exact not_and_or.1 hoisted
    by_cases joined : op = .coalesce
    · subst joined
      simp only [if_true, Except.bind_eq_ok, Except.pure_eq_ok] at rendered
      obtain ⟨first, leftRendered, second, rightRendered, body, rfl, rfl⟩ := rendered
      have parts := (((Renders.text "COALESCE(").append (sound.renders left leftRendered)).append
        (.text ", ")).append (sound.renders right rightRendered)
      exact .of_produces (.coalesce apart) ((parts.append (.text ")")).around position)
    rw [if_neg joined] at rendered
    split at rendered
    next compares =>
      simp only [Except.bind_eq_ok, Except.pure_eq_ok] at rendered
      obtain ⟨comparison, compared, body, bodyRendered, rfl⟩ := rendered
      exact .of_produces (.records compares compared apart)
        ((sound.expr bodyRendered).around position)
    next others =>
      simp only [Except.bind_eq_ok, Except.pure_eq_ok] at rendered
      obtain ⟨sign, signed, first, leftRendered, second, rightRendered, body, rfl, rfl⟩ := rendered
      have parts := ((sound.renders _ leftRendered).append (.text (" " ++ sign ++ " "))).append
        (sound.renders _ rightRendered)
      exact .of_produces (.sign signed others apart) (parts.around position)
  | .unary op operand, position, script, rendered => by
    by_cases hoisted : (Expr.unary op operand).isHoisted = true
    · have bound : script = .parameter (.unary op operand) := by
        cases op <;> rw [Expr.render, if_pos hoisted] at rendered <;> cases rendered <;> rfl
      rw [bound]
      exact .of_produces (.hoisted hoisted) (.script _)
    have apart : (Expr.unary op operand).isHoisted = false := by
      rwa [Bool.not_eq_true] at hoisted
    cases op with
    | not =>
      rw [Expr.render, if_neg hoisted] at rendered
      split at rendered
      next taken =>
        simp only [Except.bind_eq_ok, Except.pure_eq_ok] at rendered
        obtain ⟨inner, innerRendered, rfl⟩ := rendered
        exact .of_produces (.notTest taken apart)
          ((Renders.text "NOT ").append (sound.renders operand innerRendered))
      next refused =>
        simp only [Except.bind_eq_ok, Except.pure_eq_ok] at rendered
        obtain ⟨inner, innerRendered, rfl⟩ := rendered
        exact .of_produces (.notValue (by simpa using refused) apart)
          ((Renders.text "0 = ").append (sound.renders operand innerRendered))
    | negate =>
      rw [Expr.render, if_neg hoisted] at rendered
      simp only [Except.bind_eq_ok, Except.pure_eq_ok] at rendered
      obtain ⟨inner, innerRendered, rfl⟩ := rendered
      exact .of_produces (.negate apart) ((Renders.text "-").append
        (sound.renders operand innerRendered))
    | convert type =>
      rw [Expr.render, if_neg hoisted] at rendered
      exact .of_produces (.convert apart) (sound.renders operand rendered)
  | .conditional test ifTrue ifFalse, position, script, rendered => by
    rw [Expr.render] at rendered
    split at rendered
    next hoisted =>
      cases rendered
      exact .of_produces (.hoisted hoisted) (.script _)
    next apart =>
      rw [Bool.not_eq_true] at apart
      simp only [Except.bind_eq_ok, Except.pure_eq_ok] at rendered
      obtain ⟨condition, testRendered, first, trueRendered, second, falseRendered, rfl⟩ := rendered
      have condition := (Renders.text "(CASE WHEN ").append (sound.renders test testRendered)
      have first := (condition.append (.text " THEN ")).append (sound.renders ifTrue trueRendered)
      have second := (first.append (.text " ELSE ")).append (sound.renders ifFalse falseRendered)
      exact .of_produces (.conditional apart) (second.append (.text " END)"))
  | .function name args type, position, script, rendered => by
    simp only [Expr.render, Except.bind_eq_ok, Except.pure_eq_ok] at rendered
    obtain ⟨scripts, argsRendered, rfl⟩ := rendered
    have list := Renders.separated ", " (sound.rendersList args argsRendered)
    exact .of_produces .function (((Renders.text _).append list).append (.text ")"))
  | .fragment sql type, position, script, rendered => by
    cases rendered
    exact .of_produces .fragment (.text sql)
  | .cast expr sqlType type, position, script, rendered => by
    simp only [Expr.render, Except.bind_eq_ok, Except.pure_eq_ok] at rendered
    obtain ⟨inner, innerRendered, rfl⟩ := rendered
    have inner := (Renders.text "CAST(").append (sound.renders expr innerRendered)
    exact .of_produces .cast (inner.append (.text _))
  | .exists select, position, script, rendered => by
    simp only [Expr.render, Except.bind_eq_ok, Except.pure_eq_ok] at rendered
    obtain ⟨inner, innerRendered, rfl⟩ := rendered
    exact .of_produces .exists ((Renders.text "EXISTS ").append (sound.subquery innerRendered))
  | .isIn value values, position, script, rendered => by
    simp only [Expr.render, Except.bind_eq_ok, Except.pure_eq_ok] at rendered
    obtain ⟨tested, valueRendered, inner, valuesRendered, rfl⟩ := rendered
    have test := (sound.renders value valueRendered).append (.text " IN (")
    exact .of_produces .isIn ((test.append (sound.rendersValues values valuesRendered)).append
      (.text ")"))
  | .aggregate function arg distinct type, position, script, rendered => by
    simp only [Expr.render, Except.bind_eq_ok, Except.pure_eq_ok] at rendered
    obtain ⟨inner, innerRendered, rfl⟩ := rendered
    exact .of_produces .aggregate
      (((Renders.text _).append (sound.renders arg innerRendered)).append (.text ")"))
  | .subquery kind select type, position, script, rendered => by
    exact .of_produces .subquery (sound.subquery rendered)
  -- The nodes of the host are bound as a whole or not at all.
  | .input .., position, script, rendered
  | .record _, position, script, rendered
  | .array .., position, script, rendered
  | .member .., position, script, rendered
  | .parameter .., position, script, rendered
  | .defaultIfEmpty .., position, script, rendered => by
    simp only [Expr.render] at rendered
    split at rendered
    next hoisted =>
      cases rendered
      exact .of_produces (.hoisted hoisted) (.script _)
    · cases rendered

theorem Below.Sound.rendersList (sound : below.Sound ctx) :
    ∀ (exprs : List Expr) {scripts : List Script}, Expr.renderList ctx below exprs = .ok scripts →
      List.Forall₂ (Renders ctx) (exprs.map .whole) scripts
  | [], scripts, rendered => by
    cases rendered
    exact .nil
  | expr :: rest, scripts, rendered => by
    simp only [Expr.renderList, Except.bind_eq_ok, Except.pure_eq_ok] at rendered
    obtain ⟨first, exprRendered, others, restRendered, rfl⟩ := rendered
    exact .cons (sound.renders expr exprRendered) (sound.rendersList rest restRendered)

/-- The script of the values of a list is derived. -/
theorem Below.Sound.rendersValues (sound : below.Sound ctx) :
    ∀ (values : InValues) {script : Script}, values.render ctx below = .ok script →
      Renders ctx (.node (.values values)) script
  | .subquery select, script, rendered => by
    simp only [InValues.render, Except.bind_eq_ok, Except.pure_eq_ok] at rendered
    obtain ⟨body, bodyRendered, rfl⟩ := rendered
    exact .of_produces .valuesSubquery (sound.select bodyRendered).block
  | .list [], script, rendered => by
    cases rendered
    exact .of_produces .noValues (.script _)
  | .list (expr :: rest), script, rendered => by
    simp only [InValues.render, Except.bind_eq_ok, Except.pure_eq_ok] at rendered
    obtain ⟨scripts, listRendered, rfl⟩ := rendered
    exact .of_produces (.valuesList (List.cons_ne_nil _ _))
      (.separated ", " (sound.rendersList (expr :: rest) listRendered))
  | .constants constants, script, rendered => by
    exact .of_produces (.valuesConstants rendered) (.script _)
  | .dynamic source, script, rendered => by
    rw [InValues.render] at rendered
    split at rendered
    next parameterizable =>
      cases rendered
      exact .of_produces (.valuesDynamic parameterizable) (.script _)
    · cases rendered

end

/-- The script of an item is derived. -/
theorem Below.Sound.rendersItem (sound : below.Sound ctx) {expr : Expr} {script : Script}
    (rendered : expr.renderItem ctx below = .ok script) : Renders ctx (.item expr) script := by
  simp only [Expr.renderItem, Except.bind_eq_ok] at rendered
  obtain ⟨inner, innerRendered, rendered⟩ := rendered
  have renders := sound.renders expr innerRendered
  unfold Form.item
  split at rendered
  next test =>
    cases rendered
    rw [if_pos test]
    exact ((Renders.text "(CASE WHEN ").append renders).append (.text _)
  next other =>
    cases rendered
    rw [if_neg other]
    exact renders

/-- The script of a column is derived. -/
theorem Below.Sound.rendersColumn (sound : below.Sound ctx) {outermost : Bool} {column : Column}
    {script : Script} (rendered : column.render ctx below outermost = .ok script) :
    Renders ctx (.column ctx outermost column) script := by
  simp only [Column.render, Except.bind_eq_ok] at rendered
  obtain ⟨item, itemRendered, rendered⟩ := rendered
  have stored : Renders ctx
      (if outermost && column.expr.type.isBoolean && !column.expr.isStored then
        .text "CAST(" ++ .item column.expr ++
          .text (" AS " ++ ctx.dialect.booleanStorageType ++ ")")
      else .item column.expr)
      (if outermost && column.expr.type.isBoolean && !column.expr.isStored then
        Script.text "CAST(" ++ item ++
          Script.text (" AS " ++ ctx.dialect.booleanStorageType ++ ")")
      else item) := by
    have renders := sound.rendersItem itemRendered
    split
    · exact ((Renders.text "CAST(").append renders).append (.text _)
    · exact renders
  unfold Form.column
  split at rendered
  next unnamed =>
    cases rendered
    rw [if_pos unnamed]
    exact stored
  next named =>
    cases rendered
    rw [if_neg named]
    exact (stored.append (.text " AS ")).append (.script _)

/-- What holds of each rendered member of a list holds of the list. -/
theorem Renders.forall₂_of_mapM {α : Type} {render : α → Except LowerError Script}
    {form : α → Form}
    (derived : ∀ {a : α} {script : Script}, render a = .ok script → Renders ctx (form a) script)
    {members : List α} {scripts : List Script} (rendered : members.mapM render = .ok scripts) :
    List.Forall₂ (Renders ctx) (members.map form) scripts := by
  induction members generalizing scripts with
  | nil =>
    cases rendered
    exact .nil
  | cons a rest ih =>
    rw [List.mapM_cons] at rendered
    simp only [Except.bind_eq_ok, Except.pure_eq_ok] at rendered
    obtain ⟨first, firstRendered, others, othersRendered, rfl⟩ := rendered
    exact .cons (derived firstRendered) (ih othersRendered)

/-- The script of the columns of a select is derived. -/
theorem Below.Sound.rendersColumns (sound : below.Sound ctx) {outermost : Bool}
    {columns : List Column} {script : Script}
    (rendered : renderColumns ctx below outermost columns = .ok script) :
    Renders ctx (.columns ctx outermost columns) script := by
  unfold renderColumns at rendered
  unfold Form.columns
  split at rendered
  next none =>
    cases rendered
    rw [if_pos none]
    exact .text "1"
  next some =>
    simp only [Except.bind_eq_ok, Except.pure_eq_ok] at rendered
    obtain ⟨scripts, each, rfl⟩ := rendered
    rw [if_neg some]
    exact .separated ", " (Renders.forall₂_of_mapM sound.rendersColumn each)

theorem Renders.named {id : TableId} {table : Form} {tableScript script : Script} {own : Table}
    (renders : Renders ctx table tableScript)
    (rendered : ctx.aliased id tableScript = .ok script)
    (produces : ∀ {preferred : String}, ctx.tables.lookup id = some preferred →
      Node.Produces ctx (.table own) (.named id preferred table)) :
    Renders ctx (.node (.table own)) script := by
  simp only [RenderContext.aliased, Except.bind_eq_ok, Except.pure_eq_ok] at rendered
  obtain ⟨name, found, rfl⟩ := rendered
  obtain ⟨preferred, declared, rfl⟩ := RenderContext.tableName_eq_ok found
  exact .of_produces (produces declared) ((renders.append (.text " AS ")).append (.script _))

/-- The script of a table is derived. -/
theorem Below.Sound.rendersTable (sound : below.Sound ctx) :
    ∀ (table : Table) {script : Script}, table.render ctx below = .ok script →
      Renders ctx (.node (.table table)) script
  | .base id schema name own, script, rendered => by
    exact ((Renders.script _).append (.script _)).named rendered .base
  | .subquery id own select, script, rendered => by
    simp only [Table.render, Except.bind_eq_ok] at rendered
    obtain ⟨inner, innerRendered, rendered⟩ := rendered
    exact (sound.subquery innerRendered).named rendered .derived
  | .setOperation id own op left right, script, rendered => by
    simp only [Table.render, Except.bind_eq_ok] at rendered
    obtain ⟨first, leftRendered, second, rightRendered, rendered⟩ := rendered
    have keyword := (sound.select leftRendered).append
      (.script (.newline ++ .text op.keyword ++ .newline))
    have block := (keyword.append (sound.select rightRendered)).block
    exact (((Renders.text "(").append block).append (.text ")")).named rendered .setOperation
  | .join kind outer inner predicate, script, rendered => by
    simp only [Table.render, Except.bind_eq_ok, Except.pure_eq_ok] at rendered
    obtain ⟨first, outerRendered, second, innerRendered, condition, predicateRendered, rfl⟩ :=
      rendered
    have joined := (((sound.rendersTable outer outerRendered).append (.script .newline)).append
      (.text (kind.keyword ++ " "))).append (sound.rendersTable inner innerRendered)
    exact .of_produces .join ((joined.append (.text " ON ")).append
      (sound.renders predicate predicateRendered))
  | .cross kind outer inner, script, rendered => by
    simp only [Table.render, Except.bind_eq_ok, Except.pure_eq_ok] at rendered
    obtain ⟨first, outerRendered, second, innerRendered, rfl⟩ := rendered
    exact .of_produces .cross ((((sound.rendersTable outer outerRendered).append
      (.script .newline)).append (.text _)).append (sound.rendersTable inner innerRendered))

theorem Below.Sound.rendersTerm (sound : below.Sound ctx) {expr : Expr} {descending : Bool}
    {script : Script} (rendered : renderTerm ctx below expr descending = .ok script) :
    Renders ctx (.term expr descending) script := by
  simp only [renderTerm, Except.bind_eq_ok, Except.pure_eq_ok] at rendered
  obtain ⟨item, itemRendered, rfl⟩ := rendered
  exact (sound.rendersItem itemRendered).append (.text _)

theorem Below.Sound.rendersOrdering (sound : below.Sound ctx) :
    ∀ (ordering : OrderBy) {script : Script}, ordering.render ctx below = .ok script →
      Renders ctx (.node (.ordering ordering)) script
  | .term expr descending, script, rendered => by
    exact .of_produces .term (sound.rendersTerm rendered)
  | .andThen previous expr descending, script, rendered => by
    simp only [OrderBy.render, Except.bind_eq_ok, Except.pure_eq_ok] at rendered
    obtain ⟨first, previousRendered, term, termRendered, rfl⟩ := rendered
    exact .of_produces .andThen (((sound.rendersOrdering previous previousRendered).append
      (.text ", ")).append (sound.rendersTerm termRendered))

theorem Renders.clause {α : Type} {keyword : String} {render : α → Except LowerError Script}
    {form : α → Form}
    (derived : ∀ {a : α} {script : Script}, render a = .ok script → Renders ctx (form a) script)
    {body : Option α} {script : Script} (rendered : renderClause keyword render body = .ok script) :
    Renders ctx (.clause keyword (body.map form)) script := by
  cases body with
  | none =>
    cases rendered
    exact .nil
  | some a =>
    simp only [renderClause, Except.bind_eq_ok, Except.pure_eq_ok] at rendered
    obtain ⟨inner, innerRendered, rfl⟩ := rendered
    exact ((Renders.script .newline).append (.text _)).append (derived innerRendered)

/-- The script of a limit in front is derived. -/
theorem Below.Sound.rendersTop (sound : below.Sound ctx) {placement : LimitPlacement}
    {limit : Option Expr} {script : Script}
    (rendered : renderTop ctx below placement limit = .ok script) :
    Renders ctx (.top placement limit) script := by
  cases limit with
  | none =>
    cases rendered
    exact .nil
  | some limit =>
    rw [renderTop] at rendered
    rw [Form.top]
    by_cases front : placement = .top
    · rw [if_pos front] at rendered
      simp only [Except.bind_eq_ok, Except.pure_eq_ok] at rendered
      obtain ⟨inner, innerRendered, rfl⟩ := rendered
      rw [if_pos front]
      exact ((Renders.text "TOP (").append (sound.renders limit innerRendered)).append (.text _)
    · rw [if_neg front] at rendered
      cases rendered
      rw [if_neg front]
      exact .nil

/-- The script of an offset, with or without a limit, is derived. -/
theorem Below.Sound.rendersFetch (sound : below.Sound ctx) {ordered : Bool} {offset : Expr}
    {limit : Option Expr} {script : Script}
    (rendered : renderFetch ctx below ordered offset limit = .ok script) :
    Renders ctx (.fetch ctx ordered offset limit) script := by
  cases limit with
  | none =>
    simp only [renderFetch, Except.bind_eq_ok, Except.pure_eq_ok] at rendered
    obtain ⟨skipped, offsetRendered, fetched, rfl, rfl⟩ := rendered
    exact (((((Renders.script _).append (.script .newline)).append (.text "OFFSET ")).append
      (sound.renders offset offsetRendered)).append (.text " ROWS")).append .nil
  | some limit =>
    simp only [renderFetch, Except.bind_eq_ok, Except.pure_eq_ok] at rendered
    obtain ⟨skipped, offsetRendered, fetched, limitRendered, clause, rfl, rfl⟩ := rendered
    have fetched := ((Renders.text " FETCH NEXT ").append
      (sound.renders limit limitRendered)).append (.text " ROWS ONLY")
    exact (((((Renders.script _).append (.script .newline)).append (.text "OFFSET ")).append
      (sound.renders offset offsetRendered)).append (.text " ROWS")).append fetched

/-- The script of an offset and a limit at the end is derived. -/
theorem Below.Sound.rendersPaging (sound : below.Sound ctx) {placement : LimitPlacement}
    {ordered : Bool} {offset limit : Option Expr} {script : Script}
    (rendered : renderPaging ctx below placement ordered offset limit = .ok script) :
    Renders ctx (.paging ctx placement ordered offset limit) script := by
  unfold renderPaging at rendered
  split at rendered
  · cases rendered
    exact .nil
  · cases rendered
    exact .nil
  · exact sound.rendersFetch rendered
  · simp only [Except.bind_eq_ok, Except.pure_eq_ok] at rendered
    obtain ⟨first, limitRendered, second, offsetRendered, rfl⟩ := rendered
    exact (Renders.clause (sound.renders _) limitRendered).append
      (.clause (sound.renders _) offsetRendered)

/-- The script of a grouping is derived from the keys that it is flattened to. -/
theorem Below.Sound.rendersGrouping (sound : below.Sound ctx) {grouping : Option Expr}
    {script : Script}
    (rendered : renderClause "GROUP BY" (renderGrouping ctx below) grouping = .ok script) :
    ∃ keys, (∀ key, grouping = some key → key.groupingKeys = .ok keys) ∧
      Renders ctx
        (.clause "GROUP BY" (grouping.map fun _ => .separated ", " (keys.map .item))) script := by
  cases grouping with
  | none =>
    cases rendered
    exact ⟨[], nofun, .nil⟩
  | some key =>
    simp only [renderClause, renderGrouping, Except.bind_eq_ok, Except.pure_eq_ok] at rendered
    obtain ⟨inner, ⟨keys, found, scripts, each, rfl⟩, rfl⟩ := rendered
    refine ⟨keys, ?_, ?_⟩
    · rintro _ ⟨⟩
      exact found
    · have list := Renders.separated ", " (Renders.forall₂_of_mapM sound.rendersItem each)
      exact ((Renders.script .newline).append (.text _)).append list

/-- The script of a select is derived from the columns and the keys that it is flattened to. -/
theorem Below.Sound.rendersSelect (sound : below.Sound ctx) {outermost : Bool} {select : Select}
    {script : Script} (rendered : select.render ctx below outermost = .ok script) :
    Renders ctx (.node (.select outermost select)) script := by
  simp only [Select.render, Except.bind_eq_ok, Except.pure_eq_ok] at rendered
  obtain ⟨top, topRendered, ⟨columns, plan⟩, flattened, items, itemsRendered, table, tableRendered,
    predicate, predicateRendered, grouping, groupingRendered, ordering, orderingRendered,
    paging, pagingRendered, rfl⟩ := rendered
  obtain ⟨keys, found, groups⟩ := sound.rendersGrouping groupingRendered
  have tables := Renders.clause (sound.rendersTable _) tableRendered
  have tests := Renders.clause (sound.renders _) predicateRendered
  have orders := Renders.clause (sound.rendersOrdering _) orderingRendered
  refine .of_produces (.select flattened found) ?_
  exact (((((((Renders.text _).append (sound.rendersTop topRendered)).append
    (sound.rendersColumns itemsRendered)).append tables).append tests).append groups).append
      orders).append (sound.rendersPaging pagingRendered)

/-- The renderers of all levels are sound. -/
theorem Below.sound_level (ctx : RenderContext) (levels : Nat) :
    (Below.level ctx levels).Sound ctx := by
  induction levels with
  | zero => exact ⟨nofun, nofun⟩
  | succ n ih => exact ⟨ih.renders _, ih.rendersSelect⟩

end Renders

/-- The script of a query is derived from its outermost select. -/
theorem Select.renders_of_script {dialect : Dialect} {select : Select} {script : Script}
    (rendered : select.script dialect = .ok script) :
    Renders ⟨dialect, select.declarations⟩ (.node (.select true select)) script :=
  (Below.sound_level _ select.depth).rendersSelect rendered

end SqlLowering
