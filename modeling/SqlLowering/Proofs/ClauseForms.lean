import SqlLowering.Proofs.Rendering

/-!
# Forms of clauses

The clauses of a select are put together from few things: words, names, line breaks and nodes that
are still to be written. A property that these have, and that is kept when forms are put behind each
other and into blocks, is a property of every clause (`Form.IsKept`), and so of every select
(`Form.IsKept.select`).
-/

namespace SqlLowering

/-- Whether a node is a select that counts as the outermost one. -/
def Node.isOutermost : Node → Bool
  | .select outermost _ => outermost
  | _ => false

/-- The texts that clauses have around their parts. -/
@[simp]
def RenderContext.words (ctx : RenderContext) : List String :=
  ["SELECT ", "SELECT DISTINCT ", "TOP (", ") ", "1", ", ", " AS ", "(CASE WHEN ",
    " THEN 1 ELSE 0 END)", "CAST(", " AS " ++ ctx.dialect.booleanStorageType ++ ")", "FROM ",
    "WHERE ", "GROUP BY ", "ORDER BY ", " ASC", " DESC", "LIMIT ", "OFFSET ", " ROWS",
    " FETCH NEXT ", " ROWS ONLY", "ORDER BY " ++ ctx.dialect.constantOrdering, "(", ")",
    ctx.dialect.subDocumentDirective, ctx.dialect.emptyList]

namespace Form

theorem script_separated (separator : String) (scripts : List Script) :
    script (.separated separator scripts) =
      .separated separator (scripts.map script) := by
  induction scripts with
  | nil => rfl
  | cons first rest ih =>
    cases rest with
    | nil => rfl
    | cons second others =>
      rw [Script.separated, script, List.map_append, List.map_append]
      · exact congrArg _ ih
      · simp

/-- What a select writes in front of its columns. -/
def front (ctx : RenderContext) (query : Select) : Form :=
  text (if query.distinct then "SELECT DISTINCT " else "SELECT ") ++
    top (ctx.dialect.limitPlacement query.offset.isSome) query.limit

/-- What a select writes behind its columns. -/
def clauses (ctx : RenderContext) (query : Select) (keys : List Expr) : Form :=
  clause "FROM" (query.table.map fun table => node (.table table)) ++
    clause "WHERE" (query.predicate.map whole) ++
    clause "GROUP BY" (query.grouping.map fun _ => separated ", " (keys.map item)) ++
    clause "ORDER BY" (query.ordering.map fun ordering => node (.ordering ordering)) ++
    paging ctx (ctx.dialect.limitPlacement query.offset.isSome) query.ordering.isSome query.offset
      query.limit

theorem select_eq (ctx : RenderContext) (outermost : Bool) (query : Select) (items : List Column)
    (keys : List Expr) :
    select ctx outermost query items keys =
      front ctx query ++ columns ctx outermost items ++ clauses ctx query keys := by
  simp only [select, front, clauses, List.append_assoc]

/-- A property of what clauses are made of that is kept when they are put together. -/
structure IsKept (ctx : RenderContext) (P : Form → Prop) : Prop where
  nil : P []
  append : ∀ {first second : Form}, P first → P second → P (first ++ second)
  block : ∀ {body : Form}, P body → P (.block body)
  word : ∀ sql ∈ ctx.words, P (.text sql)
  newline : P (.script .newline)
  identifier : ∀ name : String, P (.script (ctx.identifier name))
  tableName : ∀ (id : TableId) (preferred : String), P (.script (.tableName id preferred))
  node : ∀ {node : Node}, node.isOutermost = false → P (.node node)

namespace IsKept

variable {ctx : RenderContext} {P : Form → Prop} (kept : IsKept ctx P)

include kept

theorem whole (expr : Expr) : P (whole expr) :=
  kept.node rfl

/-- A form between two words. -/
theorem between {body : Form} (inside : P body) {before after : String}
    (opening : before ∈ ctx.words) (closing : after ∈ ctx.words) :
    P (text before ++ body ++ text after) :=
  kept.append (kept.append (kept.word before opening) inside) (kept.word after closing)

/-- Forms with commas between them. -/
theorem separated {α : Type} {form : α → Form} {members : List α}
    (each : ∀ a ∈ members, P (form a)) : P (separated ", " (members.map form)) := by
  induction members with
  | nil => exact kept.nil
  | cons a rest ih =>
    obtain ⟨first, others⟩ := List.forall_mem_cons.1 each
    have comma := kept.word ", " (by simp)
    cases rest with
    | nil => exact first
    | cons _ _ => exact kept.append (kept.append first comma) (ih others)

/-- The literals of constants, or what stands for none. -/
theorem literals {constants : List Value} {literals : Script}
    (written : ctx.literals constants = .ok literals)
    (each : ∀ {value : Value} {sql : String}, ctx.literal value = .ok sql → P (text sql)) :
    P (script literals) := by
  cases constants with
  | nil =>
    cases written
    exact kept.word ctx.dialect.emptyList (by simp)
  | cons first rest =>
    simp only [RenderContext.literals, Except.bind_eq_ok, Except.pure_eq_ok] at written
    obtain ⟨sqls, literal, rfl⟩ := written
    rw [script_separated, List.map_map]
    refine kept.separated fun sql member => ?_
    obtain ⟨value, -, spelled⟩ := Except.exists_of_mem_mapM literal member
    exact each spelled

theorem item (expr : Expr) : P (item expr) := by
  unfold Form.item
  split
  · exact kept.between (kept.whole expr) (by simp) (by simp)
  · exact kept.whole expr

theorem term (expr : Expr) (descending : Bool) : P (term expr descending) := by
  refine kept.append (kept.item expr) (kept.word _ ?_)
  cases descending <;> simp

theorem named {table : Form} (inside : P table) (id : TableId) (preferred : String) :
    P (named id preferred table) :=
  kept.append (kept.append inside (kept.word " AS " (by simp)))
    (kept.tableName id preferred)

/-- A nested select on lines of its own, with the directive that makes one document of its rows. -/
theorem nested (asDocument : Bool) (query : Select) :
    P (Form.block (Form.node (.select false query) ++ script (if asDocument then
      .newline ++ .text ctx.dialect.subDocumentDirective else []))) := by
  refine kept.block (kept.append (kept.node rfl) ?_)
  cases asDocument with
  | false => exact kept.nil
  | true => exact kept.append kept.newline (kept.word _ (by simp))

theorem subquery (asDocument : Bool) (query : Select) : P (subquery ctx asDocument query) :=
  kept.between (kept.nested asDocument query) (by simp) (by simp)

/-- A column, converted or not, under a name or without one. -/
theorem column (outermost : Bool) (c : Column) : P (column ctx outermost c) := by
  have stored : P (if outermost && c.expr.type.isBoolean && !c.expr.isStored then
      text "CAST(" ++ Form.item c.expr ++ text (" AS " ++ ctx.dialect.booleanStorageType ++ ")")
      else Form.item c.expr) := by
    split
    · exact kept.between (kept.item c.expr) (by simp) (by simp)
    · exact kept.item c.expr
  unfold Form.column
  dsimp only
  split
  · exact stored
  · exact kept.append (kept.append stored (kept.word " AS " (by simp)))
      (kept.identifier c.name)

theorem columns (outermost : Bool) (cs : List Column) : P (columns ctx outermost cs) := by
  unfold Form.columns
  split
  · exact kept.word "1" (by simp)
  · exact kept.separated fun c _ => kept.column outermost c

/-- A clause that is there or not. -/
theorem clause {α : Type} {keyword : String} (known : keyword ++ " " ∈ ctx.words) {form : α → Form}
    (each : ∀ a, P (form a)) (body : Option α) : P (clause keyword (body.map form)) := by
  cases body with
  | none => exact kept.nil
  | some a => exact kept.append (kept.append kept.newline (kept.word _ known)) (each a)

theorem top (placement : LimitPlacement) (limit : Option Expr) : P (top placement limit) := by
  cases limit with
  | none => exact kept.nil
  | some limit =>
    rw [Form.top]
    split
    · exact kept.between (kept.whole limit) (by simp) (by simp)
    · exact kept.nil

theorem fetch (ordered : Bool) (offset : Expr) (limit : Option Expr) :
    P (fetch ctx ordered offset limit) := by
  have order : P (script (if ordered then [] else
      Script.newline ++ Script.text ("ORDER BY " ++ ctx.dialect.constantOrdering))) := by
    cases ordered with
    | true => exact kept.nil
    | false => exact kept.append kept.newline (kept.word _ (by simp))
  have skipped := kept.append (kept.append (kept.append order kept.newline)
    (kept.word "OFFSET " (by simp))) (kept.whole offset)
  refine kept.append (kept.append skipped (kept.word " ROWS" (by simp))) ?_
  cases limit with
  | none => exact kept.nil
  | some limit => exact kept.between (kept.whole limit) (by simp) (by simp)

/-- The limit and the offset at the end of a select. -/
theorem paging (placement : LimitPlacement) (ordered : Bool) (offset limit : Option Expr) :
    P (paging ctx placement ordered offset limit) := by
  cases placement with
  | top => exact kept.nil
  | offsetFetch =>
    cases offset with
    | none => exact kept.nil
    | some offset => exact kept.fetch ordered offset limit
  | limitOffset =>
    exact kept.append (kept.clause (by simp) kept.whole limit)
      (kept.clause (by simp) kept.whole offset)

theorem front (query : Select) : P (front ctx query) := by
  refine kept.append (kept.word _ ?_) (kept.top _ _)
  cases query.distinct <;> simp

/-- All that a select writes behind its columns. -/
theorem clauses (query : Select) (keys : List Expr) : P (clauses ctx query keys) := by
  refine kept.append (kept.append (kept.append (kept.append ?tables ?tests) ?groups) ?orders) ?paging
  case tables => exact kept.clause (by simp) (fun _ => kept.node rfl) query.table
  case tests => exact kept.clause (by simp) kept.whole query.predicate
  case groups =>
    exact kept.clause (by simp) (fun _ => kept.separated fun key _ => kept.item key) query.grouping
  case orders => exact kept.clause (by simp) (fun _ => kept.node rfl) query.ordering
  case paging => exact kept.paging _ _ _ _

/-- What is kept in clauses holds of a whole select. -/
theorem select (outermost : Bool) (query : Select) (items : List Column) (keys : List Expr) :
    P (select ctx outermost query items keys) := by
  rw [select_eq]
  exact kept.append (kept.append (kept.front query) (kept.columns outermost items))
    (kept.clauses query keys)

end IsKept

end Form

end SqlLowering
