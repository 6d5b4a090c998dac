import SqlLowering.Proofs.Placeholders
import SqlLowering.Proofs.Spelling
import SqlLowering.Proofs.TableRenaming

/-!
# Lowering depends on identities only through their equality

Rendering asks for the alias of a table by its identity, and a script mentions tables by their
identities until its run assigns them aliases in the order of the text. An injective renaming keeps
apart what is apart, so the script of a renamed query is the renamed script
(`Select.renames_script`), and its run assigns the same aliases in the same places
(`Script.edits_rename`).
-/

namespace SqlLowering

/-! ## Renamed scripts -/

section Scripts

variable (r : TableId → TableId)

/-- A piece with other identities. -/
def Piece.rename : Piece → Piece
  | .edit e => .edit e
  | .tableName id preferred => .tableName (r id) preferred

/-- A script with other identities. -/
def Script.rename (script : Script) : Script :=
  script.map (Piece.rename r)

@[simp]
theorem Script.rename_append (first second : Script) :
    Script.rename r (first ++ second) = Script.rename r first ++ Script.rename r second :=
  List.map_append

@[simp]
theorem Script.rename_text (sql : String) : Script.rename r (.text sql) = .text sql :=
  rfl

@[simp]
theorem Script.rename_newline : Script.rename r .newline = .newline :=
  rfl

@[simp]
theorem Script.rename_block (body : Script) :
    Script.rename r (.block body) = .block (Script.rename r body) := by
  simp [Script.block, Script.rename, Piece.rename]

@[simp]
theorem Script.rename_separated (separator : String) (scripts : List Script) :
    Script.rename r (.separated separator scripts) =
      .separated separator (scripts.map (Script.rename r)) := by
  induction scripts with
  | nil => rfl
  | cons first rest ih =>
    cases rest with
    | nil => rfl
    | cons second others =>
      rw [Script.separated, Script.rename_append, Script.rename_append, ih]
      · rfl
      · simp

/-! ## Renamed aliases -/

/-- Assigned aliases, with other identities. -/
def TableNames.rename (names : TableNames) : TableNames :=
  { names with assigned := TableId.renameKeys r names.assigned }

/-- A table has the alias that it has under the other identity. -/
theorem TableNames.nameFor_rename {r : TableId → TableId} (injective : Function.Injective r)
    (names : TableNames) (id : TableId) (preferred : String) :
    (names.rename r).nameFor (r id) preferred =
      ((names.nameFor id preferred).1, (names.nameFor id preferred).2.rename r) := by
  unfold TableNames.nameFor
  have found : (names.rename r).assigned.lookup (r id) = names.assigned.lookup id :=
    TableId.lookup_renameKeys injective id names.assigned
  rw [found]
  cases names.assigned.lookup id <;> rfl

/-- A renamed script writes the same edits. -/
theorem Script.edits_rename {r : TableId → TableId} (injective : Function.Injective r)
    (dialect : Dialect) (script : Script) (names : TableNames) :
    (Script.rename r script).edits dialect (names.rename r) = script.edits dialect names := by
  induction script generalizing names with
  | nil => rfl
  | cons piece rest ih =>
    cases piece with
    | edit e => exact congrArg (e :: ·) (ih names)
    | tableName id preferred =>
      have named := TableNames.nameFor_rename injective names id preferred
      change .append (dialect.quoteIdentifier ((names.rename r).nameFor (r id) preferred).1) ::
        (Script.rename r rest).edits dialect ((names.rename r).nameFor (r id) preferred).2 = _
      rw [named, ih]
      rfl

theorem Script.recipe_rename {r : TableId → TableId} (injective : Function.Injective r)
    (dialect : Dialect) (indentWidth : Nat) (script : Script) :
    (Script.rename r script).recipe dialect indentWidth = script.recipe dialect indentWidth := by
  have edits := Script.edits_rename injective dialect script .empty
  rw [Script.recipe, Script.recipe, Script.draft_run, Script.draft_run]
  exact congrArg (fun es => ((Draft.start indentWidth).run dialect es).finish) edits

end Scripts

/-! ## Renamed expressions -/

section Rendering

variable {r : TableId → TableId} {ctx : RenderContext} {below below' : Below}

/-- A context with other identities for its tables. -/
def RenderContext.rename (r : TableId → TableId) (ctx : RenderContext) : RenderContext :=
  { ctx with tables := TableId.renameKeys r ctx.tables }

theorem RenderContext.renames_tableName (injective : Function.Injective r) (id : TableId) :
    Renames r (Script.rename r) (ctx.tableName id) ((ctx.rename r).tableName (r id)) := by
  have found : (ctx.rename r).tables.lookup (r id) = ctx.tables.lookup id :=
    TableId.lookup_renameKeys injective id ctx.tables
  unfold RenderContext.tableName
  rw [found]
  cases ctx.tables.lookup id with
  | none => exact .error _
  | some preferred => exact .ok _

theorem RenderContext.renames_literal (value : Value) :
    Renames r id (ctx.literal value) ((ctx.rename r).literal value) := by
  cases value <;> first | exact .ok _ | exact .error _

theorem BinaryOp.renames_sign (op : BinaryOp) : Renames r id op.sign op.sign := by
  cases op <;> first | exact .ok _ | exact .error _

theorem Expr.rename_foldl_binary (op : BinaryOp) (first : Expr) (rest : List Expr) :
    (rest.foldl (.binary op) first).rename r =
      (rest.map (Expr.rename r)).foldl (.binary op) (first.rename r) := by
  induction rest generalizing first with
  | nil => rfl
  | cons next others ih => exact ih (.binary op first next)

/-- The comparison of renamed records is the renamed comparison, or fails alike. -/
theorem renames_recordComparison (op : BinaryOp) (left right : List (String × Expr)) :
    Renames r (Expr.rename r) (recordComparison op left right)
      (recordComparison op (Expr.renameFields r left) (Expr.renameFields r right)) := by
  have terms : List.zipWith (fun l l' => Expr.binary op l.2 l'.2) (Expr.renameFields r left)
      (Expr.renameFields r right) =
      (List.zipWith (fun l l' => Expr.binary op l.2 l'.2) left right).map (Expr.rename r) := by
    rw [Expr.renameFields_eq_map, Expr.renameFields_eq_map, List.zipWith_map, List.map_zipWith]
    rfl
  have sizes : ∀ fields : List (String × Expr),
      (Expr.renameFields r fields).length = fields.length := by
    intro fields
    rw [Expr.renameFields_eq_map, List.length_map]
  unfold recordComparison
  rw [terms, sizes, sizes]
  split
  · exact .error _
  · cases List.zipWith (fun l l' => Expr.binary op l.2 l'.2) left right with
    | nil => exact .error _
    | cons term rest => exact .ok_of (Expr.rename_foldl_binary _ term rest)

theorem Expr.takesNot_rename (expr : Expr) : (expr.rename r).takesNot = expr.takesNot := by
  cases expr <;> rfl

theorem Expr.isHoisted_rename (expr : Expr) : (expr.rename r).isHoisted = expr.isHoisted := by
  rw [Expr.isHoisted, Expr.isHoisted, Expr.isParameterizable_rename, Expr.type_rename]

/-- What is bound as a parameter mentions no tables. -/
theorem Expr.rename_of_isHoisted {expr : Expr} (hoisted : expr.isHoisted = true) :
    expr.rename r = expr := by
  rw [Expr.isHoisted, Bool.and_eq_true] at hoisted
  exact Expr.rename_of_isParameterizable r hoisted.1

theorem Expr.renames_parameter {expr : Expr} (hoisted : expr.isHoisted = true) :
    Renames r (Script.rename r) (.ok (.parameter expr)) (.ok (.parameter (expr.rename r))) := by
  rw [Expr.rename_of_isHoisted hoisted]
  exact .ok _

theorem Script.rename_around (position : Position) (body : Script) :
    Script.rename r (position.around body) = position.around (Script.rename r body) := by
  cases position <;> simp [Position.around]

theorem Expr.rename_eq_record {expr : Expr} {fields : List (String × Expr)}
    (same : expr.rename r = .record fields) : ∃ inner, expr = .record inner := by
  cases expr with
  | record inner => exact ⟨inner, rfl⟩
  | _ => simp [Expr.rename] at same

/-- A comparison of records is written as its expansion. -/
theorem Expr.render_of_records {op : BinaryOp} {left right : List (String × Expr)}
    {position : Position}
    (sent : ¬(position = .whole ∧ (Expr.binary op (.record left) (.record right)).isHoisted = true))
    (compares : op.comparesRecords = true) :
    (Expr.binary op (.record left) (.record right)).render ctx below position = do
      let comparison ← recordComparison op left right
      let body ← below.expr comparison
      return position.around body := by
  have other : op ≠ .coalesce := by
    rintro rfl
    cases compares
  rw [Expr.render, if_neg sent, if_neg other]
  simp only [compares]
  cases position <;> rfl

/-- Any other binary expression has a sign, or it fails for want of one. -/
theorem Expr.render_of_apart {op : BinaryOp} {left right : Expr} {position : Position}
    (sent : ¬(position = .whole ∧ (Expr.binary op left right).isHoisted = true))
    (other : op ≠ .coalesce)
    (apart : ∀ ls rs, op.comparesRecords = true → left = .record ls → right ≠ .record rs) :
    (Expr.binary op left right).render ctx below position = do
      let sign ← op.sign
      let first ← left.render ctx below .operand
      let second ← right.render ctx below .operand
      return position.around (first ++ Script.text (" " ++ sign ++ " ") ++ second) := by
  rw [Expr.render, if_neg sent, if_neg other]
  split
  next compares => exact (apart _ _ compares rfl rfl).elim
  next => cases position <;> rfl

/-- A node of the host is bound as a parameter or refused. -/
theorem Expr.renames_parameterOrRefused (expr : Expr) :
    Renames r (Script.rename r)
      (if expr.isHoisted then .ok (.parameter expr) else .error (.nodeInSql expr.nodeName))
      (if (expr.rename r).isHoisted then .ok (.parameter (expr.rename r))
        else .error (.nodeInSql (expr.rename r).nodeName)) := by
  rw [Expr.isHoisted_rename, Expr.nodeName_rename]
  split
  next hoisted => exact Expr.renames_parameter hoisted
  · exact .error _

theorem RenderContext.renames_literals (values : List Value) :
    Renames r (Script.rename r) (ctx.literals values) ((ctx.rename r).literals values) := by
  cases values with
  | nil => exact .ok _
  | cons first rest =>
    have each : Renames r (List.map id) ((first :: rest).mapM ctx.literal)
        (((first :: rest).map id).mapM (ctx.rename r).literal) :=
      Renames.mapM RenderContext.renames_literal _
    rw [List.map_id] at each
    refine .bind each fun texts => .pure_of ?_
    simp [Function.comp_def]

/-- The renderers of one level less are renamed to each other. -/
structure Below.Renames (r : TableId → TableId) (below below' : Below) : Prop where
  expr : ∀ expr, SqlLowering.Renames r (Script.rename r) (below.expr expr)
    (below'.expr (expr.rename r))
  select : ∀ select, SqlLowering.Renames r (Script.rename r) (below.select select)
    (below'.select (select.rename r))

theorem Below.Renames.subquery (renames : below.Renames r below') (asDocument : Bool)
    (select : Select) :
    SqlLowering.Renames r (Script.rename r) (renderSubquery ctx below asDocument select)
      (renderSubquery (ctx.rename r) below' asDocument (select.rename r)) := by
  refine .bind (renames.select select) fun body => .pure_of ?_
  cases asDocument <;> simp [RenderContext.rename]

/-- A renamed binary expression has the renamed script, if its operands have. -/
theorem Below.Renames.renderBinary (renames : below.Renames r below') (op : BinaryOp)
    {left right : Expr}
    (lhs : ∀ position, SqlLowering.Renames r (Script.rename r) (left.render ctx below position)
      ((left.rename r).render (ctx.rename r) below' position))
    (rhs : ∀ position, SqlLowering.Renames r (Script.rename r) (right.render ctx below position)
      ((right.rename r).render (ctx.rename r) below' position)) (position : Position) :
    SqlLowering.Renames r (Script.rename r) ((Expr.binary op left right).render ctx below position)
      (((Expr.binary op left right).rename r).render (ctx.rename r) below' position) := by
  have hoists := (Expr.binary op left right).isHoisted_rename (r := r)
  rw [Expr.rename] at hoists ⊢
  by_cases hoisted : position = .whole ∧ (Expr.binary op left right).isHoisted = true
  · have bound := Expr.renames_parameter (r := r) hoisted.2
    rw [Expr.render, Expr.render, hoists, if_pos hoisted, if_pos hoisted]
    exact bound
  have sent : ¬(position = .whole ∧
      (Expr.binary op (left.rename r) (right.rename r)).isHoisted = true) := by rwa [hoists]
  by_cases joined : op = .coalesce
  · rw [Expr.render, Expr.render, if_neg hoisted, if_neg sent, if_pos joined, if_pos joined]
    refine .bind (lhs .whole) fun first => .bind (rhs .whole) fun second => ?_
    cases position <;> exact .pure_of (by simp)
  by_cases records : op.comparesRecords = true ∧ ∃ ls rs, left = .record ls ∧ right = .record rs
  · obtain ⟨compares, ls, rs, rfl, rfl⟩ := records
    rw [Expr.render_of_records hoisted compares]
    simp only [Expr.rename] at sent ⊢
    rw [Expr.render_of_records sent compares]
    exact .bind (renames_recordComparison op ls rs) fun comparison =>
      .bind (renames.expr comparison) fun body => .pure_of (Script.rename_around position body)
  · have apart : ∀ ls rs, op.comparesRecords = true → left = .record ls → right ≠ .record rs :=
      fun ls rs compares same same' => records ⟨compares, ls, rs, same, same'⟩
    have apart' : ∀ ls rs, op.comparesRecords = true → left.rename r = .record ls →
        right.rename r ≠ .record rs := by
      intro ls rs compares same same'
      obtain ⟨inner, rfl⟩ := Expr.rename_eq_record same
      obtain ⟨inner', rfl⟩ := Expr.rename_eq_record same'
      exact apart inner inner' compares rfl rfl
    rw [Expr.render_of_apart hoisted joined apart, Expr.render_of_apart sent joined apart']
    refine .bind op.renames_sign fun sign => .bind (lhs .operand) fun first =>
      .bind (rhs .operand) fun second => .pure_of ?_
    rw [Script.rename_around]
    simp

/-- A renamed unary expression has the renamed script, if its operand has. -/
theorem Expr.renames_unary (op : UnaryOp) {operand : Expr}
    (inner : ∀ position, SqlLowering.Renames r (Script.rename r)
      (operand.render ctx below position)
      ((operand.rename r).render (ctx.rename r) below' position)) (position : Position) :
    SqlLowering.Renames r (Script.rename r) ((Expr.unary op operand).render ctx below position)
      (((Expr.unary op operand).rename r).render (ctx.rename r) below' position) := by
  have hoists := (Expr.unary op operand).isHoisted_rename (r := r)
  have takes := operand.takesNot_rename (r := r)
  rw [Expr.rename] at hoists ⊢
  by_cases hoisted : (Expr.unary op operand).isHoisted = true
  · have bound := Expr.renames_parameter (r := r) hoisted
    rw [hoisted] at hoists
    cases op <;> rw [Expr.render, Expr.render, if_pos hoisted, if_pos hoists] <;> exact bound
  have refused : ¬(Expr.unary op (operand.rename r)).isHoisted = true := by rwa [hoists]
  cases op with
  | not =>
    rw [Expr.render, Expr.render, if_neg hoisted, if_neg refused, takes]
    split
    · exact .bind (inner .whole) fun _ => .pure_of (by simp)
    · exact .bind (inner .operand) fun _ => .pure_of (by simp)
  | negate =>
    rw [Expr.render, Expr.render, if_neg hoisted, if_neg refused]
    exact .bind (inner .operand) fun _ => .pure_of (by simp)
  | convert type =>
    rw [Expr.render, Expr.render, if_neg hoisted, if_neg refused]
    exact inner .whole

mutual

/-- The script of a renamed expression is the renamed script. -/
theorem Below.Renames.render (renames : below.Renames r below')
    (injective : Function.Injective r) :
    ∀ (expr : Expr) (position : Position),
      SqlLowering.Renames r (Script.rename r) (expr.render ctx below position)
        ((expr.rename r).render (ctx.rename r) below' position)
  | .column id name type, position => by
    rw [Expr.rename, Expr.render, Expr.render]
    exact .bind (RenderContext.renames_tableName injective id) fun _ => .pure_of (by simp; rfl)
  | .aliased expr name, position => by
    rw [Expr.rename, Expr.render, Expr.render]
    exact .bind (renames.render injective expr .whole) fun _ => .pure_of (by simp; rfl)
  | .constant value type, position => by
    rw [Expr.rename, Expr.render, Expr.render]
    exact .bind (RenderContext.renames_literal value) fun _ => .pure_of rfl
  | .binary op left right, position =>
    renames.renderBinary op (renames.render injective left) (renames.render injective right)
      position
  | .unary op operand, position =>
    Expr.renames_unary op (renames.render injective operand) position
  | .conditional test ifTrue ifFalse, position => by
    have hoists := (Expr.conditional test ifTrue ifFalse).isHoisted_rename (r := r)
    rw [Expr.rename] at hoists ⊢
    rw [Expr.render, Expr.render, hoists]
    split
    next hoisted => exact Expr.renames_parameter hoisted
    next =>
      exact .bind (renames.render injective test .whole) fun _ =>
        .bind (renames.render injective ifTrue .whole) fun _ =>
          .bind (renames.render injective ifFalse .whole) fun _ => .pure_of (by simp)
  | .function name args type, position => by
    rw [Expr.rename, Expr.render, Expr.render]
    exact .bind (renames.renderList injective args) fun _ => .pure_of (by simp)
  | .fragment sql type, position => .ok _
  | .cast expr sqlType type, position => by
    rw [Expr.rename, Expr.render, Expr.render]
    exact .bind (renames.render injective expr .whole) fun _ => .pure_of (by simp)
  | .exists select, position => by
    rw [Expr.rename, Expr.render, Expr.render]
    exact .bind (renames.subquery false select) fun _ => .pure_of (by simp)
  | .isIn value values, position => by
    rw [Expr.rename, Expr.render, Expr.render]
    exact .bind (renames.render injective value .whole) fun _ =>
      .bind (renames.renderValues injective values) fun _ => .pure_of (by simp)
  | .aggregate function arg distinct type, position => by
    rw [Expr.rename, Expr.render, Expr.render]
    exact .bind (renames.render injective arg .whole) fun _ => .pure_of (by simp)
  | .subquery kind select type, position => by
    rw [Expr.rename, Expr.render, Expr.render]
    exact renames.subquery _ select
  | .input .., position | .record _, position | .array .., position | .member .., position
  | .parameter .., position | .defaultIfEmpty .., position => by
    simp only [Expr.rename, Expr.render]
    exact Expr.renames_parameterOrRefused _

theorem Below.Renames.renderList (renames : below.Renames r below')
    (injective : Function.Injective r) :
    ∀ exprs : List Expr,
      SqlLowering.Renames r (List.map (Script.rename r)) (Expr.renderList ctx below exprs)
        (Expr.renderList (ctx.rename r) below' (Expr.renameList r exprs))
  | [] => .ok _
  | expr :: rest => by
    rw [Expr.renameList, Expr.renderList, Expr.renderList]
    exact .bind (renames.render injective expr .whole) fun _ =>
      .bind (renames.renderList injective rest) fun _ => .pure_of rfl

/-- The renamed values of a list have the renamed script, or fail alike. -/
theorem Below.Renames.renderValues (renames : below.Renames r below')
    (injective : Function.Injective r) :
    ∀ values : InValues,
      SqlLowering.Renames r (Script.rename r) (values.render ctx below)
        ((values.rename r).render (ctx.rename r) below')
  | .subquery select => by
    rw [InValues.rename, InValues.render, InValues.render]
    exact .bind (renames.select select) fun _ => .pure_of (by simp)
  | .list [] => .ok _
  | .list (expr :: rest) => by
    have elements : SqlLowering.Renames r (List.map (Script.rename r))
        (Expr.renderList ctx below (expr :: rest)) _ :=
      renames.renderList injective (expr :: rest)
    simp only [InValues.rename, Expr.renameList, InValues.render] at elements ⊢
    exact .bind elements fun _ => .pure_of (by simp)
  | .constants values => by
    rw [InValues.rename, InValues.render, InValues.render]
    exact RenderContext.renames_literals values
  | .dynamic expr => by
    rw [InValues.rename, InValues.render, InValues.render, Expr.isParameterizable_rename,
      Expr.nodeName_rename]
    split
    next parameterizable =>
      rw [Expr.rename_of_isParameterizable r parameterizable]
      exact .ok _
    · exact .error _

end

/-! ## Renamed selects -/

theorem Expr.isListed_rename (expr : Expr) : (expr.rename r).isListed = expr.isListed := by
  cases expr <;> rfl

theorem Expr.isStored_rename (expr : Expr) : (expr.rename r).isStored = expr.isStored := by
  cases expr <;> rfl

theorem Below.Renames.renderItem (renames : below.Renames r below')
    (injective : Function.Injective r) (expr : Expr) :
    SqlLowering.Renames r (Script.rename r) (expr.renderItem ctx below)
      ((expr.rename r).renderItem (ctx.rename r) below') := by
  unfold Expr.renderItem
  rw [Expr.type_rename, Expr.isListed_rename]
  refine .bind (renames.render injective expr .whole) fun script => ?_
  split
  · exact .pure_of (by simp)
  · exact .pure_of rfl

theorem Below.Renames.renderColumn (renames : below.Renames r below')
    (injective : Function.Injective r) (outermost : Bool) (column : Column) :
    SqlLowering.Renames r (Script.rename r) (column.render ctx below outermost)
      ((column.rename r).render (ctx.rename r) below' outermost) := by
  unfold Column.render
  simp only [Column.rename, Expr.type_rename, Expr.isStored_rename]
  refine .bind (renames.renderItem injective column.expr) fun item => ?_
  split <;> split <;> exact .pure_of (by simp [RenderContext.rename, RenderContext.identifier])

theorem Below.Renames.renderColumns (renames : below.Renames r below')
    (injective : Function.Injective r) (outermost : Bool) (columns : List Column) :
    SqlLowering.Renames r (Script.rename r) (SqlLowering.renderColumns ctx below outermost columns)
      (SqlLowering.renderColumns (ctx.rename r) below' outermost
        (columns.map (Column.rename r))) := by
  unfold SqlLowering.renderColumns
  rw [List.isEmpty_map]
  split
  · exact .ok _
  · exact .bind (.mapM (renames.renderColumn injective outermost) columns) fun _ =>
      .pure_of (by simp)

theorem RenderContext.renames_aliased (injective : Function.Injective r) (id : TableId)
    {script script' : Script} (renamed : Script.rename r script = script') :
    Renames r (Script.rename r) (ctx.aliased id script)
      ((ctx.rename r).aliased (r id) script') :=
  .bind (RenderContext.renames_tableName injective id) fun _ => .pure_of (by simp [renamed])

/-- A renamed table has the renamed script, or fails alike. -/
theorem Below.Renames.renderTable (renames : below.Renames r below')
    (injective : Function.Injective r) (table : Table) :
    SqlLowering.Renames r (Script.rename r) (table.render ctx below)
      ((table.rename r).render (ctx.rename r) below') := by
  cases table with
  | base id schema name preferred =>
    rw [Table.rename, Table.render, Table.render]
    refine RenderContext.renames_aliased injective id ?_
    split <;> simp [RenderContext.rename, RenderContext.identifier]
  | subquery id preferred select =>
    rw [Table.rename, Table.render, Table.render]
    exact .bind (renames.subquery false select) fun _ =>
      RenderContext.renames_aliased injective id rfl
  | setOperation id preferred op left right =>
    rw [Table.rename, Table.render, Table.render]
    exact .bind (renames.select left) fun _ => .bind (renames.select right) fun _ =>
      RenderContext.renames_aliased injective id (by simp)
  | join kind outer inner predicate =>
    rw [Table.rename, Table.render, Table.render]
    exact .bind (renames.renderTable injective outer) fun _ =>
      .bind (renames.renderTable injective inner) fun _ =>
        .bind (renames.render injective predicate .whole) fun _ => .pure_of (by simp)
  | cross kind outer inner =>
    rw [Table.rename, Table.render, Table.render]
    exact .bind (renames.renderTable injective outer) fun _ =>
      .bind (renames.renderTable injective inner) fun _ => .pure_of (by simp)

theorem Below.Renames.renderTerm (renames : below.Renames r below')
    (injective : Function.Injective r) (expr : Expr) (descending : Bool) :
    SqlLowering.Renames r (Script.rename r) (SqlLowering.renderTerm ctx below expr descending)
      (SqlLowering.renderTerm (ctx.rename r) below' (expr.rename r) descending) :=
  .bind (renames.renderItem injective expr) fun _ => .pure_of (by simp)

theorem Below.Renames.renderOrdering (renames : below.Renames r below')
    (injective : Function.Injective r) (ordering : OrderBy) :
    SqlLowering.Renames r (Script.rename r) (ordering.render ctx below)
      ((ordering.rename r).render (ctx.rename r) below') := by
  cases ordering with
  | term expr descending => exact renames.renderTerm injective expr descending
  | andThen previous expr descending =>
    rw [OrderBy.rename, OrderBy.render, OrderBy.render]
    exact .bind (renames.renderOrdering injective previous) fun _ =>
      .bind (renames.renderTerm injective expr descending) fun _ => .pure_of (by simp)

theorem Renames.renderClause {α β : Type} {f : α → β} {render : α → Except LowerError Script}
    {render' : β → Except LowerError Script}
    (each : ∀ a, Renames r (Script.rename r) (render a) (render' (f a))) (keyword : String)
    (body : Option α) :
    Renames r (Script.rename r) (SqlLowering.renderClause keyword render body)
      (SqlLowering.renderClause keyword render' (body.map f)) := by
  cases body with
  | none => exact .ok _
  | some a => exact .bind (each a) fun _ => .pure_of (by simp)

theorem Below.Renames.renderGrouping (renames : below.Renames r below')
    (injective : Function.Injective r) (key : Expr) :
    SqlLowering.Renames r (Script.rename r) (SqlLowering.renderGrouping ctx below key)
      (SqlLowering.renderGrouping (ctx.rename r) below' (key.rename r)) :=
  .bind (key.renames_groupingKeys r) fun keys =>
    .bind (.mapM (renames.renderItem injective) keys) fun _ => .pure_of (by simp)

theorem Below.Renames.renderTop (renames : below.Renames r below')
    (injective : Function.Injective r) (placement : LimitPlacement) (limit : Option Expr) :
    SqlLowering.Renames r (Script.rename r) (SqlLowering.renderTop ctx below placement limit)
      (SqlLowering.renderTop (ctx.rename r) below' placement (limit.map (·.rename r))) := by
  cases limit with
  | none => exact .ok _
  | some expr =>
    rw [Option.map_some, SqlLowering.renderTop, SqlLowering.renderTop]
    split
    · exact .bind (renames.render injective expr .whole) fun _ => .pure_of (by simp)
    · exact .ok _

theorem Below.Renames.renderFetch (renames : below.Renames r below')
    (injective : Function.Injective r) (ordered : Bool) (offset : Expr) (limit : Option Expr) :
    SqlLowering.Renames r (Script.rename r)
      (SqlLowering.renderFetch ctx below ordered offset limit)
      (SqlLowering.renderFetch (ctx.rename r) below' ordered (offset.rename r)
        (limit.map (·.rename r))) := by
  refine .bind (renames.render injective offset .whole) fun _ => ?_
  cases limit with
  | none => cases ordered <;> exact .pure_of (by simp [RenderContext.rename])
  | some expr =>
    refine .bind (renames.render injective expr .whole) fun _ => ?_
    cases ordered <;> exact .pure_of (by simp [RenderContext.rename])

/-- A renamed offset and limit have the renamed script, or fail alike. -/
theorem Below.Renames.renderPaging (renames : below.Renames r below')
    (injective : Function.Injective r) (placement : LimitPlacement) (ordered : Bool)
    (offset limit : Option Expr) :
    SqlLowering.Renames r (Script.rename r)
      (SqlLowering.renderPaging ctx below placement ordered offset limit)
      (SqlLowering.renderPaging (ctx.rename r) below' placement ordered
        (offset.map (·.rename r)) (limit.map (·.rename r))) := by
  have whole : ∀ expr : Expr, SqlLowering.Renames r (Script.rename r) (expr.render ctx below .whole)
      ((expr.rename r).render (ctx.rename r) below' .whole) :=
    fun expr => renames.render injective expr .whole
  cases placement with
  | top => exact .ok _
  | offsetFetch =>
    cases offset with
    | none => exact .ok _
    | some skipped => exact renames.renderFetch injective ordered skipped limit
  | limitOffset =>
    exact .bind (.renderClause whole "LIMIT" limit) fun _ =>
      .bind (.renderClause whole "OFFSET" offset) fun _ => .pure_of (by simp)

/-- A renamed select has the renamed script, or fails alike. -/
theorem Below.Renames.renderSelect (renames : below.Renames r below')
    (injective : Function.Injective r) (outermost : Bool) (select : Select) :
    SqlLowering.Renames r (Script.rename r) (select.render ctx below outermost)
      ((select.rename r).render (ctx.rename r) below' outermost) := by
  have whole : ∀ expr : Expr, SqlLowering.Renames r (Script.rename r) (expr.render ctx below .whole)
      ((expr.rename r).render (ctx.rename r) below' .whole) :=
    fun expr => renames.render injective expr .whole
  obtain ⟨projection, table, predicate, grouping, ordering, offset, limit, distinct⟩ := select
  simp only [Select.rename, Select.render, Table.renameOption_eq_map, Expr.renameOption_eq_map,
    OrderBy.renameOption_eq_map, Option.isSome_map]
  exact .bind (renames.renderTop injective _ limit) fun _ =>
    .bind (projection.renames_flatten r) fun flattened =>
    .bind (renames.renderColumns injective outermost flattened.1) fun _ =>
    .bind (.renderClause (renames.renderTable injective) "FROM" table) fun _ =>
    .bind (.renderClause whole "WHERE" predicate) fun _ =>
    .bind (.renderClause (renames.renderGrouping injective) "GROUP BY" grouping) fun _ =>
    .bind (.renderClause (renames.renderOrdering injective) "ORDER BY" ordering) fun _ =>
    .bind (renames.renderPaging injective _ _ offset limit) fun _ => .pure_of (by simp)

theorem Below.renames_level (injective : Function.Injective r) (levels : Nat) :
    (Below.level ctx levels).Renames r (Below.level (ctx.rename r) levels) := by
  induction levels with
  | zero => exact ⟨fun _ => .error _, fun _ => .error _⟩
  | succ levels ih =>
    exact ⟨fun expr => ih.render injective expr .whole, ih.renderSelect injective false⟩

/-- The script of a renamed query is the renamed script. -/
theorem Select.renames_script (injective : Function.Injective r) (dialect : Dialect)
    (select : Select) :
    Renames r (Script.rename r) (select.script dialect) ((select.rename r).script dialect) := by
  unfold Select.script
  rw [select.declarations_rename, select.depth_rename]
  exact (Below.renames_level injective select.depth).renderSelect injective true select

end Rendering

theorem Renames.eq_mapError {α : Type} {r : TableId → TableId}
    {result renamed : Except LowerError α}
    (renames : Renames r id result renamed) : renamed = result.mapError (LowerError.rename r) := by
  cases renames <;> rfl

/-- Lowering depends on the identities of tables only through their equality. With other identities
for all tables, where they are declared and where columns refer to them, a query has the same
recipe, the same columns and the same plan; or it fails with the same error, with the other identity
for a table that is unknown. -/
theorem Select.lower_rename {r : TableId → TableId} (injective : Function.Injective r)
    (dialect : Dialect) (indentWidth : Nat) (select : Select) :
    (select.rename r).lower dialect indentWidth =
      (select.lower dialect indentWidth).mapError (LowerError.rename r) := by
  have shape : (select.rename r).projection = select.projection.rename r := by
    cases select
    rfl
  apply Renames.eq_mapError
  unfold Select.lower
  rw [shape]
  refine .bind (select.renames_script injective dialect) fun script =>
    .bind (select.projection.renames_flatten r) fun flattened => .pure_of ?_
  -- The aliases come out the same, and the columns keep their names and types.
  simp [Script.recipe_rename injective, Column.rename]

/-- People beside the names of others, who are in the table of their managers if that is the table
of `other`. Both tables like the same alias. -/
def Select.besideManagers (other : TableId) : Select where
  projection := .server (.record
    [("Name", .column ⟨0⟩ "Name" .string), ("Manager", .column other "Name" .string)])
  table := some (.join .left (.base ⟨0⟩ "dbo" "People" "p") (.base ⟨1⟩ "dbo" "People" "p")
    (.binary .equal (.column ⟨0⟩ "ManagerId" .int32) (.column ⟨1⟩ "Id" .int32)))
  predicate := none
  grouping := none
  ordering := none
  offset := none
  limit := none
  distinct := false

/-- Identities in the reverse order. -/
def TableId.reversed (id : TableId) : TableId :=
  ⟨100 - id.val⟩

/-- With all identities reversed the query is lowered to the same, and an unknown table is reported
under its reversed identity. -/
theorem Select.lower_besideManagers_reversed :
    (∃ lowered, (Select.besideManagers ⟨1⟩).lower .sqlServer 4 = .ok lowered ∧
        ((Select.besideManagers ⟨1⟩).rename TableId.reversed).lower .sqlServer 4 = .ok lowered) ∧
      (Select.besideManagers ⟨9⟩).lower .sqlServer 4 = .error (.unknownTable ⟨9⟩) ∧
      ((Select.besideManagers ⟨9⟩).rename TableId.reversed).lower .sqlServer 4 =
        .error (.unknownTable ⟨91⟩) := by
  have injective : Function.Injective TableId.reversed := by
    intro id other same
    have vals : 100 - id.val = 100 - other.val := congrArg TableId.val same
    obtain ⟨val⟩ := id
    obtain ⟨val'⟩ := other
    simpa using vals
  refine ⟨⟨_, rfl, ?_⟩, rfl, ?_⟩
  · rw [Select.lower_rename injective]
    rfl
  · rw [Select.lower_rename injective]
    rfl

end SqlLowering
