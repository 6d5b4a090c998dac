import SqlLowering.Proofs.HoistedOperands

/-!
# Every derivation is a rendering

Rendering has a derivation for whatever it writes. Here is the converse: what is derived from a
node, rendering writes, if it has as many levels as the node is deep (`Renders.render_eq_ok`). So
the levels of a query are always enough, and the grammar describes rendering exactly
(`Node.render_eq_ok_iff`).

`Form.render` renders the nodes that are left open in a form, nested selects one level below. A node
is rendered as the form that it produces, except for a comparison of records, whose expansion is
rendered one level below too (`Node.Produces.render_expr`).
-/

namespace SqlLowering

/-! ## How many levels a part takes -/

/-- How deeply selects and records nest in a part. -/
def Part.depth : Part → Nat
  | .expr e => e.depth
  | .values vs => vs.depth
  | .projection p => p.depth
  | .table t => t.depth
  | .ordering o => o.depth
  | .select s => s.depth

/-- The levels that are needed to write a part of something else. A select takes one of its own. -/
def Part.levels : Part → Nat
  | .select s => s.depth + 1
  | part => part.depth

theorem Part.depth_le_levels (part : Part) : part.depth ≤ part.levels := by
  cases part with
  | select s => exact Nat.le_succ _
  | _ => exact Nat.le_refl _

theorem Expr.depth_le_listDepth {exprs : List Expr} {expr : Expr} (member : expr ∈ exprs) :
    expr.depth ≤ Expr.listDepth exprs := by
  induction exprs with
  | nil => cases member
  | cons first rest ih =>
    rw [Expr.listDepth]
    rcases List.mem_cons.1 member with rfl | later
    · exact Nat.le_max_left _ _
    · exact Nat.le_trans (ih later) (Nat.le_max_right _ _)

theorem Expr.depth_le_fieldsDepth {fields : List (String × Expr)} {field : String × Expr}
    (member : field ∈ fields) : field.2.depth ≤ Expr.fieldsDepth fields := by
  induction fields with
  | nil => cases member
  | cons first rest ih =>
    rw [Expr.fieldsDepth]
    rcases List.mem_cons.1 member with rfl | later
    · exact Nat.le_max_left _ _
    · exact Nat.le_trans (ih later) (Nat.le_max_right _ _)

theorem Expr.levels_le_of_mem {expr : Expr} {child : Part} (member : child ∈ expr.children) :
    child.levels ≤ expr.depth := by
  cases expr with
  | function name exprs type | array exprs type =>
    obtain ⟨arg, listed, rfl⟩ := List.mem_map.1 member
    exact Expr.depth_le_listDepth listed
  | record fields =>
    obtain ⟨field, listed, rfl⟩ := List.mem_map.1 member
    exact Nat.le_succ_of_le (Expr.depth_le_fieldsDepth listed)
  | _ => grind [Expr.children, Part.levels, Part.depth, Expr.depth]

/-- What a part is directly made of takes no more levels than the part is deep. -/
theorem Part.levels_le_of_mem {part child : Part} (member : child ∈ part.children) :
    child.levels ≤ part.depth := by
  cases part with
  | expr e => exact Expr.levels_le_of_mem member
  | values vs =>
    cases vs with
    | list elements =>
      obtain ⟨element, listed, rfl⟩ := List.mem_map.1 member
      exact Expr.depth_le_listDepth listed
    | _ => grind [Part.children, InValues.children, Part.levels, Part.depth, InValues.depth]
  | projection p =>
    cases p <;>
      grind [Part.children, Projection.children, Part.levels, Part.depth, Projection.depth]
  | table t =>
    cases t <;> grind [Part.children, Table.children, Part.levels, Part.depth, Table.depth]
  | ordering o =>
    cases o <;> grind [Part.children, OrderBy.children, Part.levels, Part.depth, OrderBy.depth]
  | select s =>
    obtain ⟨projection, table, predicate, grouping, ordering, offset, limit, distinct⟩ := s
    simp only [Part.children, Select.children, Select.clauses, List.mem_cons, List.mem_append,
      List.mem_map, Option.mem_toList] at member
    simp only [Part.depth, Select.depth]
    rcases member with rfl | ⟨_, rfl, rfl⟩ | (((⟨_, rfl, rfl⟩ | ⟨_, rfl, rfl⟩) | ⟨_, rfl, rfl⟩) |
      ⟨_, rfl, rfl⟩) | ⟨_, rfl, rfl⟩ <;>
      simp only [Part.levels, Part.depth, Expr.optionDepth, Table.optionDepth,
        OrderBy.optionDepth] <;> omega

theorem Part.Contains.levels_le {part inner : Part} (contains : part.Contains inner) :
    inner.levels ≤ part.levels := by
  induction contains with
  | refl => exact Nat.le_refl _
  | tail _ member ih =>
    exact Nat.le_trans (Part.levels_le_of_mem member) (Nat.le_trans (Part.depth_le_levels _) ih)

theorem Expr.depth_foldl_binary_le {op : BinaryOp} {bound : Nat} {terms : List Expr} {first : Expr}
    (start : first.depth ≤ bound) (each : ∀ term ∈ terms, term.depth ≤ bound) :
    (terms.foldl (.binary op) first).depth ≤ bound := by
  induction terms generalizing first with
  | nil => exact start
  | cons term rest ih =>
    obtain ⟨next, others⟩ := List.forall_mem_cons.1 each
    exact ih (Nat.max_le.2 ⟨start, next⟩) others

/-- The expansion of a comparison of records is less deep than the comparison. -/
theorem depth_lt_of_recordComparison {op : BinaryOp} {left right : List (String × Expr)}
    {comparison : Expr} (compared : recordComparison op left right = .ok comparison) :
    comparison.depth < (Expr.binary op (.record left) (.record right)).depth := by
  obtain ⟨-, first, rest, terms, rfl⟩ := recordComparison_eq_ok compared
  have each : ∀ term ∈ first :: rest,
      term.depth ≤ max (Expr.fieldsDepth left) (Expr.fieldsDepth right) := by
    rw [← terms]
    intro term member
    obtain ⟨l, inLeft, r, inRight, rfl⟩ := exists_fields_of_mem_zipWith member
    have inFirst := Expr.depth_le_fieldsDepth inLeft
    have inSecond := Expr.depth_le_fieldsDepth inRight
    simp only [Expr.depth]
    omega
  obtain ⟨start, others⟩ := List.forall_mem_cons.1 each
  refine Nat.lt_of_le_of_lt (Expr.depth_foldl_binary_le start others) ?_
  simp only [Expr.depth]
  omega

/-! ## Rendering what is left open -/

/-- The script of a node. -/
def Node.render (ctx : RenderContext) (below : Below) : Node → Except LowerError Script
  | .expr position e => e.render ctx below position
  | .values vs => vs.render ctx below
  | .table t => t.render ctx below
  | .ordering o => o.render ctx below
  | .select outermost s => s.render ctx below outermost

/-- The script of a symbol in a form, with a number of levels. -/
def Symbol.render (ctx : RenderContext) (levels : Nat) : Symbol → Except LowerError Script
  | .piece p => pure [p]
  | .node (.select outermost s) =>
    match levels with
    | 0 => .error .tooDeep
    | n + 1 => s.render ctx (.level ctx n) outermost
  | .node n => n.render ctx (.level ctx levels)

/-- The script of a form: the nodes that are left open are rendered. -/
def Form.render (ctx : RenderContext) (levels : Nat) : Form → Except LowerError Script
  | [] => pure []
  | symbol :: rest => do
    let first ← symbol.render ctx levels
    let others ← Form.render ctx levels rest
    return first ++ others

/-! ### Forms are rendered as the scripts that they stand for -/

section Rendered

variable (ctx : RenderContext) (levels : Nat)

omit levels in
theorem RenderContext.tableName_of_lookup {ctx : RenderContext} {id : TableId} {preferred : String}
    (declared : ctx.tables.lookup id = some preferred) :
    ctx.tableName id = pure (.tableName id preferred) := by
  rw [RenderContext.tableName, declared]
  rfl

namespace Form

@[simp] theorem render_append (first second : Form) :
    Form.render ctx levels (first ++ second) = do
      let before ← first.render ctx levels
      let after ← second.render ctx levels
      return before ++ after := by
  induction first with
  | nil => simp [Form.render]
  | cons symbol rest ih =>
    simp only [Form.render, List.cons_append, ih, bind_assoc, pure_bind, List.append_assoc]

@[simp] theorem render_script (pieces : Script) :
    (script pieces).render ctx levels = pure pieces := by
  induction pieces with
  | nil => rfl
  | cons piece rest ih =>
    have tail : Form.render ctx levels (rest.map .piece) = pure rest := ih
    simp only [script, List.map_cons, Form.render, Symbol.render, tail, pure_bind]
    rfl

@[simp] theorem render_text (sql : String) : (text sql).render ctx levels = pure (.text sql) :=
  render_script ctx levels _

theorem render_singleton (symbol : Symbol) :
    Form.render ctx levels [symbol] = symbol.render ctx levels := by
  simp [Form.render]

@[simp] theorem render_whole (expr : Expr) :
    (whole expr).render ctx levels = expr.render ctx (.level ctx levels) .whole :=
  render_singleton ctx levels _

@[simp] theorem render_operand (expr : Expr) :
    (operand expr).render ctx levels = expr.render ctx (.level ctx levels) .operand :=
  render_singleton ctx levels _

@[simp] theorem render_values (values : InValues) :
    (node (.values values)).render ctx levels = values.render ctx (.level ctx levels) :=
  render_singleton ctx levels _

@[simp] theorem render_table (table : Table) :
    (node (.table table)).render ctx levels = table.render ctx (.level ctx levels) :=
  render_singleton ctx levels _

@[simp] theorem render_ordering (ordering : OrderBy) :
    (node (.ordering ordering)).render ctx levels = ordering.render ctx (.level ctx levels) :=
  render_singleton ctx levels _

@[simp] theorem render_nested (query : Select) :
    (node (.select false query)).render ctx levels = (Below.level ctx levels).select query := by
  rw [node, render_singleton]
  cases levels <;> rfl

@[simp] theorem render_block (body : Form) :
    (block body).render ctx levels = do return Script.block (← body.render ctx levels) := by
  simp only [block, render_append, render_script, pure_bind, bind_assoc, Script.block]

@[simp] theorem render_subquery (asDocument : Bool) (query : Select) :
    (subquery ctx asDocument query).render ctx levels =
      renderSubquery ctx (.level ctx levels) asDocument query := by
  simp only [subquery, render_append, render_text, render_block, render_nested, render_script,
    pure_bind, bind_assoc, renderSubquery]

@[simp] theorem render_item (expr : Expr) :
    (item expr).render ctx levels = expr.renderItem ctx (.level ctx levels) := by
  unfold item Expr.renderItem
  split
  · simp only [render_append, render_text, render_whole, pure_bind, bind_assoc]
  · simp only [render_whole, bind_pure]

@[simp] theorem render_column (outermost : Bool) (c : Column) :
    (column ctx outermost c).render ctx levels = c.render ctx (.level ctx levels) outermost := by
  unfold column Column.render
  split <;> split <;>
    simp only [render_append, render_text, render_script, render_item, pure_bind, bind_assoc,
      bind_pure]

/-- Separated forms are rendered one by one, and their scripts are separated in turn. -/
theorem render_separated {α : Type} (separator : String) {form : α → Form}
    {render : α → Except LowerError Script} (each : ∀ a, (form a).render ctx levels = render a)
    (members : List α) :
    (separated separator (members.map form)).render ctx levels = do
      return Script.separated separator (← members.mapM render) := by
  induction members with
  | nil => rfl
  | cons a rest ih =>
    cases rest with
    | nil => simp [separated, each, Script.separated]
    | cons b others =>
      have first : separated separator ((a :: b :: others).map form) =
          form a ++ text separator ++ separated separator ((b :: others).map form) := rfl
      rw [first, render_append, render_append, ih, each, render_text]
      simp only [List.mapM_cons, bind_assoc, pure_bind]
      rfl

@[simp] theorem render_wholes (separator : String) (exprs : List Expr) :
    (separated separator (exprs.map whole)).render ctx levels = do
      return Script.separated separator (← Expr.renderList ctx (.level ctx levels) exprs) := by
  have list : Expr.renderList ctx (.level ctx levels) exprs =
      exprs.mapM fun expr => expr.render ctx (.level ctx levels) .whole := by
    induction exprs with
    | nil => rfl
    | cons expr rest ih => rw [Expr.renderList, List.mapM_cons, ih]
  rw [render_separated ctx levels separator (render_whole ctx levels), list]

@[simp] theorem render_columns (outermost : Bool) (cs : List Column) :
    (columns ctx outermost cs).render ctx levels =
      renderColumns ctx (.level ctx levels) outermost cs := by
  unfold columns renderColumns
  split
  · exact render_text ctx levels "1"
  · exact render_separated ctx levels ", " (render_column ctx levels outermost) cs

theorem render_named {id : TableId} {preferred : String} (table : Form)
    (declared : ctx.tables.lookup id = some preferred) :
    (named id preferred table).render ctx levels =
      table.render ctx levels >>= ctx.aliased id := by
  unfold RenderContext.aliased
  simp only [named, render_append, render_text, render_script, pure_bind, bind_assoc,
    RenderContext.tableName_of_lookup declared]

@[simp] theorem render_term (expr : Expr) (descending : Bool) :
    (term expr descending).render ctx levels =
      renderTerm ctx (.level ctx levels) expr descending := by
  simp only [term, render_append, render_item, render_text, pure_bind, renderTerm]

theorem render_clause {α : Type} (keyword : String) {form : α → Form}
    {render : α → Except LowerError Script} (each : ∀ a, (form a).render ctx levels = render a)
    (body : Option α) :
    (clause keyword (body.map form)).render ctx levels = renderClause keyword render body := by
  cases body with
  | none => rfl
  | some a =>
    simp only [Option.map_some, clause, render_append, render_script, render_text, each, pure_bind,
      renderClause]

@[simp] theorem render_top (placement : LimitPlacement) (limit : Option Expr) :
    (top placement limit).render ctx levels =
      renderTop ctx (.level ctx levels) placement limit := by
  cases limit with
  | none => rfl
  | some limit =>
    rw [top, renderTop]
    split
    · simp only [render_append, render_text, render_whole, pure_bind, bind_assoc]
    · rfl

@[simp] theorem render_fetch (ordered : Bool) (offset : Expr) (limit : Option Expr) :
    (fetch ctx ordered offset limit).render ctx levels =
      renderFetch ctx (.level ctx levels) ordered offset limit := by
  cases limit with
  | none =>
    have nothing : Form.render ctx levels [] = pure [] := rfl
    simp only [fetch, render_append, render_text, render_script, render_whole, nothing, pure_bind,
      bind_assoc, renderFetch]
  | some limit =>
    simp only [fetch, render_append, render_text, render_script, render_whole, pure_bind,
      bind_assoc, renderFetch]

@[simp] theorem render_paging (placement : LimitPlacement) (ordered : Bool)
    (offset limit : Option Expr) :
    (paging ctx placement ordered offset limit).render ctx levels =
      renderPaging ctx (.level ctx levels) placement ordered offset limit := by
  unfold paging renderPaging
  split
  · rfl
  · rfl
  · exact render_fetch ctx levels ordered _ limit
  · simp only [render_append, render_clause ctx levels _ (render_whole ctx levels)]

/-- The form of a select has the rendering of the select itself, given what its projection and its
grouping are flattened to. -/
theorem render_select {query : Select} {items : List Column} {plan : Plan} {keys : List Expr}
    (flattened : query.projection.flatten = .ok (items, plan))
    (found : ∀ key, query.grouping = some key → key.groupingKeys = .ok keys) (outermost : Bool) :
    (select ctx outermost query items keys).render ctx levels =
      query.render ctx (.level ctx levels) outermost := by
  have grouping : (clause "GROUP BY"
        (query.grouping.map fun _ => separated ", " (keys.map item))).render ctx levels =
      renderClause "GROUP BY" (renderGrouping ctx (.level ctx levels)) query.grouping := by
    cases grouped : query.grouping with
    | none => rfl
    | some key =>
      simp only [Option.map_some, clause, render_append, render_script, render_text,
        render_separated ctx levels ", " (render_item ctx levels), renderClause, renderGrouping,
        found key grouped, pure_bind, bind_assoc]
      rfl
  have columns : (query.projection.flatten : Except LowerError (List Column × Plan)) =
    pure (items, plan) := flattened
  simp only [select, render_append, render_text, render_top, render_columns,
    render_clause ctx levels "FROM" (render_table ctx levels),
    render_clause ctx levels "WHERE" (render_whole ctx levels), grouping,
    render_clause ctx levels "ORDER BY" (render_ordering ctx levels), render_paging, pure_bind,
    bind_assoc, Select.render, columns]

@[simp] theorem render_around (position : Position) (body : Form) :
    (around position body).render ctx levels = do
      let inner ← body.render ctx levels
      return match position with
        | .whole => inner
        | .operand => Script.text "(" ++ inner ++ Script.text ")" := by
  cases position with
  | whole => simp [around]
  | operand => simp only [around, render_append, render_text, pure_bind, bind_assoc]

end Form

/-- The form of the values of a list has their rendering. -/
theorem Node.Produces.render_values {values : InValues} {produced : Form}
    (produces : Node.Produces ctx (.values values) produced) :
    values.render ctx (.level ctx levels) = produced.render ctx levels := by
  cases produces with
  | valuesSubquery => simp [InValues.render]
  | noValues => rfl
  | @valuesList elements nonempty =>
    cases elements with
    | nil => exact absurd rfl nonempty
    | cons _ _ =>
      rw [Form.render_wholes]
      rfl
  | valuesConstants written =>
    rw [InValues.render, written, Form.render_script]
    rfl
  | valuesDynamic parameterizable =>
    rw [InValues.render, if_pos parameterizable, Form.render_script]
    rfl

theorem Node.Produces.render_table {table : Table} {produced : Form}
    (produces : Node.Produces ctx (.table table) produced) :
    table.render ctx (.level ctx levels) = produced.render ctx levels := by
  cases produces with
  | base declared | derived declared | setOperation declared =>
    rw [Form.render_named ctx levels _ declared]
    simp [Table.render]
  | join | cross => simp [Table.render]

theorem Node.Produces.render_ordering {ordering : OrderBy} {produced : Form}
    (produces : Node.Produces ctx (.ordering ordering) produced) :
    ordering.render ctx (.level ctx levels) = produced.render ctx levels := by
  cases produces with
  | term | andThen => simp [OrderBy.render]

/-- What is bound at its position is rendered as a parameter. -/
theorem Expr.render_of_isBoundAt {position : Position} {expr : Expr}
    (bound : expr.isBoundAt position = true) (below : Below) :
    expr.render ctx below position = .ok (.parameter expr) := by
  cases expr with
  | binary op left right =>
    rw [Expr.isBoundAt, Bool.and_eq_true, decide_eq_true_eq] at bound
    rw [Expr.render, if_pos bound]
  | _ => exact Expr.render_of_isHoisted bound rfl ctx below position

theorem Expr.not_hoisted_of_apart {position : Position} {op : BinaryOp} {left right : Expr}
    (apart : (Expr.binary op left right).isBoundAt position = false) :
    ¬(position = .whole ∧ (Expr.binary op left right).isHoisted = true) := by
  rintro ⟨rfl, hoisted⟩
  rw [Expr.isBoundAt, hoisted] at apart
  cases apart

/-- An expression is rendered as what it produces, at every level, unless it is a comparison of
records: the expansion of that takes a level of its own. -/
theorem Node.Produces.render_expr {position : Position} {expr : Expr} {produced : Form}
    (produces : Node.Produces ctx (.expr position expr) produced) :
    expr.render ctx (.level ctx levels) position = produced.render ctx levels ∨
      ∃ op left right comparison, expr = .binary op (.record left) (.record right) ∧
        recordComparison op left right = .ok comparison ∧
        produced = .around position (.whole comparison) ∧
        ∀ fewer,
          expr.render ctx (.level ctx (fewer + 1)) position = produced.render ctx fewer := by
  cases produces with
  | records compares compared apart =>
    refine .inr ⟨_, _, _, _, rfl, compared, rfl, fun fewer => ?_⟩
    rw [Expr.render, if_neg (Expr.not_hoisted_of_apart apart),
      if_neg (by rintro rfl; cases compares)]
    cases position <;> simp [compares, compared] <;> rfl
  | hoisted bound =>
    left
    rw [Expr.render_of_isBoundAt ctx bound, Form.render_script]
    rfl
  | coalesce apart =>
    left
    rw [Expr.render, if_neg (Expr.not_hoisted_of_apart apart)]
    cases position <;> simp
  | sign signed others apart =>
    left
    rw [Expr.render, if_neg (Expr.not_hoisted_of_apart apart),
      if_neg (by rintro rfl; cases signed)]
    split
    next compares => exact absurd rfl (others _ _ compares rfl)
    next => cases position <;> simp [signed] <;> rfl
  | notTest taken apart =>
    left
    rw [Expr.render, if_neg (Bool.eq_false_iff.1 apart), if_pos taken]
    simp
  | notValue refused apart =>
    left
    rw [Expr.render, if_neg (Bool.eq_false_iff.1 apart), if_neg (Bool.eq_false_iff.1 refused)]
    simp
  | negate apart | convert apart | conditional apart =>
    left
    rw [Expr.render, if_neg (Bool.eq_false_iff.1 apart)]
    simp
  | column declared =>
    left
    rw [Expr.render, RenderContext.tableName_of_lookup declared]
    simp
  | constant literal =>
    left
    rw [Expr.render, literal, Form.render_text]
    rfl
  | fragment => exact .inl (Form.render_text ctx levels _).symm
  | _ =>
    left
    simp [Expr.render]

end Rendered

/-! ## Derivations are rendered -/

section Derivations

variable {ctx : RenderContext}

theorem Form.mem_of_mem_parts_top {placement : LimitPlacement} {limit : Option Expr} {part : Part}
    (member : part ∈ (Form.top placement limit).parts) : part ∈ limit.toList.map Part.expr := by
  cases limit with
  | none => exact member
  | some limit => cases placement <;> simp_all [Form.top]

theorem Form.mem_of_mem_parts_paging {placement : LimitPlacement} {ordered : Bool}
    {offset limit : Option Expr} {part : Part}
    (member : part ∈ (Form.paging ctx placement ordered offset limit).parts) :
    part ∈ offset.toList.map Part.expr ∨ part ∈ limit.toList.map Part.expr := by
  cases placement <;> cases offset <;> cases limit <;>
    simp_all [Form.paging, Form.fetch, Form.clause, or_comm]

/-- Besides its columns and the keys of its grouping, a select writes its clauses only. -/
theorem Form.cases_of_mem_parts_select {outermost : Bool} {query : Select} {columns : List Column}
    {keys : List Expr} {part : Part}
    (member : part ∈ (Form.select ctx outermost query columns keys).parts) :
    (∃ column ∈ columns, Part.expr column.expr = part) ∨
      (∃ key, query.grouping = some key ∧ ∃ expr ∈ keys, Part.expr expr = part) ∨
      part ∈ query.clauses := by
  have top := @Form.mem_of_mem_parts_top (ctx.dialect.limitPlacement query.offset.isSome)
    query.limit part
  have paging := @Form.mem_of_mem_parts_paging ctx
    (ctx.dialect.limitPlacement query.offset.isSome) query.ordering.isSome query.offset query.limit
    part
  simp only [Form.parts_select, Select.clauses, List.mem_append, List.mem_map, List.mem_flatMap,
    List.mem_singleton, Option.mem_toList] at member top paging ⊢
  grind

/-- The parts of a select that are written stand in its own. -/
theorem Select.exists_child_of_mem_parts {outermost : Bool} {select : Select}
    {columns : List Column} {plan : Plan} {keys : List Expr}
    (flattened : select.projection.flatten = .ok (columns, plan))
    (found : ∀ key, select.grouping = some key → key.groupingKeys = .ok keys) {part : Part}
    (member : part ∈ (Form.select ctx outermost select columns keys).parts) :
    ∃ child ∈ select.children, child.Contains part := by
  rcases Form.cases_of_mem_parts_select member with
    ⟨column, listed, rfl⟩ | ⟨key, grouped, expr, inKeys, rfl⟩ | clause
  · exact ⟨_, List.mem_cons_self, Projection.contains_of_flatten flattened listed⟩
  · refine ⟨.expr key, ?_, Expr.contains_of_groupingKeys (found key grouped) inKeys⟩
    simp [Select.children, grouped]
  · exact ⟨part, List.mem_cons_of_mem _ (List.mem_append_right _ clause), .refl part⟩

/-- What a node leaves to be written takes no more levels than the node is deep. -/
theorem Node.Produces.levels_le {node : Node} {produced : Form}
    (produces : node.Produces ctx produced) {part : Part} (member : part ∈ produced.parts) :
    part.levels ≤ node.part.depth := by
  cases produces.writes with
  | parts same =>
    rw [same] at member
    exact Part.levels_le_of_mem member
  | bound only _ _ _ =>
    rw [only] at member
    cases member
  | records whose compared same =>
    rw [same] at member
    obtain rfl := List.mem_singleton.1 member
    rw [whose]
    exact Nat.le_of_lt (depth_lt_of_recordComparison compared)
  | select whose flattened found only =>
    rw [only] at member
    obtain ⟨child, own, contains⟩ := Select.exists_child_of_mem_parts flattened found member
    rw [whose]
    exact Nat.le_trans contains.levels_le (Part.levels_le_of_mem own)

/-- A node is rendered as the form that it produces, with levels that are enough for that form. -/
theorem Node.Produces.exists_levels {node : Node} {produced : Form}
    (produces : node.Produces ctx produced) {levels : Nat} (enough : node.part.depth ≤ levels) :
    ∃ fewer, (∀ part ∈ produced.parts, part.levels ≤ fewer) ∧
      node.render ctx (.level ctx levels) = produced.render ctx fewer := by
  have kept : ∀ part ∈ produced.parts, part.levels ≤ levels :=
    fun part member => Nat.le_trans (produces.levels_le member) enough
  cases node with
  | expr position e =>
    rcases produces.render_expr ctx levels with
      same | ⟨op, left, right, comparison, rfl, compared, rfl, same⟩
    · exact ⟨levels, kept, same⟩
    · -- The records are deeper than what their comparison expands to, so a level is left for it.
      have less := depth_lt_of_recordComparison compared
      obtain ⟨fewer, rfl⟩ : ∃ fewer, levels = fewer + 1 :=
        ⟨levels - 1, by simp only [Node.part, Part.depth] at enough; omega⟩
      refine ⟨fewer, ?_, same fewer⟩
      simp only [Form.parts_around, Form.parts_whole, List.mem_singleton, forall_eq, Part.levels,
        Part.depth, Node.part] at enough ⊢
      omega
  | values vs => exact ⟨levels, kept, produces.render_values ctx levels⟩
  | table t => exact ⟨levels, kept, produces.render_table ctx levels⟩
  | ordering o => exact ⟨levels, kept, produces.render_ordering ctx levels⟩
  | select outermost s =>
    cases produces with
    | select flattened found =>
      exact ⟨levels, kept, (Form.render_select ctx levels flattened found outermost).symm⟩

/-- A node in a form is rendered with enough levels, a select with one less. -/
theorem Symbol.exists_levels {node : Node} {levels : Nat} (enough : node.part.levels ≤ levels) :
    ∃ fewer, node.part.depth ≤ fewer ∧
      (Symbol.node node).render ctx levels = node.render ctx (.level ctx fewer) := by
  cases node with
  | select outermost s =>
    cases levels with
    | zero => cases enough
    | succ fewer => exact ⟨fewer, Nat.le_of_succ_le_succ enough, rfl⟩
  | _ => exact ⟨levels, enough, rfl⟩

/-- What is derived from a form is rendered from it, with as many levels as its parts take. -/
theorem Renders.render_eq_ok {form : Form} {script : Script} (renders : Renders ctx form script)
    {levels : Nat} (enough : ∀ part ∈ form.parts, part.levels ≤ levels) :
    form.render ctx levels = .ok script := by
  induction renders generalizing levels with
  | nil => rfl
  | piece piece _ ih =>
    rw [Form.render, ih enough]
    rfl
  | @node node produced form first rest produces _ _ ihProduced ihRest =>
    obtain ⟨own, others⟩ := List.forall_mem_cons.1 enough
    -- A node can lose a level twice: as a nested select, and as a comparison of records.
    obtain ⟨fewer, deep, rendered⟩ := Symbol.exists_levels own
    obtain ⟨fewest, produced, same⟩ := produces.exists_levels deep
    rw [Form.render, rendered, same, ihProduced produced, ihRest others]
    rfl

/-- Rendering a node with as many levels as it is deep yields what is derived from it, and nothing
else. -/
theorem Node.render_eq_ok_iff {node : Node} {levels : Nat} (enough : node.part.depth ≤ levels)
    {script : Script} :
    node.render ctx (.level ctx levels) = .ok script ↔ Renders ctx (.node node) script := by
  constructor
  · intro rendered
    have sound := Below.sound_level ctx levels
    cases node with
    | expr position e => exact sound.renders e rendered
    | values vs => exact sound.rendersValues vs rendered
    | table t => exact sound.rendersTable t rendered
    | ordering o => exact sound.rendersOrdering o rendered
    | select outermost s => exact sound.rendersSelect rendered
  · intro renders
    cases renders with
    | node produces produced rest =>
      cases rest
      obtain ⟨fewer, parts, same⟩ := produces.exists_levels enough
      rw [same, produced.render_eq_ok parts, List.append_nil]

/-- The script of a query is what is derived from it as the outermost select. -/
theorem Select.script_eq_ok_iff {dialect : Dialect} {select : Select} {script : Script} :
    select.script dialect = .ok script ↔
      Renders ⟨dialect, select.declarations⟩ (.node (.select true select)) script :=
  @Node.render_eq_ok_iff ⟨dialect, select.declarations⟩ (.select true select) select.depth
    (Nat.le_refl _) script

end Derivations

end SqlLowering
