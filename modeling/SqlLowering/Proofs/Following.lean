import SqlLowering.Proofs.LeftToHost
import SqlLowering.Proofs.Rendering

/-!
# Following inputs and selects through a rendering

Inputs and selects are followed down the derivation of a script. `Node.Produces.followed_cases` is
one step: an input or a select of a node is what the node writes, or it stands in a part that is
still to be written, or it is bound, or it is left to the host. `Renders.follows` is the whole way.
A select that stands anywhere in a query is written in the end, since what is bound or left to the
host has no selects.
-/

namespace SqlLowering

/-! ## The nodes of a form -/

/-- The part of the query that a node writes. -/
def Node.part : Node → Part
  | .expr _ e => .expr e
  | .values vs => .values vs
  | .table t => .table t
  | .ordering o => .ordering o
  | .select _ s => .select s

/-- The part that a symbol stands for. -/
def Symbol.part? : Symbol → Option Part
  | .piece _ => none
  | .node n => some n.part

/-- The parts that are still to be written in a form. -/
def Form.parts (form : Form) : List Part :=
  form.filterMap Symbol.part?

namespace Form

@[simp]
theorem parts_append (first second : Form) :
    Form.parts (first ++ second) = first.parts ++ second.parts :=
  List.filterMap_append

@[simp]
theorem parts_nil : Form.parts [] = [] :=
  rfl

@[simp]
theorem parts_script (pieces : Script) : (script pieces).parts = [] := by
  simp [parts, script, Symbol.part?, List.filterMap_map, Function.comp_def]

@[simp]
theorem parts_text (sql : String) : (text sql).parts = [] :=
  parts_script _

@[simp]
theorem parts_node (n : Node) : (node n).parts = [n.part] :=
  rfl

@[simp]
theorem parts_whole (expr : Expr) : (whole expr).parts = [.expr expr] :=
  rfl

@[simp]
theorem parts_operand (expr : Expr) : (operand expr).parts = [.expr expr] :=
  rfl

@[simp]
theorem parts_block (body : Form) : (block body).parts = body.parts := by
  simp [block]

theorem parts_separated {α : Type} (separator : String) {form : α → Form} {part : α → Part}
    (single : ∀ a, (form a).parts = [part a]) (members : List α) :
    (separated separator (members.map form)).parts = members.map part := by
  induction members with
  | nil => rfl
  | cons a rest ih =>
    cases rest with
    | nil => simp [separated, single]
    | cons b others =>
      have first : separated separator ((a :: b :: others).map form) =
          form a ++ text separator ++ separated separator ((b :: others).map form) := rfl
      rw [first, parts_append, parts_append, ih, single, parts_text]
      rfl

@[simp]
theorem parts_wholes (separator : String) (exprs : List Expr) :
    (separated separator (exprs.map whole)).parts = exprs.map .expr :=
  parts_separated separator parts_whole exprs

@[simp]
theorem parts_around (position : Position) (body : Form) :
    (around position body).parts = body.parts := by
  cases position <;> simp [around]

@[simp]
theorem parts_subquery (ctx : RenderContext) (asDocument : Bool) (query : Select) :
    (subquery ctx asDocument query).parts = [.select query] := by
  simp [subquery, Node.part]

@[simp]
theorem parts_item (expr : Expr) : (item expr).parts = [.expr expr] := by
  unfold item
  split <;> simp

@[simp]
theorem parts_items (separator : String) (exprs : List Expr) :
    (separated separator (exprs.map item)).parts = exprs.map .expr :=
  parts_separated separator parts_item exprs

@[simp]
theorem parts_column (ctx : RenderContext) (outermost : Bool) (c : Column) :
    (column ctx outermost c).parts = [.expr c.expr] := by
  unfold column
  split <;> split <;> simp

@[simp]
theorem parts_columns (ctx : RenderContext) (outermost : Bool) (cs : List Column) :
    (columns ctx outermost cs).parts = cs.map fun c => .expr c.expr := by
  unfold columns
  split
  next none => simp [List.isEmpty_iff.1 none]
  next => exact parts_separated ", " (parts_column ctx outermost) cs

@[simp]
theorem parts_named (id : TableId) (preferred : String) (table : Form) :
    (named id preferred table).parts = table.parts := by
  simp [named]

@[simp]
theorem parts_term (expr : Expr) (descending : Bool) :
    (term expr descending).parts = [.expr expr] := by
  simp [term]

theorem parts_clause {α : Type} (keyword : String) {form : α → Form} {parts : α → List Part}
    (single : ∀ a, (form a).parts = parts a) (body : Option α) :
    (clause keyword (body.map form)).parts = body.toList.flatMap parts := by
  cases body <;> simp [clause, single]

/-- The parts of a select in the order in which they are written. -/
theorem parts_select (ctx : RenderContext) (outermost : Bool) (query : Select)
    (items : List Column) (keys : List Expr) :
    (select ctx outermost query items keys).parts =
      (top (ctx.dialect.limitPlacement query.offset.isSome) query.limit).parts ++
        items.map (fun c => .expr c.expr) ++ query.table.toList.flatMap (fun t => [.table t]) ++
        query.predicate.toList.flatMap (fun e => [.expr e]) ++
        query.grouping.toList.flatMap (fun _ => keys.map .expr) ++
        query.ordering.toList.flatMap (fun o => [.ordering o]) ++
        (paging ctx (ctx.dialect.limitPlacement query.offset.isSome) query.ordering.isSome
          query.offset query.limit).parts := by
  simp only [select, parts_append, parts_text, List.nil_append, parts_columns,
    parts_clause "FROM" (fun t => parts_node (.table t)), parts_clause "WHERE" parts_whole,
    parts_clause "GROUP BY" (fun _ => parts_items ", " keys),
    parts_clause "ORDER BY" (fun o => parts_node (.ordering o)), Node.part]

end Form

/-- Every limit and every offset has a place: an offset is not in a select that says its limit in
front, and a limit does not wait for an offset. -/
def Dialect.PlacesPaging (dialect : Dialect) : Prop :=
  dialect.limitPlacement true ≠ .top ∧ dialect.limitPlacement false ≠ .offsetFetch

/-- What is written of the paging, in front of the columns or at the end, is the offset and the
limit, in a dialect that places both. -/
theorem Form.mem_parts_paging {ctx : RenderContext} (places : ctx.dialect.PlacesPaging)
    (ordered : Bool) (offset limit : Option Expr) (part : Part) :
    (part ∈ (Form.top (ctx.dialect.limitPlacement offset.isSome) limit).parts ∨
      part ∈ (Form.paging ctx (ctx.dialect.limitPlacement offset.isSome) ordered offset
        limit).parts) ↔
      part ∈ offset.toList.map Part.expr ∨ part ∈ limit.toList.map Part.expr := by
  cases offset with
  | none =>
    have front := places.2
    cases placement : ctx.dialect.limitPlacement false with
    | offsetFetch => exact absurd placement front
    | top => cases limit <;> simp [placement, Form.top, Form.paging]
    | limitOffset => cases limit <;> simp [placement, Form.top, Form.paging, Form.clause]
  | some offset =>
    have behind := places.1
    cases placement : ctx.dialect.limitPlacement true with
    | top => exact absurd placement behind
    | offsetFetch => cases limit <;> simp [placement, Form.top, Form.paging, Form.fetch]
    | limitOffset => cases limit <;> simp [placement, Form.top, Form.paging, Form.clause, or_comm]

/-! ## Following inputs and selects -/

/-- The expression that an edit binds. -/
def Draft.Edit.source? : Draft.Edit → Option Expr
  | .parameter value => some value
  | .list source => some source
  | _ => none

/-- The expression that a piece binds. -/
def Piece.source? : Piece → Option Expr
  | .edit e => e.source?
  | .tableName _ _ => none

/-- What becomes of the parts of a node. Most are written as they are. -/
inductive Node.Writes (ctx : RenderContext) (node : Node) (produced : Form) : Prop
  | parts : produced.parts = node.part.children → Node.Writes ctx node produced
  | bound {source : Expr} {piece : Piece} :
    produced = [.piece piece] → piece.source? = some source → source.isParameterizable = true →
    node.part = .expr source ∨ node.part = .values (.dynamic source) → Node.Writes ctx node produced
  | records {op : BinaryOp} {left right : List (String × Expr)} {comparison : Expr} :
    node.part = .expr (.binary op (.record left) (.record right)) →
    recordComparison op left right = .ok comparison → produced.parts = [.expr comparison] →
    Node.Writes ctx node produced
  | select {outermost : Bool} {select : Select} {columns : List Column} {plan : Plan}
      {keys : List Expr} :
    node.part = .select select → select.projection.flatten = .ok (columns, plan) →
    (∀ key, select.grouping = some key → key.groupingKeys = .ok keys) →
    produced = .select ctx outermost select columns keys → Node.Writes ctx node produced

theorem Node.Produces.writes {ctx : RenderContext} {node : Node} {produced : Form}
    (produces : node.Produces ctx produced) : node.Writes ctx produced := by
  cases produces with
  | hoisted bound =>
    have hoisted := Expr.isHoisted_of_isBoundAt bound
    rw [Expr.isHoisted, Bool.and_eq_true] at hoisted
    exact .bound rfl rfl hoisted.1 (.inl rfl)
  | valuesDynamic parameterizable => exact .bound rfl rfl parameterizable (.inr rfl)
  | records _ compared => exact .records rfl compared (by simp)
  | select flattened found => exact .select rfl flattened found rfl
  | _ =>
    exact .parts (by simp [Node.part, Part.children, Expr.children, InValues.children,
      Table.children, OrderBy.children])

theorem Form.mem_parts_select {ctx : RenderContext} (places : ctx.dialect.PlacesPaging)
    {outermost : Bool} {query : Select} {columns : List Column} {keys : List Expr} {part : Part} :
    part ∈ (Form.select ctx outermost query columns keys).parts ↔
      (∃ column ∈ columns, Part.expr column.expr = part) ∨
      (∃ key, query.grouping = some key ∧ ∃ expr ∈ keys, Part.expr expr = part) ∨
      part ∈ query.clauses := by
  have paging := Form.mem_parts_paging places query.ordering.isSome query.offset query.limit part
  simp only [Form.parts_select, Select.clauses, List.mem_append, List.mem_map, List.mem_flatMap,
    List.mem_singleton, Option.mem_toList] at paging ⊢
  grind

section Following

variable {ctx : RenderContext} {inner : Part}

/-- An input or a select that stands in a select, and is not the select itself, stands in a part
that is written or in one that flattening leaves to the host. -/
theorem Select.mem_parts_or_left (places : ctx.dialect.PlacesPaging)
    (followed : inner.isFollowed = true) (outermost : Bool) {select : Select}
    {columns : List Column} {plan : Plan} {keys : List Expr}
    (flattened : select.projection.flatten = .ok (columns, plan))
    (found : ∀ key, select.grouping = some key → key.groupingKeys = .ok keys)
    (contains : (Part.select select).Contains inner) :
    Part.select select = inner ∨
      (∃ part ∈ (Form.select ctx outermost select columns keys).parts, part.Contains inner) ∨
      ∃ left, select.Leaves left ∧ (Part.expr left).Contains inner := by
  have written := @Form.mem_parts_select ctx places outermost select columns keys
  rcases Relation.ReflTransGen.cases_head contains with rfl | ⟨child, member, inside⟩
  · exact .inl rfl
  right
  simp only [Part.children, Select.children, List.mem_cons, List.mem_append] at member
  rcases member with rfl | grouping | clause
  · have accounts := Projection.accounts_of_flatten followed flattened
    rcases accounts.accounted inside with ⟨column, listed, contains⟩ | ⟨left, leaves, contains⟩
    · exact .inl ⟨_, written.2 (.inl ⟨column, listed, rfl⟩), contains⟩
    · exact .inr ⟨left, .inl leaves, contains⟩
  · obtain ⟨key, present, rfl⟩ := List.mem_map.1 grouping
    rw [Option.mem_toList] at present
    obtain ⟨accounted, -⟩ := Expr.accounts_of_groupingKeys followed (found key present)
    rcases accounted inside with ⟨expr, listed, contains⟩ | ⟨left, leaves, contains⟩
    · exact .inl ⟨_, written.2 (.inr (.inl ⟨key, present, expr, listed, rfl⟩)), contains⟩
    · exact .inr ⟨left, .inr ⟨key, present, leaves⟩, contains⟩
  · exact .inl ⟨child, written.2 (.inr (.inr clause)), inside⟩

/-- The parts of a select that are written are its own. -/
theorem Select.contains_of_mem_parts (places : ctx.dialect.PlacesPaging) {outermost : Bool}
    {select : Select} {columns : List Column} {plan : Plan} {keys : List Expr}
    (flattened : select.projection.flatten = .ok (columns, plan))
    (found : ∀ key, select.grouping = some key → key.groupingKeys = .ok keys) {part : Part}
    (member : part ∈ (Form.select ctx outermost select columns keys).parts) :
    (Part.select select).Contains part := by
  rcases (Form.mem_parts_select places).1 member with ⟨column, listed, rfl⟩ |
    ⟨key, present, expr, listed, rfl⟩ | clause
  · exact (Projection.contains_of_flatten flattened listed).of_child List.mem_cons_self
  · exact (Expr.contains_of_groupingKeys (found key present) listed).of_child
      (by simp [Part.children, Select.children, present])
  · exact (Part.Contains.refl part).of_child
      (List.mem_cons_of_mem _ (List.mem_append_right _ clause))

/-- One step of following an input or a select: it is what the node writes, it stands in a part that
is still to be written, it is bound, or it is left to the host. -/
theorem Node.Produces.followed_cases (places : ctx.dialect.PlacesPaging)
    (followed : inner.isFollowed = true) {node : Node} {produced : Form}
    (produces : node.Produces ctx produced) (contains : node.part.Contains inner) :
    node.part = inner ∨ (∃ part ∈ produced.parts, part.Contains inner) ∨
      (∃ piece source, produced = [.piece piece] ∧ piece.source? = some source ∧
        source.IsHosted ∧ (Part.expr source).Contains inner) ∨
      ∃ select left, node.part = .select select ∧ select.Leaves left ∧ left.IsHosted ∧
        (Part.expr left).Contains inner := by
  cases produces.writes with
  | parts same =>
    rcases Relation.ReflTransGen.cases_head contains with itself | ⟨child, member, inside⟩
    · exact .inl itself
    · exact .inr (.inl ⟨child, by rwa [same], inside⟩)
  | @bound source piece only sourced parameterizable whose =>
    refine .inr (.inr (.inl ⟨piece, source, only, sourced, .of_isParameterizable parameterizable,
      ?_⟩))
    rcases whose with whose | whose
    · rwa [whose] at contains
    · rw [whose] at contains
      obtain ⟨child, member, inside⟩ := (Part.contains_iff_child followed rfl).1 contains
      obtain rfl := List.mem_singleton.1 member
      exact inside
  | records whose compared same =>
    rw [whose] at contains
    have plain := Part.isCombined_of_isFollowed followed
    refine .inr (.inl ⟨_, ?_, (Part.contains_recordComparison compared plain).2 contains⟩)
    rw [same]
    exact List.mem_singleton_self _
  | @select outermost select columns plan keys whose flattened found only =>
    rw [whose] at contains ⊢
    rcases Select.mem_parts_or_left places followed outermost flattened found contains with itself |
      written | ⟨left, leaves, inside⟩
    · exact .inl itself
    · rw [← only] at written
      exact .inr (.inl written)
    · exact .inr (.inr (.inr ⟨select, left, rfl, leaves, Select.isHosted_of_leaves flattened leaves,
        inside⟩))

/-- What is still to be written has no parts but those of the node, apart from what a record
comparison combines. -/
theorem Node.Produces.contains_of_mem (places : ctx.dialect.PlacesPaging)
    (plain : inner.isCombined = false) {node : Node} {produced : Form}
    (produces : node.Produces ctx produced) {part : Part} (member : part ∈ produced.parts)
    (inside : part.Contains inner) : node.part.Contains inner := by
  cases produces.writes with
  | parts same =>
    rw [same] at member
    exact inside.of_child member
  | bound only _ _ _ =>
    rw [only] at member
    cases member
  | records whose compared same =>
    rw [same] at member
    obtain rfl := List.mem_singleton.1 member
    rw [whose]
    exact (Part.contains_recordComparison compared plain).1 inside
  | @select outermost select columns plan keys whose flattened found only =>
    rw [only] at member
    rw [whose]
    exact (Select.contains_of_mem_parts places flattened found member).trans inside

/-- Where an input or a select of a part comes to be: it is written, or it is bound, or a select in
the part leaves it to the host. -/
inductive Script.Follows (ctx : RenderContext) (script : Script) (part inner : Part) : Prop
  | written {node : Node} {own : Script} :
    node.part = inner → Renders ctx (.node node) own → own ⊆ script →
    Script.Follows ctx script part inner
  | bound {piece : Piece} {source : Expr} :
    piece ∈ script → piece.source? = some source → source.IsHosted →
    (Part.expr source).Contains inner → Script.Follows ctx script part inner
  | left {select : Select} {expr : Expr} :
    part.Contains (.select select) → select.Leaves expr → expr.IsHosted →
    (Part.expr expr).Contains inner → Script.Follows ctx script part inner

theorem Script.Follows.mono {script more : Script} {part outer : Part}
    (follows : Script.Follows ctx script part inner) (longer : script ⊆ more)
    (wider : ∀ select, part.Contains (.select select) → outer.Contains (.select select)) :
    Script.Follows ctx more outer inner := by
  cases follows with
  | written whose renders inside => exact .written whose renders (List.Subset.trans inside longer)
  | bound member sourced hosted contains => exact .bound (longer member) sourced hosted contains
  | left contains leaves hosted inside => exact .left (wider _ contains) leaves hosted inside

/-- All inputs and selects of the parts of a form are followed through each of its scripts. -/
theorem Renders.follows (places : ctx.dialect.PlacesPaging) (followed : inner.isFollowed = true)
    {form : Form} {script : Script} (renders : Renders ctx form script) :
    ∀ part ∈ form.parts, part.Contains inner → Script.Follows ctx script part inner := by
  induction renders with
  | nil => exact List.forall_mem_nil _
  | piece piece _ ih =>
    intro part member contains
    exact (ih part member contains).mono (List.subset_cons_self _ _) (fun _ => id)
  | @node node produced form first rest produces produced' _ ihProduced ihRest =>
    refine List.forall_mem_cons.2 ⟨?_, ?_⟩
    · intro contains
      rcases produces.followed_cases places followed contains with itself | ⟨part, member, inside⟩ |
        ⟨piece, source, only, sourced, hosted, inside⟩ |
        ⟨select, left, whose, leaves, hosted, inside⟩
      · exact .written itself (.of_produces produces produced') (List.subset_append_left _ _)
      · -- What a select in that part leaves to the host, a select in the node does.
        refine (ihProduced part member inside).mono (List.subset_append_left _ _) fun select => ?_
        exact produces.contains_of_mem places rfl member
      · subst only
        cases produced' with
        | piece _ _ => exact .bound (by simp) sourced hosted inside
      · exact .left (by rw [whose]; exact .refl _) leaves hosted inside
    · intro part member contains
      exact (ihRest part member contains).mono (List.subset_append_right _ _) (fun _ => id)

/-- A select that stands anywhere in a part is written. -/
theorem Script.Follows.exists_renders {script : Script} {part : Part} {select : Select}
    (follows : Script.Follows ctx script part (.select select)) :
    ∃ outermost own, Renders ctx (.node (.select outermost select)) own ∧ own ⊆ script := by
  cases follows with
  | @written node own whose renders inside =>
    cases node with
    | select outermost _ =>
      cases whose
      exact ⟨outermost, own, renders, inside⟩
    | _ => cases whose
  | bound _ _ hosted contains =>
    obtain ⟨_, impossible, -⟩ := hosted.of_contains contains
    cases impossible
  | left _ _ hosted contains =>
    obtain ⟨_, impossible, -⟩ := hosted.of_contains contains
    cases impossible

/-- An input is written as a parameter of its own. -/
theorem Renders.mem_of_input {position : Position} {name : String} {type : DataType}
    {script : Script} (renders : Renders ctx (.node (.expr position (.input name type))) script) :
    .edit (.parameter (.input name type)) ∈ script := by
  cases renders with
  | node produces produced rest =>
    cases produces with
    | hoisted _ =>
      cases produced with
      | piece _ _ => simp

/-- An input that stands anywhere in a part is bound, or a select in the part leaves it to the
host. -/
theorem Script.Follows.bound_or_left {script : Script} {part : Part} {name : String}
    {type : DataType} (follows : Script.Follows ctx script part (.expr (.input name type))) :
    (∃ source ∈ script.filterMap Piece.source?, (Part.expr source).Mentions name) ∨
      ∃ select left, part.Contains (.select select) ∧ Select.Leaves select left ∧
        (Part.expr left).Mentions name := by
  cases follows with
  | @written node own whose renders inside =>
    cases node with
    | expr position _ =>
      cases whose
      refine .inl ⟨.input name type, ?_, type, .refl _⟩
      exact List.mem_filterMap.2 ⟨_, inside renders.mem_of_input, rfl⟩
    | _ => cases whose
  | @bound piece source member sourced _ contains =>
    exact .inl ⟨source, List.mem_filterMap.2 ⟨piece, member, sourced⟩, type, contains⟩
  | @left select expr contains leaves _ inside =>
    exact .inr ⟨select, expr, contains, leaves, type, inside⟩

end Following

end SqlLowering
