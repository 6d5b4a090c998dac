import SqlLowering.Proofs.ColumnNames

/-!
# The keys behind `GROUP BY`

The key of a grouping is flattened like a shape, and the columns that it comes to are the keys that
are written. What depends on inputs only is left to the host there too, though no host ever asks for
it: a key of which nothing else remains is written as no key at all
(`Select.grouping_without_keys`).

`Expr.IsLeftToHost` says when that happens. A key that has anything of the database in it has a key
to be written.
-/

namespace SqlLowering

/-! ## Shapes without columns -/

/-- Nothing of a shape is a column: the host evaluates what depends on inputs only, the constants
under a node of its own, and whatever is made of such parts. -/
inductive Expr.IsLeftToHost : Bool → Expr → Prop
  | evaluated {hosted : Bool} {expr : Expr} :
    expr.isShape = false → expr.isParameterizable = true → Expr.IsLeftToHost hosted expr
  | constant {value : Value} {type : DataType} : Expr.IsLeftToHost true (.constant value type)
  | record {hosted : Bool} {fields : List (String × Expr)} :
    (∀ field ∈ fields, Expr.IsLeftToHost hosted field.2) →
    Expr.IsLeftToHost hosted (.record fields)
  | parts {hosted : Bool} {expr : Expr} :
    expr.isShape = false → expr.isWhole = false →
    (∀ part ∈ expr.shapeParts, Expr.IsLeftToHost true part) → Expr.IsLeftToHost hosted expr

theorem Expr.listLeaves_eq_nil {exprs : List Expr} :
    Expr.listLeaves exprs = [] ↔ ∀ expr ∈ exprs, expr.leaves true = [] := by
  induction exprs with
  | nil => simp [Expr.listLeaves]
  | cons expr rest ih => simp [Expr.listLeaves, ih]

theorem Expr.fieldLeaves_eq_nil {hosted : Bool} {fields : List (String × Expr)} :
    Expr.fieldLeaves hosted fields = [] ↔ ∀ field ∈ fields, field.2.leaves hosted = [] := by
  induction fields with
  | nil => simp [Expr.fieldLeaves]
  | cons field rest ih => simp [Expr.fieldLeaves, ih]

/-- A node that is taken apart has no columns if none of its parts has. -/
theorem Expr.leaves_eq_nil_of_split {expr : Expr} (hosted : Bool) (apart : expr.isShape = false)
    (split : expr.isWhole = false) (parts : ∀ part ∈ expr.shapeParts, part.leaves true = []) :
    expr.leaves hosted = [] := by
  cases expr with
  | record _ | defaultIfEmpty _ _ _ => cases apart
  | member _ _ _ | unary _ _ | binary _ _ _ | conditional _ _ _ =>
    simp_all [Expr.leaves, Expr.leavesOr_of_split hosted _ split, Expr.shapeParts]
  | array elements type =>
    rw [Expr.leaves, Expr.leavesOr_of_split hosted _ split]
    exact Expr.listLeaves_eq_nil.2 parts
  | _ => exact Expr.leavesOr_of_split hosted _ split

theorem Expr.IsLeftToHost.leaves_eq_nil {hosted : Bool} {expr : Expr}
    (left : expr.IsLeftToHost hosted) : expr.leaves hosted = [] := by
  induction left with
  | @evaluated hosted expr apart parameterizable =>
    have whole : expr.isWhole = true := by rw [Expr.isWhole, parameterizable, Bool.true_or]
    rw [Expr.leaves_of_isWhole apart hosted whole,
      Expr.isLeaf_of_isParameterizable hosted parameterizable, if_neg Bool.false_ne_true]
  | constant => rfl
  | record _ ih => exact Expr.fieldLeaves_eq_nil.2 ih
  | parts apart split _ ih => exact Expr.leaves_eq_nil_of_split _ apart split ih

mutual

/-- A shape that comes to no columns is of the host altogether. -/
theorem Expr.Collects.left_of_leaves_eq_nil {path : List String} {hosted : Bool} {expr : Expr}
    {g after : Collected} {plan : Plan} :
    Expr.Collects path hosted expr g plan after → expr.leaves hosted = [] →
      expr.isOnHost = true ∧ expr.IsLeftToHost hosted
  | .evaluated apart parameterizable, _ => by
    have onHost := parameterizable
    rw [Expr.isParameterizable, Bool.and_eq_true] at onHost
    exact ⟨onHost.2, .evaluated apart parameterizable⟩
  | .constant, _ => ⟨rfl, .constant⟩
  | .leaf apart leaf, empty => by
    rw [Expr.leaves_of_isWhole apart hosted (Expr.isWhole_of_isLeaf leaf), leaf, if_pos rfl] at empty
    cases empty
  | .record fields, empty => by
    obtain ⟨onHost, left⟩ := fields.left_of_leaves_eq_nil empty
    exact ⟨onHost, .record left⟩
  -- The flag of a side of an outer join is a column.
  | .defaultIfEmpty _, empty => by cases empty
  | .member split source, empty => by
    rw [Expr.leaves, Expr.leavesOr_of_split _ _ split] at empty
    obtain ⟨onHost, left⟩ := source.left_of_leaves_eq_nil empty
    exact ⟨onHost, .parts rfl split (by simpa [Expr.shapeParts] using left)⟩
  | .array split elements, empty => by
    rw [Expr.leaves, Expr.leavesOr_of_split _ _ split] at empty
    obtain ⟨onHost, left⟩ := elements.left_of_leaves_eq_nil empty
    exact ⟨onHost, .parts rfl split left⟩
  | .binary split left right, empty => by
    rw [Expr.leaves, Expr.leavesOr_of_split _ _ split, List.append_eq_nil_iff] at empty
    obtain ⟨leftOnHost, leftLeft⟩ := left.left_of_leaves_eq_nil empty.1
    obtain ⟨rightOnHost, rightLeft⟩ := right.left_of_leaves_eq_nil empty.2
    exact ⟨by rw [Expr.isOnHost, leftOnHost, rightOnHost]; rfl,
      .parts rfl split (by simp [Expr.shapeParts, leftLeft, rightLeft])⟩
  | .unary split operand, empty => by
    rw [Expr.leaves, Expr.leavesOr_of_split _ _ split] at empty
    obtain ⟨onHost, left⟩ := operand.left_of_leaves_eq_nil empty
    exact ⟨onHost, .parts rfl split (by simpa [Expr.shapeParts] using left)⟩
  | .conditional split test ifTrue ifFalse, empty => by
    rw [Expr.leaves, Expr.leavesOr_of_split _ _ split, List.append_eq_nil_iff,
      List.append_eq_nil_iff] at empty
    obtain ⟨testOnHost, testLeft⟩ := test.left_of_leaves_eq_nil empty.1
    obtain ⟨trueOnHost, trueLeft⟩ := ifTrue.left_of_leaves_eq_nil empty.2.1
    obtain ⟨falseOnHost, falseLeft⟩ := ifFalse.left_of_leaves_eq_nil empty.2.2
    exact ⟨by rw [Expr.isOnHost, testOnHost, trueOnHost, falseOnHost]; rfl,
      .parts rfl split (by simp [Expr.shapeParts, testLeft, trueLeft, falseLeft])⟩

theorem Expr.CollectsList.left_of_leaves_eq_nil {path : List String} {exprs : List Expr}
    {g after : Collected} {plans : List Plan} :
    Expr.CollectsList path exprs g plans after → Expr.listLeaves exprs = [] →
      Expr.areOnHost exprs = true ∧ ∀ expr ∈ exprs, expr.IsLeftToHost true
  | .nil, _ => ⟨rfl, List.forall_mem_nil _⟩
  | .cons head tail, empty => by
    rw [Expr.listLeaves, List.append_eq_nil_iff] at empty
    obtain ⟨onHost, left⟩ := head.left_of_leaves_eq_nil empty.1
    obtain ⟨restOnHost, restLeft⟩ := tail.left_of_leaves_eq_nil empty.2
    exact ⟨by rw [Expr.areOnHost, onHost, restOnHost]; rfl,
      List.forall_mem_cons.2 ⟨left, restLeft⟩⟩

theorem Expr.CollectsFields.left_of_leaves_eq_nil {path : List String} {hosted : Bool}
    {fields : List (String × Expr)} {g after : Collected} {plans : List (String × Plan)} :
    Expr.CollectsFields path hosted fields g plans after → Expr.fieldLeaves hosted fields = [] →
      Expr.areFieldsOnHost fields = true ∧ ∀ field ∈ fields, field.2.IsLeftToHost hosted
  | .nil, _ => ⟨rfl, List.forall_mem_nil _⟩
  | .cons head tail, empty => by
    rw [Expr.fieldLeaves, List.append_eq_nil_iff] at empty
    obtain ⟨onHost, left⟩ := head.left_of_leaves_eq_nil empty.1
    obtain ⟨restOnHost, restLeft⟩ := tail.left_of_leaves_eq_nil empty.2
    exact ⟨by rw [Expr.areFieldsOnHost, onHost, restOnHost]; rfl,
      List.forall_mem_cons.2 ⟨left, restLeft⟩⟩

end

/-- The keys of a grouping are what the database evaluates for it, in order. There are none exactly
if all of it is left to the host, and then it has nothing of the database in it. -/
theorem Expr.leaves_of_groupingKeys {key : Expr} {keys : List Expr}
    (found : key.groupingKeys = .ok keys) :
    keys = key.leaves false ∧ (keys = [] ↔ key.IsLeftToHost false) ∧
      (keys = [] → key.isOnHost = true) := by
  simp only [Expr.groupingKeys, Except.bind_eq_ok, Except.pure_eq_ok] at found
  obtain ⟨⟨plan, g⟩, collected, rfl⟩ := found
  have collects := key.collects_of_collect collected
  have leaves : g.columns.map (·.expr) = key.leaves false := collects.exprs_eq
  rw [leaves]
  refine ⟨rfl, ⟨?_, Expr.IsLeftToHost.leaves_eq_nil⟩, ?_⟩
  · intro empty
    exact (collects.left_of_leaves_eq_nil empty).2
  · intro empty
    exact (collects.left_of_leaves_eq_nil empty).1

/-! ## Renderings, taken apart -/

section Renders

variable {ctx : RenderContext}

theorem Renders.exists_of_append {form form' : Form} {script : Script}
    (renders : Renders ctx (form ++ form') script) :
    ∃ first second, script = first ++ second ∧ Renders ctx form first ∧
      Renders ctx form' second := by
  induction form generalizing script with
  | nil => exact ⟨[], script, rfl, .nil, renders⟩
  | cons symbol rest ih =>
    cases renders with
    | piece piece tail =>
      obtain ⟨first, second, rfl, renders, renders'⟩ := ih tail
      exact ⟨piece :: first, second, rfl, .piece piece renders, renders'⟩
    | node produces produced tail =>
      obtain ⟨first, second, rfl, renders, renders'⟩ := ih tail
      exact ⟨_, second, (List.append_assoc _ _ _).symm, .node produces produced renders, renders'⟩

theorem Renders.eq_of_script {pieces script : Script} (renders : Renders ctx (.script pieces) script) :
    script = pieces := by
  induction pieces generalizing script with
  | nil =>
    cases renders
    rfl
  | cons piece rest ih =>
    cases renders with
    | piece _ tail => rw [ih tail]

/-- A derivation of separated forms comes apart into one derivation for each of them. -/
theorem Renders.exists_of_separated {separator : String} {forms : List Form} {script : Script}
    (renders : Renders ctx (.separated separator forms) script) :
    ∃ scripts, script = .separated separator scripts ∧
      List.Forall₂ (Renders ctx) forms scripts := by
  induction forms generalizing script with
  | nil =>
    cases renders
    exact ⟨[], rfl, .nil⟩
  | cons form rest ih =>
    cases rest with
    | nil => exact ⟨[script], rfl, .cons renders .nil⟩
    | cons next others =>
      obtain ⟨start, last, rfl, startRenders, lastRenders⟩ := Renders.exists_of_append renders
      obtain ⟨first, between, rfl, firstRenders, between'⟩ := startRenders.exists_of_append
      obtain ⟨scripts, rfl, each⟩ := ih lastRenders
      rw [between'.eq_of_script]
      refine ⟨first :: scripts, ?_, .cons firstRenders each⟩
      cases each with
      | cons _ _ => rfl

/-- A select that stands anywhere in what is written is written in one piece. -/
theorem Renders.exists_infix_of_contains (places : ctx.dialect.PlacesPaging) {inner : Select}
    {form : Form} {script : Script} (renders : Renders ctx form script) :
    ∀ part ∈ form.parts, part.Contains (.select inner) →
      ∃ outermost own, Renders ctx (.node (.select outermost inner)) own ∧ own <:+: script := by
  induction renders with
  | nil => exact List.forall_mem_nil _
  | piece piece _ ih =>
    intro part member contains
    obtain ⟨outermost, own, written, inside⟩ := ih part member contains
    exact ⟨outermost, own, written, inside.trans (List.suffix_cons piece _).isInfix⟩
  | @node node produced form first rest produces produced' _ ihProduced ihRest =>
    refine List.forall_mem_cons.2 ⟨?_, ?_⟩
    · intro contains
      rcases produces.followed_cases places rfl contains with itself | ⟨part, member, inside⟩ |
        ⟨_, source, _, _, hosted, inside⟩ | ⟨_, left, _, _, hosted, inside⟩
      · cases node with
        | select outermost _ =>
          cases itself
          exact ⟨outermost, first, .of_produces produces produced',
            (List.prefix_append _ _).isInfix⟩
        | _ => cases itself
      · obtain ⟨outermost, own, written, within⟩ := ihProduced part member inside
        exact ⟨outermost, own, written, within.trans (List.prefix_append _ _).isInfix⟩
      -- What is bound or left to the host has no selects.
      · obtain ⟨_, impossible, -⟩ := hosted.of_contains inside
        cases impossible
      · obtain ⟨_, impossible, -⟩ := hosted.of_contains inside
        cases impossible
    · intro part member contains
      obtain ⟨outermost, own, written, inside⟩ := ihRest part member contains
      exact ⟨outermost, own, written, inside.trans (List.suffix_append _ _).isInfix⟩

/-- A select with a grouping has keys, and they are what it writes behind `GROUP BY`. -/
theorem Renders.exists_grouping {outermost : Bool} {select : Select} {key : Expr} {script : Script}
    (renders : Renders ctx (.node (.select outermost select)) script)
    (grouped : select.grouping = some key) :
    ∃ keys items, key.groupingKeys = .ok keys ∧
      List.Forall₂ (fun expr item => Renders ctx (.item expr) item) keys items ∧
      Script.newline ++ Script.text "GROUP BY " ++ Script.separated ", " items <:+: script := by
  cases renders with
  | @node _ produced _ own rest produces renders nothing =>
    cases nothing
    rw [List.append_nil]
    cases produces with
    | @select _ _ columns _ keys flattened found =>
      obtain ⟨_, paging, rfl, renders, -⟩ := Renders.exists_of_append renders
      obtain ⟨_, ordering, rfl, renders, -⟩ := Renders.exists_of_append renders
      obtain ⟨before, grouping, rfl, -, renders⟩ := Renders.exists_of_append renders
      rw [grouped] at renders
      obtain ⟨_, list, rfl, opening, renders⟩ := Renders.exists_of_append renders
      obtain ⟨items, rfl, each⟩ := Renders.exists_of_separated renders
      obtain ⟨_, _, rfl, line, keyword⟩ := opening.exists_of_append
      obtain rfl := line.eq_of_script
      obtain rfl := keyword.eq_of_script
      refine ⟨keys, items, found key grouped, List.forall₂_map_left_iff.1 each, ?_⟩
      exact ⟨before, ordering ++ paging, by simp only [List.append_assoc]; rfl⟩

end Renders

/-! ## Groupings of lowered queries -/

/-- Wherever a select with a grouping stands in a query that can be lowered, the list behind its
`GROUP BY` is what the database evaluates of the key, item by item. The list is empty exactly if all
of the key is left to the host, which is never so for a key with anything of the database in it. -/
theorem Select.grouping_of_lower {dialect : Dialect} (places : dialect.PlacesPaging)
    {indentWidth : Nat} {select : Select} {lowered : Lowered}
    (lowers : select.lower dialect indentWidth = .ok lowered) {inner : Select}
    (contains : (Part.select select).Contains (.select inner)) {key : Expr}
    (grouped : inner.grouping = some key) :
    ∃ keys, key.groupingKeys = .ok keys ∧ keys = key.leaves false ∧
      (keys = [] ↔ key.IsLeftToHost false) ∧ (key.isOnHost = false → keys ≠ []) ∧
      ∃ script items, select.script dialect = .ok script ∧
        lowered.recipe = script.recipe dialect indentWidth ∧
        List.Forall₂ (fun expr item => Renders ⟨dialect, select.declarations⟩ (.item expr) item)
          keys items ∧
        Script.newline ++ Script.text "GROUP BY " ++ Script.separated ", " items <:+: script := by
  obtain ⟨script, scripted, recipe⟩ := Select.recipe_of_lower lowers
  have renders := Select.renders_of_script scripted
  obtain ⟨outermost, own, written, inside⟩ :=
    renders.exists_infix_of_contains places _ List.mem_cons_self contains
  obtain ⟨keys, items, found, each, within⟩ := written.exists_grouping grouped
  obtain ⟨leaves, none_iff, onHost⟩ := Expr.leaves_of_groupingKeys found
  refine ⟨keys, found, leaves, none_iff, ?_, script, items, scripted, recipe, each,
    within.trans inside⟩
  intro other none
  rw [onHost none] at other
  cases other

/-- The select of the counts of the rows of a table, grouped by a key. -/
def Select.countsBy (key : Expr) (table : Table) : Select :=
  ⟨.server (.aggregate "COUNT" (.column ⟨1⟩ "B" .int32) false .int32), some table, none, some key,
    none, none, none, false⟩

/-- Of a column, an input and a constant, the column and the constant are written. -/
theorem Select.grouping_countsBy_record :
    let column := Expr.column ⟨1⟩ "B" .int32
    let number := Expr.constant (.int 7) .int32
    let key := Expr.record [("B", column), ("X", .input "x" .int32), ("N", number)]
    let inner := Select.countsBy key (.base ⟨1⟩ "dbo" "U" "u")
    ∃ lowered, (Select.numbersAmong inner).lower .sqlServer 4 = .ok lowered ∧
      key.groupingKeys = .ok [column, number] ∧ ¬ key.IsLeftToHost false ∧
      ∃ script item item' : Script, lowered.recipe = script.recipe .sqlServer 4 ∧
        Script.newline ++ Script.text "GROUP BY " ++ (item ++ Script.text ", " ++ item') <:+:
          script := by
  intro column number key inner
  have places : Dialect.sqlServer.PlacesPaging := ⟨by decide, by decide⟩
  refine ⟨_, rfl, ?_⟩
  obtain ⟨keys, found, rfl, none_iff, -, script, items, -, recipe, each, inside⟩ :=
    Select.grouping_of_lower places rfl (Select.numbersAmong_nestsValue inner).contains rfl
  refine ⟨found, mt none_iff.2 (List.cons_ne_nil _ _), script, ?_⟩
  cases each with
  | cons _ rest =>
    cases rest with
    | cons _ rest =>
      cases rest
      exact ⟨_, _, recipe, inside⟩

/-- A grouping by an input alone writes no key. -/
theorem Select.grouping_without_keys :
    let key := Expr.input "x" .int32
    let select := Select.countsBy key (.base ⟨1⟩ "dbo" "U" "u")
    ∃ lowered, select.lower .sqlServer 4 = .ok lowered ∧ select.grouping = some key ∧
      key.groupingKeys = .ok [] ∧
      lowered.recipe.text? =
        some "SELECT COUNT([u].[B])\nFROM [dbo].[U] AS [u]\nGROUP BY " := by
  intro key select
  exact ⟨_, rfl, rfl, rfl, by decide +kernel⟩

end SqlLowering
