import SqlLowering.Proofs.HostAgreement
import SqlLowering.Proofs.PlanUses
import SqlLowering.Proofs.ShapeReading

/-!
# Plans are well scoped

Flattening hands out ordinals while it walks through a projection, and the plan that it makes keeps
them. `Plan.Fits` is what holds of each part of that plan: it uses the columns that have come in
while it was made, in their order and as what they are. Access to a field may drop some of them,
since it is folded where the record is constructed in place; nothing else does.

The bodies on the host use no columns, and what they take from around them is there as long as their
parameters are those of the shapes that they are applied to.
-/

namespace SqlLowering

/-- The types of the expressions of columns. -/
def Column.types (columns : List Column) : List DataType :=
  columns.map (·.expr.type)

/-- The ordinals of the columns that have come in when columns of some types have become more. -/
def ordinalsBetween (before after : List DataType) : List Nat :=
  List.range' before.length (after.length - before.length)

theorem ordinalsBetween_self (types : List DataType) : ordinalsBetween types types = [] := by
  rw [ordinalsBetween, Nat.sub_self, List.range'_zero]

theorem ordinalsBetween_snoc (types : List DataType) (type : DataType) :
    ordinalsBetween types (types ++ [type]) = [types.length] := by
  rw [ordinalsBetween, List.length_append, Nat.add_sub_cancel_left]
  rfl

theorem ordinalsBetween_append {before middle after : List DataType} (first : before <+: middle)
    (second : middle <+: after) :
    ordinalsBetween before middle ++ ordinalsBetween middle after =
      ordinalsBetween before after := by
  have upper := first.length_le
  have lower := second.length_le
  have start : middle.length = before.length + (middle.length - before.length) := by omega
  have size : after.length - before.length =
      (middle.length - before.length) + (after.length - middle.length) := by omega
  rw [ordinalsBetween, ordinalsBetween, ordinalsBetween, size, ← List.range'_append_1, ← start]

namespace Plan

/-- A use is right for columns of some types: a column is read as what it is, and what is evaluated
depends on the inputs only. -/
def Use.IsRightFor (types : List DataType) : Use → Prop
  | .value ordinal type | .document ordinal type => types[ordinal]? = some type
  | .flag _ => True
  | .inputs expr => expr.isParameterizable = true

theorem Use.IsRightFor.mono {types more : List DataType} {use : Use} (right : use.IsRightFor types)
    (kept : types <+: more) : use.IsRightFor more := by
  have found : ∀ {ordinal : Nat} {type : DataType}, types[ordinal]? = some type →
      more[ordinal]? = some type := by
    intro ordinal type present
    obtain ⟨below, -⟩ := List.getElem?_eq_some_iff.1 present
    obtain ⟨rest, rfl⟩ := kept
    rw [List.getElem?_append_left below, present]
  cases use with
  | value ordinal type => exact found right
  | document ordinal type => exact found right
  | flag ordinal => trivial
  | inputs expr => exact right

/-- Uses of the inputs only. -/
def OverInputs (uses : List Use) : Prop :=
  ∀ use ∈ uses, ∃ expr, use = .inputs expr ∧ expr.isParameterizable = true

theorem OverInputs.nil : OverInputs [] :=
  List.forall_mem_nil _

theorem OverInputs.evaluate {expr : Expr} (parameterizable : expr.isParameterizable = true) :
    OverInputs [.inputs expr] := by
  intro use member
  obtain rfl := List.mem_singleton.1 member
  exact ⟨expr, rfl, parameterizable⟩

theorem OverInputs.append {uses more : List Use} (first : OverInputs uses)
    (second : OverInputs more) : OverInputs (uses ++ more) :=
  List.forall_mem_append.2 ⟨first, second⟩

/-- What a part of a plan uses that was made while the columns of the types `before` became those of
`after`: columns that came in between, in their order, and all of them if nothing is dropped. -/
structure Fits (exact : Prop) (before after : List DataType) (uses : List Use) : Prop where
  kept : before <+: after
  inOrder : (uses.filterMap Use.ordinal?).Sublist (ordinalsBetween before after)
  complete : exact → uses.filterMap Use.ordinal? = ordinalsBetween before after
  right : ∀ use ∈ uses, use.IsRightFor after

namespace Fits

variable {exact exact' : Prop} {before middle after types : List DataType} {uses more : List Use}

/-- Uses that are no columns fit where no column comes in. -/
theorem of_inputs (hosted : OverInputs uses) (types : List DataType) :
    Fits exact types types uses := by
  have none : uses.filterMap Use.ordinal? = [] := by
    rw [List.filterMap_eq_nil_iff]
    intro use member
    obtain ⟨expr, rfl, -⟩ := hosted use member
    rfl
  refine ⟨List.prefix_rfl, ?_, fun _ => ?_, fun use member => ?_⟩
  · rw [none]
    exact List.nil_sublist _
  · rw [none, ordinalsBetween_self]
  · obtain ⟨expr, rfl, parameterizable⟩ := hosted use member
    exact parameterizable

theorem nil (types : List DataType) : Fits exact types types [] :=
  of_inputs .nil types

/-- The use of a column fits where that column comes in. -/
theorem of_column {use : Use} {type : DataType} (column : use.ordinal? = some types.length)
    (right : use.IsRightFor (types ++ [type])) : Fits exact types (types ++ [type]) [use] := by
  have only : [use].filterMap Use.ordinal? = ordinalsBetween types (types ++ [type]) := by
    rw [ordinalsBetween_snoc, List.filterMap_cons, column, List.filterMap_nil]
  refine ⟨List.prefix_append _ _, ?_, fun _ => only, ?_⟩
  · rw [only]
  · intro other member
    obtain rfl := List.mem_singleton.1 member
    exact right

theorem append (first : Fits exact before middle uses) (second : Fits exact middle after more) :
    Fits exact before after (uses ++ more) := by
  have joined := ordinalsBetween_append first.kept second.kept
  refine ⟨first.kept.trans second.kept, ?_, fun all => ?_, fun use member => ?_⟩
  · rw [List.filterMap_append, ← joined]
    exact first.inOrder.append second.inOrder
  · rw [List.filterMap_append, ← joined, first.complete all, second.complete all]
  · rcases List.mem_append.1 member with here | there
    · exact (first.right use here).mono second.kept
    · exact second.right use there

theorem mono (fits : Fits exact before after uses) (narrower : exact' → exact) :
    Fits exact' before after uses :=
  ⟨fits.kept, fits.inOrder, fun all => fits.complete (narrower all), fits.right⟩

/-- Uses may be dropped, but then not all columns are used. -/
theorem of_sublist (fits : Fits exact before after uses) (dropped : more.Sublist uses)
    (partly : ¬exact') : Fits exact' before after more :=
  ⟨fits.kept, (dropped.filterMap _).trans fits.inOrder, fun all => (partly all).elim,
    fun use member => fits.right use (dropped.subset member)⟩

end Fits

end Plan

/-! ## Shapes -/

theorem Column.types_addAt (g : Collected) (path : List String) (hosted : Bool) (expr : Expr) :
    Column.types (g.addAt path hosted expr).columns = Column.types g.columns ++ [expr.type] := by
  obtain ⟨name, columns⟩ := g.columns_addAt path hosted expr
  rw [columns, Column.types, List.map_append]
  rfl

theorem Column.length_types (columns : List Column) :
    (Column.types columns).length = columns.length :=
  List.length_map _

/-- The reading of a new column fits. -/
theorem Expr.fits_reading (exact : Prop) (columns : List Column) (expr : Expr) :
    Plan.Fits exact (Column.types columns) (Column.types columns ++ [expr.type])
      (expr.reading columns.length).uses := by
  have last : (Column.types columns ++ [expr.type])[columns.length]? = some expr.type := by
    rw [← Column.length_types, List.getElem?_concat_length]
  have place : some columns.length = some (Column.types columns).length := by
    rw [Column.length_types]
  rw [Expr.reading_eq]
  split
  · exact .of_column place last
  · exact .of_column place last

/-- The flag of a side of an outer join fits. -/
theorem Collected.fits_flag (exact : Prop) (g : Collected) (name : String) (flag : Expr) :
    Plan.Fits exact (Column.types g.columns) (Column.types (g.add name flag).columns)
      [.flag g.columns.length] := by
  have place : some g.columns.length = some (Column.types g.columns).length := by
    rw [Column.length_types]
  have types : Column.types (g.add name flag).columns = Column.types g.columns ++ [flag.type] :=
    List.map_append
  rw [types]
  exact .of_column place trivial

theorem Expr.not_lacksMembers_member (expr : Expr) (field : String) (type : DataType) :
    ¬(Expr.member expr field type).LacksMembers :=
  fun lacks => lacks expr field type (.refl _)

mutual

/-- The plan of a shape fits the columns of the shape. -/
theorem Expr.Collects.fits {path : List String} {hosted : Bool} {expr : Expr}
    {g after : Collected} {plan : Plan} :
    Expr.Collects path hosted expr g plan after →
      Plan.Fits expr.LacksMembers (Column.types g.columns) (Column.types after.columns) plan.uses
  | .evaluated _ parameterizable => .of_inputs (.evaluate parameterizable) _
  | .constant => .nil _
  | .leaf _ _ => by
    rw [Column.types_addAt]
    exact expr.fits_reading _ _
  | .record fields => by
    refine fields.fits.mono fun lacks field member => ?_
    exact lacks.of_child (List.mem_map_of_mem member)
  | .defaultIfEmpty inner => by
    refine (g.fits_flag _ _ _).append (inner.fits.mono fun lacks => ?_)
    exact lacks.of_child (List.mem_cons_of_mem _ List.mem_cons_self)
  | .member _ source => by
    have fits := source.fits
    rw [Collected.columns_underHost] at fits
    exact fits.of_sublist (Plan.uses_access _ _) (Expr.not_lacksMembers_member _ _ _)
  | .array _ elements => by
    have fits := elements.fits
    rw [Collected.columns_underHost] at fits
    refine fits.mono fun lacks element member => ?_
    exact lacks.of_child (List.mem_map_of_mem member)
  | .binary _ left right => by
    have first := left.fits
    rw [Collected.columns_underHost] at first
    refine (first.mono fun lacks => ?_).append (right.fits.mono fun lacks => ?_)
    · exact lacks.of_child List.mem_cons_self
    · exact lacks.of_child (List.mem_cons_of_mem _ List.mem_cons_self)
  | .unary _ operand => by
    have fits := operand.fits
    rw [Collected.columns_underHost] at fits
    exact fits.mono fun lacks => lacks.of_child List.mem_cons_self
  | .conditional _ test ifTrue ifFalse => by
    have first := test.fits
    rw [Collected.columns_underHost] at first
    refine ((first.mono fun lacks => ?_).append (ifTrue.fits.mono fun lacks => ?_)).append
      (ifFalse.fits.mono fun lacks => ?_)
    · exact lacks.of_child List.mem_cons_self
    · exact lacks.of_child (List.mem_cons_of_mem _ List.mem_cons_self)
    · exact lacks.of_child (by simp [Expr.children])

theorem Expr.CollectsList.fits {path : List String} {exprs : List Expr} {g after : Collected}
    {plans : List Plan} :
    Expr.CollectsList path exprs g plans after →
      Plan.Fits (∀ expr ∈ exprs, expr.LacksMembers) (Column.types g.columns)
        (Column.types after.columns) (Plan.listUses plans)
  | .nil => .nil _
  | .cons head tail => by
    refine (head.fits.mono fun lacks => ?_).append (tail.fits.mono fun lacks => ?_)
    · exact lacks _ List.mem_cons_self
    · exact fun expr member => lacks expr (List.mem_cons_of_mem _ member)

theorem Expr.CollectsFields.fits {path : List String} {hosted : Bool}
    {fields : List (String × Expr)} {g after : Collected} {plans : List (String × Plan)} :
    Expr.CollectsFields path hosted fields g plans after →
      Plan.Fits (∀ field ∈ fields, field.2.LacksMembers) (Column.types g.columns)
        (Column.types after.columns) (Plan.fieldUses plans)
  | .nil => .nil _
  | .cons head tail => by
    refine (head.fits.mono fun lacks => ?_).append (tail.fits.mono fun lacks => ?_)
    · exact lacks _ List.mem_cons_self
    · exact fun field member => lacks field (List.mem_cons_of_mem _ member)

end

mutual

/-- The plan of a shape takes nothing from around it. -/
theorem Expr.Collects.isScoped (count : Nat) {path : List String} {hosted : Bool} {expr : Expr}
    {g after : Collected} {plan : Plan} :
    Expr.Collects path hosted expr g plan after → plan.isScoped count = true
  | .evaluated _ _ | .constant => rfl
  | .leaf _ _ => by
    rw [Expr.reading_eq]
    split <;> rfl
  | .record fields => fields.areScoped count
  | .defaultIfEmpty inner => inner.isScoped count
  | .member _ source => Plan.isScoped_access (source.isScoped count) _
  | .array _ elements => elements.areScoped count
  | .binary _ left right => Bool.and_eq_true_iff.2 ⟨left.isScoped count, right.isScoped count⟩
  | .unary _ operand => operand.isScoped count
  | .conditional _ test ifTrue ifFalse => by
    rw [Plan.isScoped, test.isScoped count, ifTrue.isScoped count, ifFalse.isScoped count]
    rfl

theorem Expr.CollectsList.areScoped (count : Nat) {path : List String} {exprs : List Expr}
    {g after : Collected} {plans : List Plan} :
    Expr.CollectsList path exprs g plans after → Plan.areScoped count plans = true
  | .nil => rfl
  | .cons head tail => Bool.and_eq_true_iff.2 ⟨head.isScoped count, tail.areScoped count⟩

theorem Expr.CollectsFields.areScoped (count : Nat) {path : List String} {hosted : Bool}
    {fields : List (String × Expr)} {g after : Collected} {plans : List (String × Plan)} :
    Expr.CollectsFields path hosted fields g plans after →
      Plan.areFieldsScoped count plans = true
  | .nil => rfl
  | .cons head tail => Bool.and_eq_true_iff.2 ⟨head.isScoped count, tail.areScoped count⟩

end

/-! ## Bodies on the host -/

/-- What the plan of a body on the host uses and takes from around it: no columns, and nothing that
is not there if there is enough. -/
structure Plan.Suits (enough : Nat → Prop) (uses : List Plan.Use) (scope : Nat → Bool) : Prop where
  overInputs : Plan.OverInputs uses
  inScope : ∀ count, enough count → scope count = true

namespace Plan.Suits

variable {enough enough' : Nat → Prop} {uses more : List Use} {scope scope' : Nat → Bool}

theorem evaluate {expr : Expr} (parameterizable : expr.isParameterizable = true) :
    Suits enough [.inputs expr] fun _ => true :=
  ⟨.evaluate parameterizable, fun _ _ => rfl⟩

theorem nothing : Suits enough [] fun _ => true :=
  ⟨.nil, fun _ _ => rfl⟩

theorem mono (suits : Suits enough uses scope) (more : ∀ count, enough' count → enough count) :
    Suits enough' uses scope :=
  ⟨suits.overInputs, fun count there => suits.inScope count (more count there)⟩

theorem append (first : Suits enough uses scope) (second : Suits enough more scope') :
    Suits enough (uses ++ more) fun count => scope count && scope' count := by
  refine ⟨first.overInputs.append second.overInputs, fun count there => ?_⟩
  rw [first.inScope count there, second.inScope count there]
  rfl

/-- Access to a field takes nothing that its source does not take. -/
theorem access {source : Plan} (suits : Suits enough source.uses (source.isScoped ·))
    (name : String) : Suits enough (source.access name).uses ((source.access name).isScoped ·) :=
  ⟨fun use member => suits.overInputs use ((source.uses_access name).subset member),
    fun count there => isScoped_access (suits.inScope count there) name⟩

end Plan.Suits

/-- A body that depends on inputs only is evaluated, any other is compiled in parts. -/
theorem Expr.suits_or_of_compile {enough : Nat → Prop} {body : Expr} {plan : Plan}
    {parts : Except LowerError Plan}
    (compiled : (if body.isParameterizable then .ok (.evaluate body) else parts) = .ok plan) :
    Plan.Suits enough plan.uses (plan.isScoped ·) ∨ parts = .ok plan := by
  split at compiled
  next parameterizable =>
    cases compiled
    exact .inl (.evaluate parameterizable)
  · exact .inr compiled

mutual

/-- The plan of a body uses no columns, and it takes the parameters of the body from around it. -/
theorem Expr.suits_of_compile :
    ∀ (body : Expr) {plan : Plan}, body.compile = .ok plan →
      Plan.Suits (body.ParametersBelow ·) plan.uses (plan.isScoped ·)
  | .parameter index type, plan, compiled => by
    cases compiled
    refine ⟨.nil, fun count below => ?_⟩
    have bound : index.toNat < count := below index type (.refl _)
    exact decide_eq_true bound
  | .constant value type, plan, compiled => by
    cases compiled
    exact .nothing
  | .aliased body name, plan, compiled => by
    rw [Expr.compile] at compiled
    exact (body.suits_of_compile compiled).mono
      fun _ below => below.of_child (List.mem_singleton_self _)
  | .input name type, plan, compiled => by
    cases compiled
    exact .evaluate rfl
  | .record fields, plan, compiled => by
    rw [Expr.compile] at compiled
    rcases Expr.suits_or_of_compile compiled with whole | compiled
    · exact whole
    simp only [Except.bind_eq_ok, Except.pure_eq_ok] at compiled
    obtain ⟨plans, fieldsCompiled, rfl⟩ := compiled
    exact (Expr.suits_of_compileFields fields fieldsCompiled).mono
      fun _ below field member => below.of_child (List.mem_map_of_mem member)
  | .member body field type, plan, compiled => by
    rw [Expr.compile] at compiled
    rcases Expr.suits_or_of_compile compiled with whole | compiled
    · exact whole
    simp only [Except.bind_eq_ok, Except.pure_eq_ok] at compiled
    obtain ⟨source, sourceCompiled, rfl⟩ := compiled
    refine Plan.Suits.access ((body.suits_of_compile sourceCompiled).mono ?_) field
    exact fun _ below => below.of_child (List.mem_singleton_self _)
  | .array elements type, plan, compiled => by
    rw [Expr.compile] at compiled
    rcases Expr.suits_or_of_compile compiled with whole | compiled
    · exact whole
    simp only [Except.bind_eq_ok, Except.pure_eq_ok] at compiled
    obtain ⟨plans, elementsCompiled, rfl⟩ := compiled
    exact (Expr.suits_of_compileList elements elementsCompiled).mono
      fun _ below element member => below.of_child (List.mem_map_of_mem member)
  | .binary op left right, plan, compiled => by
    rw [Expr.compile] at compiled
    rcases Expr.suits_or_of_compile compiled with whole | compiled
    · exact whole
    simp only [Except.bind_eq_ok, Except.pure_eq_ok] at compiled
    obtain ⟨leftPlan, leftCompiled, rightPlan, rightCompiled, rfl⟩ := compiled
    refine ((left.suits_of_compile leftCompiled).mono ?_).append
      ((right.suits_of_compile rightCompiled).mono ?_)
    · exact fun _ below => below.of_child List.mem_cons_self
    · exact fun _ below => below.of_child (List.mem_cons_of_mem _ List.mem_cons_self)
  | .unary op operand, plan, compiled => by
    rw [Expr.compile] at compiled
    rcases Expr.suits_or_of_compile compiled with whole | compiled
    · exact whole
    simp only [Except.bind_eq_ok, Except.pure_eq_ok] at compiled
    obtain ⟨operandPlan, operandCompiled, rfl⟩ := compiled
    exact (operand.suits_of_compile operandCompiled).mono
      fun _ below => below.of_child (List.mem_singleton_self _)
  | .conditional test ifTrue ifFalse, plan, compiled => by
    rw [Expr.compile] at compiled
    rcases Expr.suits_or_of_compile compiled with whole | compiled
    · exact whole
    simp only [Except.bind_eq_ok, Except.pure_eq_ok] at compiled
    obtain ⟨testPlan, testCompiled, truePlan, trueCompiled, falsePlan, falseCompiled, rfl⟩ :=
      compiled
    refine (((test.suits_of_compile testCompiled).mono ?_).append
      ((ifTrue.suits_of_compile trueCompiled).mono ?_)).append
      ((ifFalse.suits_of_compile falseCompiled).mono ?_)
    · exact fun _ below => below.of_child List.mem_cons_self
    · exact fun _ below => below.of_child (List.mem_cons_of_mem _ List.mem_cons_self)
    · exact fun _ below => below.of_child (by simp [Expr.children])
  -- The nodes of the database have no place in a body.
  | .column .., _, compiled | .function .., _, compiled | .fragment .., _, compiled
  | .cast .., _, compiled | .exists _, _, compiled | .isIn .., _, compiled
  | .aggregate .., _, compiled | .subquery .., _, compiled
  | .defaultIfEmpty .., _, compiled => by cases compiled

theorem Expr.suits_of_compileList :
    ∀ (bodies : List Expr) {plans : List Plan}, Expr.compileList bodies = .ok plans →
      Plan.Suits (fun count => ∀ body ∈ bodies, body.ParametersBelow count) (Plan.listUses plans)
        (Plan.areScoped · plans)
  | [], plans, compiled => by
    cases compiled
    exact .nothing
  | body :: rest, plans, compiled => by
    simp only [Expr.compileList, Except.bind_eq_ok, Except.pure_eq_ok] at compiled
    obtain ⟨plan, bodyCompiled, others, restCompiled, rfl⟩ := compiled
    refine ((body.suits_of_compile bodyCompiled).mono ?_).append
      ((Expr.suits_of_compileList rest restCompiled).mono ?_)
    · exact fun _ below => below body List.mem_cons_self
    · exact fun _ below other member => below other (List.mem_cons_of_mem _ member)

/-- The plans of bodies in fields use no columns, and only parameters that are there. -/
theorem Expr.suits_of_compileFields :
    ∀ (fields : List (String × Expr)) {plans : List (String × Plan)},
      Expr.compileFields fields = .ok plans →
      Plan.Suits (fun count => ∀ field ∈ fields, field.2.ParametersBelow count)
        (Plan.fieldUses plans) (Plan.areFieldsScoped · plans)
  | [], plans, compiled => by
    cases compiled
    exact .nothing
  | (name, body) :: rest, plans, compiled => by
    simp only [Expr.compileFields, Except.bind_eq_ok, Except.pure_eq_ok] at compiled
    obtain ⟨plan, bodyCompiled, others, restCompiled, rfl⟩ := compiled
    refine ((body.suits_of_compile bodyCompiled).mono ?_).append
      ((Expr.suits_of_compileFields rest restCompiled).mono ?_)
    · exact fun _ below => below (name, body) List.mem_cons_self
    · exact fun _ below other member => below other (List.mem_cons_of_mem _ member)

end

/-! ## Projections -/

/-- A projection takes no field from anything, at any depth. -/
def Projection.LacksMembers (projection : Projection) : Prop :=
  ∀ inner field type,
    ¬(Part.projection projection).Contains (.expr (.member inner field type))

/-- A body that is applied to a shape has one parameter, a body that combines two results has
two. -/
def Projection.IsClosed : Projection → Prop
  | .server _ => True
  | .client _ after => after.ParametersBelow 1
  | .composite outer inner result => outer.IsClosed ∧ inner.IsClosed ∧ result.ParametersBelow 2

theorem Projection.LacksMembers.of_expr {projection : Projection} {child : Expr}
    (lacks : projection.LacksMembers) (member : .expr child ∈ projection.children) :
    child.LacksMembers := by
  intro inner field type contains
  exact lacks inner field type (contains.of_child member)

theorem Projection.LacksMembers.of_projection {projection child : Projection}
    (lacks : projection.LacksMembers) (member : .projection child ∈ projection.children) :
    child.LacksMembers := by
  intro inner field type contains
  exact lacks inner field type (contains.of_child member)

/-- Names in front of the names of columns do not change their types. -/
theorem Column.types_positioned (columns : List Column) :
    Column.types (Shapes.positioned columns) = Column.types columns := by
  simp [Column.types, Shapes.positioned, Function.comp_def]

/-- The plan of one more shape fits its columns and takes nothing from around it. -/
theorem Shapes.fits_of_add {shapes after : Shapes} {body : Expr} {plan : Plan}
    (added : shapes.add body = .ok (plan, after)) :
    Plan.Fits body.LacksMembers (Column.types shapes.columns) (Column.types after.columns)
        plan.uses ∧
      ∀ count, plan.isScoped count = true := by
  simp only [Shapes.add, Except.bind_eq_ok, Except.pure_eq_ok] at added
  obtain ⟨⟨bodyPlan, g⟩, collected, same⟩ := added
  cases same
  have derivation := body.collects_of_collect collected
  have fits := derivation.fits
  refine ⟨?_, fun count => derivation.isScoped count⟩
  by_cases second : shapes.count = 1
  · rw [if_pos second, Column.types_positioned] at fits
    exact fits
  · rw [if_neg second] at fits
    exact fits

/-- The plan of a projection fits the columns of its shapes. -/
theorem Projection.fits_of_flattenFrom :
    ∀ (projection : Projection) {shapes after : Shapes} {plan : Plan},
      projection.flattenFrom shapes = .ok (plan, after) →
      Plan.Fits projection.LacksMembers (Column.types shapes.columns)
        (Column.types after.columns) plan.uses
  | .server body, shapes, after, plan, flattened =>
    (Shapes.fits_of_add flattened).1.mono fun lacks => lacks.of_expr List.mem_cons_self
  | .client body host, shapes, after, plan, flattened => by
    simp only [Projection.flattenFrom, Except.bind_eq_ok, Except.pure_eq_ok] at flattened
    obtain ⟨⟨bodyPlan, last⟩, added, hostPlan, compiled, same⟩ := flattened
    cases same
    have shape : Plan.Fits (Projection.client body host).LacksMembers _ _ bodyPlan.uses :=
      (Shapes.fits_of_add added).1.mono fun lacks => lacks.of_expr List.mem_cons_self
    have hosted := (host.suits_of_compile compiled).overInputs
    exact (shape.append (.nil _)).append (.of_inputs hosted _)
  | .composite outer inner result, shapes, after, plan, flattened => by
    simp only [Projection.flattenFrom, Except.bind_eq_ok, Except.pure_eq_ok] at flattened
    obtain ⟨⟨outerPlan, middle⟩, outerFlattened, ⟨innerPlan, last⟩, innerFlattened, resultPlan,
      compiled, same⟩ := flattened
    cases same
    have first : Plan.Fits (Projection.composite outer inner result).LacksMembers _ _
        outerPlan.uses :=
      (outer.fits_of_flattenFrom outerFlattened).mono
        fun lacks => lacks.of_projection List.mem_cons_self
    have second := (inner.fits_of_flattenFrom innerFlattened).mono
      fun lacks : (Projection.composite outer inner result).LacksMembers =>
        lacks.of_projection (List.mem_cons_of_mem _ List.mem_cons_self)
    have hosted := (result.suits_of_compile compiled).overInputs
    exact (first.append (second.append (.nil _))).append (.of_inputs hosted _)

/-- If its bodies on the host have no other parameters, the plan of a projection takes nothing from
around it. -/
theorem Projection.isScoped_of_flattenFrom :
    ∀ (projection : Projection) {shapes after : Shapes} {plan : Plan}, projection.IsClosed →
      projection.flattenFrom shapes = .ok (plan, after) → ∀ count, plan.isScoped count = true
  | .server body, shapes, after, plan, _, flattened, count => (Shapes.fits_of_add flattened).2 count
  | .client body host, shapes, after, plan, closed, flattened, count => by
    simp only [Projection.flattenFrom, Except.bind_eq_ok, Except.pure_eq_ok] at flattened
    obtain ⟨⟨bodyPlan, last⟩, added, hostPlan, compiled, same⟩ := flattened
    cases same
    have shape := (Shapes.fits_of_add added).2 count
    have applied : hostPlan.isScoped 1 = true := (host.suits_of_compile compiled).inScope 1 closed
    simp [Plan.isScoped, Plan.areScoped, shape, applied]
  | .composite outer inner result, shapes, after, plan, closed, flattened, count => by
    simp only [Projection.flattenFrom, Except.bind_eq_ok, Except.pure_eq_ok] at flattened
    obtain ⟨⟨outerPlan, middle⟩, outerFlattened, ⟨innerPlan, last⟩, innerFlattened, resultPlan,
      compiled, same⟩ := flattened
    cases same
    obtain ⟨outerClosed, innerClosed, resultClosed⟩ := closed
    have first := outer.isScoped_of_flattenFrom outerClosed outerFlattened count
    have second := inner.isScoped_of_flattenFrom innerClosed innerFlattened count
    have applied : resultPlan.isScoped 2 = true :=
      (result.suits_of_compile compiled).inScope 2 resultClosed
    simp [Plan.isScoped, Plan.areScoped, first, second, applied]

/-- The plan of a projection fits its columns. -/
theorem Projection.fits_of_flatten {projection : Projection} {columns : List Column} {plan : Plan}
    (flattened : projection.flatten = .ok (columns, plan)) :
    Plan.Fits projection.LacksMembers [] (Column.types columns) plan.uses := by
  simp only [Projection.flatten, Except.bind_eq_ok, Except.pure_eq_ok] at flattened
  obtain ⟨⟨flattenedPlan, shapes⟩, flattenedFrom, same⟩ := flattened
  cases same
  exact projection.fits_of_flattenFrom flattenedFrom

theorem Projection.isScoped_of_flatten {projection : Projection} {columns : List Column}
    {plan : Plan} (closed : projection.IsClosed)
    (flattened : projection.flatten = .ok (columns, plan)) (count : Nat) :
    plan.isScoped count = true := by
  simp only [Projection.flatten, Except.bind_eq_ok, Except.pure_eq_ok] at flattened
  obtain ⟨⟨flattenedPlan, shapes⟩, flattenedFrom, same⟩ := flattened
  cases same
  exact projection.isScoped_of_flattenFrom closed flattenedFrom count

/-! ## Runs of plans that fit -/

section Fitting

variable {exact : Prop} {columns : List Column} {plan : Plan}

theorem Column.ordinalsBetween_types (columns : List Column) :
    ordinalsBetween [] (Column.types columns) = List.range columns.length := by
  rw [ordinalsBetween, Column.length_types, List.range_eq_range']
  rfl

theorem Plan.Fits.ordinals_sublist (fits : Plan.Fits exact [] (Column.types columns) plan.uses) :
    plan.ordinals.Sublist (List.range columns.length) := by
  have inOrder := fits.inOrder
  rw [Column.ordinalsBetween_types] at inOrder
  exact inOrder

theorem Plan.Fits.ordinal_lt (fits : Plan.Fits exact [] (Column.types columns) plan.uses)
    {use : Plan.Use} (member : use ∈ plan.uses) {ordinal : Nat}
    (column : use.ordinal? = some ordinal) : ordinal < columns.length := by
  have listed : ordinal ∈ plan.ordinals := List.mem_filterMap.2 ⟨use, member, column⟩
  exact List.mem_range.1 (fits.ordinals_sublist.subset listed)

/-- A column that is read is there, and it is read as what it is. -/
theorem Plan.Fits.typed (fits : Plan.Fits exact [] (Column.types columns) plan.uses) {ordinal : Nat}
    {type : DataType}
    (used : .value ordinal type ∈ plan.uses ∨ .document ordinal type ∈ plan.uses) :
    ∃ column, columns[ordinal]? = some column ∧ column.expr.type = type := by
  have right : (Column.types columns)[ordinal]? = some type := by
    rcases used with value | document
    · exact fits.right _ value
    · exact fits.right _ document
  rw [Column.types, List.getElem?_map] at right
  exact Option.map_eq_some_iff.1 right

/-- A row with a value for each column has every column that is used. -/
theorem Plan.Fits.not_outOfRange (fits : Plan.Fits exact [] (Column.types columns) plan.uses)
    {row : Row} (enough : columns.length ≤ row.length) (inputs : Inputs) (ordinal width : Nat) :
    plan.materialize row inputs ≠ .error (.columnOutOfRange ordinal width) := by
  intro failed
  cases plan.arises_of_run row inputs [] failed with
  | outOfRange member column beyond =>
    have below := fits.ordinal_lt member column
    omega

/-- Rows with the same values for the columns are the same. -/
theorem Plan.Fits.materialize_eq (fits : Plan.Fits exact [] (Column.types columns) plan.uses)
    {row other : Row} (enough : columns.length ≤ row.length)
    (same : other.take columns.length = row.take columns.length) (inputs : Inputs) :
    plan.materialize other inputs = plan.materialize row inputs := by
  apply plan.run_eq_of_agreesOn inputs []
  intro use member ordinal column
  have below := fits.ordinal_lt member column
  have inRow : ordinal < row.length := by omega
  have found : row[ordinal]? = some row[ordinal] := List.getElem?_eq_getElem inRow
  refine ⟨row[ordinal], ?_, found⟩
  rw [← List.getElem?_take_of_lt below, same, List.getElem?_take_of_lt below, found]

end Fitting

/-- Plans are well scoped. The columns of a projection are used in their order and each at most
once, and all are if the projection takes no fields; every column is read as what it is. A row with
a value for each column has every column that is used, and nothing beyond them matters. If each body
on the host has no parameters but those that it is applied to, none is unbound. -/
theorem Projection.wellScoped_of_flatten {projection : Projection} {columns : List Column}
    {plan : Plan} (flattened : projection.flatten = .ok (columns, plan)) :
    plan.ordinals.Pairwise (· < ·) ∧
      (∀ ordinal ∈ plan.ordinals, ordinal < columns.length) ∧
      (projection.LacksMembers → plan.ordinals = List.range columns.length) ∧
      (∀ ordinal type, .value ordinal type ∈ plan.uses ∨ .document ordinal type ∈ plan.uses →
        ∃ column, columns[ordinal]? = some column ∧ column.expr.type = type) ∧
      (∀ (row : Row) (inputs : Inputs), columns.length ≤ row.length →
        (∀ ordinal width,
          plan.materialize row inputs ≠ .error (.columnOutOfRange ordinal width)) ∧
        ∀ other : Row, other.take columns.length = row.take columns.length →
          plan.materialize other inputs = plan.materialize row inputs) ∧
      (projection.IsClosed → ∀ (row : Row) (inputs : Inputs) (index : UInt64),
        plan.materialize row inputs ≠ .error (.unboundParameter index)) := by
  have fits := Projection.fits_of_flatten flattened
  refine ⟨?_, ?_, ?_, fun _ _ used => fits.typed used, ?_, ?_⟩
  · exact List.pairwise_lt_range.sublist fits.ordinals_sublist
  · intro ordinal member
    exact List.mem_range.1 (fits.ordinals_sublist.subset member)
  · intro lacks
    rw [Plan.ordinals, fits.complete lacks, Column.ordinalsBetween_types]
  · intro row inputs enough
    exact ⟨fits.not_outOfRange enough inputs,
      fun other same => fits.materialize_eq enough same inputs⟩
  · intro closed row inputs index failed
    cases plan.arises_of_run row inputs [] failed with
    | unbound outside =>
      rw [Projection.isScoped_of_flatten closed flattened] at outside
      cases outside

/-- An order whose customer may be missing, beside a number that the host adds to. -/
def Projection.orderBesideNext : Projection :=
  .composite
    (.server (.record
      [("Customer", .defaultIfEmpty (.record [("Name", .column ⟨1⟩ "Name" .string)])
          (.fragment "c.Id IS NULL" .bool) "$empty"),
        ("Tag", .input "tag" .string),
        ("Id", .column ⟨0⟩ "Id" .int32)]))
    (.client (.column ⟨3⟩ "Total" .int32)
      (.binary .add (.parameter 0 .int32) (.constant (.int 1) .int32)))
    (.record [("Order", .parameter 0 (.record [])), ("Next", .parameter 1 .int32)])

/-- The plan has four columns: it reads these and no more of a row, and no parameter is unbound. -/
theorem Projection.wellScoped_orderBesideNext :
    ∃ (columns : List Column) (plan : Plan),
      Projection.orderBesideNext.flatten = .ok (columns, plan) ∧
      columns.length = 4 ∧ plan.ordinals = [0, 1, 2, 3] ∧
      (∀ (row : Row) (inputs : Inputs), 4 ≤ row.length →
        plan.materialize (row.take 4) inputs = plan.materialize row inputs) ∧
      ∀ (row : Row) (inputs : Inputs) (index : UInt64),
        plan.materialize row inputs ≠ .error (.unboundParameter index) := by
  have lacks : Projection.orderBesideNext.LacksMembers := by
    intro inner field type contains
    simp [@Part.contains_iff (.expr _), @Part.contains_iff (.projection _), Part.children,
      Projection.children, Expr.children, Projection.orderBesideNext] at contains
  have closed : Projection.orderBesideNext.IsClosed := by
    refine ⟨trivial, ?_, ?_⟩ <;> intro index type contains
    · simp [@Part.contains_iff (.expr _), Part.children, Expr.children] at contains
      obtain ⟨rfl, -⟩ := contains
      simp
    · simp [@Part.contains_iff (.expr _), Part.children, Expr.children] at contains
      rcases contains with ⟨rfl, -⟩ | ⟨rfl, -⟩ <;> simp
  obtain ⟨-, -, all, -, runs, bound⟩ :=
    Projection.wellScoped_of_flatten (show Projection.orderBesideNext.flatten = .ok _ from rfl)
  refine ⟨_, _, rfl, rfl, all lacks, ?_, bound closed⟩
  intro row inputs enough
  exact (runs row inputs enough).2 (row.take 4) (by rw [List.take_take]; rfl)

end SqlLowering
