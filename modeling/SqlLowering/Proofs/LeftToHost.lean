import SqlLowering.Proofs.Flattening
import SqlLowering.Proofs.Parts

/-!
# What flattening leaves to the host

A shape that is flattened is taken apart. Its leaves become columns, and the parts that depend on
inputs only are left to the host: they are in the plan and in no column. Every input and every
select of a shape is in a column or in a part that is left to the host, and what is in a column is
in the shape.
-/

namespace SqlLowering

/-- The expressions into which a shape is taken apart. -/
def Expr.shapeParts : Expr → List Expr
  | .record fields => fields.map (·.2)
  | .defaultIfEmpty expr _ _ | .member expr _ _ | .unary _ expr => [expr]
  | .array elements _ => elements
  | .binary _ left right => [left, right]
  | .conditional test ifTrue ifFalse => [test, ifTrue, ifFalse]
  | _ => []

/-- Flattening a shape leaves an expression to the host. -/
inductive Expr.Leaves : Expr → Expr → Prop
  | itself {expr : Expr} :
    expr.isShape = false → expr.isParameterizable = true → expr.Leaves expr
  | part {shape part expr : Expr} :
    shape.isShape = true ∨ shape.isWhole = false → part ∈ shape.shapeParts → part.Leaves expr →
    shape.Leaves expr

/-- Flattening a projection leaves an expression to the host. Bodies are the host's anyway. -/
def Projection.Leaves (expr : Expr) : Projection → Prop
  | .server body => body.Leaves expr
  | .client body after => body.Leaves expr ∨ expr = after
  | .composite outer inner result => outer.Leaves expr ∨ inner.Leaves expr ∨ expr = result

/-- Rendering a select leaves an expression to the host, in its projection or in its grouping. -/
def Select.Leaves (select : Select) (expr : Expr) : Prop :=
  select.projection.Leaves expr ∨ ∃ key, select.grouping = some key ∧ key.Leaves expr

/-- A part stands in some column. -/
def Column.Among (columns : List Column) (inner : Part) : Prop :=
  ∃ column ∈ columns, (Part.expr column.expr).Contains inner

theorem Column.Among.mono {columns more : List Column} {inner : Part}
    (among : Column.Among columns inner) (kept : columns <+: more) : Column.Among more inner := by
  obtain ⟨column, member, contains⟩ := among
  exact ⟨column, kept.subset member, contains⟩

theorem Column.among_addAt {g : Collected} {path : List String} {hosted : Bool} {expr : Expr}
    {inner : Part} : Column.Among (g.addAt path hosted expr).columns inner ↔
      Column.Among g.columns inner ∨ (Part.expr expr).Contains inner := by
  obtain ⟨name, columns⟩ := g.columns_addAt path hosted expr
  simp [Column.Among, columns, or_and_right, exists_or]

/-! ## Inputs and selects of a shape -/

section Shapes

variable {inner : Part}

/-- A part of a shape stands in a column or in what is left to the host. -/
def Expr.Accounted (shape : Expr) (columns : List Column) (inner : Part) : Prop :=
  Column.Among columns inner ∨ ∃ left, shape.Leaves left ∧ (Part.expr left).Contains inner

theorem Expr.Accounted.mono {shape : Expr} {columns more : List Column}
    (accounted : shape.Accounted columns inner) (kept : columns <+: more) :
    shape.Accounted more inner :=
  accounted.imp (·.mono kept) id

theorem Expr.Accounted.of_part {shape part : Expr} {columns : List Column}
    (accounted : part.Accounted columns inner)
    (apart : shape.isShape = true ∨ shape.isWhole = false) (member : part ∈ shape.shapeParts) :
    shape.Accounted columns inner := by
  refine accounted.imp id ?_
  rintro ⟨left, leaves, contains⟩
  exact ⟨left, .part apart member leaves, contains⟩

mutual

/-- Flattening a shape loses no input and no select: each stands in a column or in what is left to
the host. -/
theorem Expr.Collects.accounted (followed : inner.isFollowed = true) {path : List String}
    {hosted : Bool} {expr : Expr} {g after : Collected} {plan : Plan} :
    Expr.Collects path hosted expr g plan after → (Part.expr expr).Contains inner →
      expr.Accounted after.columns inner
  | .evaluated apart parameterizable, contains =>
    .inr ⟨expr, .itself apart parameterizable, contains⟩
  | .constant, contains => by
    obtain ⟨child, member, -⟩ := (Part.contains_iff_child followed rfl).1 contains
    cases member
  | .leaf _ _, contains => .inl (Column.among_addAt.2 (.inr contains))
  | .record fields, contains => by
    obtain ⟨field, member, inside⟩ :=
      (Part.contains_record (Part.isCombined_of_isFollowed followed) _).1 contains
    exact (fields.accounted followed field member inside).of_part (.inl rfl)
      (List.mem_map_of_mem member)
  | .defaultIfEmpty body, contains => by
    obtain ⟨child, member, inside⟩ := (Part.contains_iff_child followed rfl).1 contains
    simp only [Part.children, Expr.children, List.mem_cons, List.not_mem_nil, or_false] at member
    rcases member with rfl | rfl
    · -- The flag is a column, whatever it is made of.
      exact .inl ⟨_, body.columns_kept.subset (List.mem_append_right _ (List.mem_singleton_self _)),
        inside⟩
    · exact (body.accounted followed inside).of_part (.inl rfl) (List.mem_singleton_self _)
  | .member apart source, contains => by
    obtain ⟨child, member, inside⟩ := (Part.contains_iff_child followed rfl).1 contains
    obtain rfl := List.mem_singleton.1 member
    exact (source.accounted followed inside).of_part (.inr apart) (List.mem_singleton_self _)
  | .array apart elements, contains => by
    obtain ⟨child, member, inside⟩ := (Part.contains_iff_child followed rfl).1 contains
    obtain ⟨element, listed, rfl⟩ := List.mem_map.1 member
    exact (elements.accounted followed element listed inside).of_part (.inr apart) listed
  | .binary apart left right, contains => by
    have plain := Part.isCombined_of_isFollowed followed
    rcases (Part.contains_binary plain _ _ _).1 contains with inside | inside
    · exact ((left.accounted followed inside).mono right.columns_kept).of_part (.inr apart)
        List.mem_cons_self
    · exact (right.accounted followed inside).of_part (.inr apart) (List.mem_cons_of_mem _
        (List.mem_singleton_self _))
  | .unary apart operand, contains => by
    obtain ⟨child, member, inside⟩ := (Part.contains_iff_child followed rfl).1 contains
    obtain rfl := List.mem_singleton.1 member
    exact (operand.accounted followed inside).of_part (.inr apart) (List.mem_singleton_self _)
  | .conditional apart test ifTrue ifFalse, contains => by
    obtain ⟨child, member, inside⟩ := (Part.contains_iff_child followed rfl).1 contains
    simp only [Part.children, Expr.children, List.mem_cons, List.not_mem_nil, or_false] at member
    rcases member with rfl | rfl | rfl
    · exact ((test.accounted followed inside).mono
        (ifTrue.columns_kept.trans ifFalse.columns_kept)).of_part (.inr apart)
          (by simp [Expr.shapeParts])
    · exact ((ifTrue.accounted followed inside).mono ifFalse.columns_kept).of_part (.inr apart)
        (by simp [Expr.shapeParts])
    · exact (ifFalse.accounted followed inside).of_part (.inr apart) (by simp [Expr.shapeParts])

theorem Expr.CollectsList.accounted (followed : inner.isFollowed = true) {path : List String}
    {exprs : List Expr} {g after : Collected} {plans : List Plan} :
    Expr.CollectsList path exprs g plans after →
      ∀ expr ∈ exprs, (Part.expr expr).Contains inner → expr.Accounted after.columns inner
  | .nil => List.forall_mem_nil _
  | .cons head tail => List.forall_mem_cons.2
    ⟨fun contains => (head.accounted followed contains).mono tail.columns_kept,
      tail.accounted followed⟩

theorem Expr.CollectsFields.accounted (followed : inner.isFollowed = true) {path : List String}
    {hosted : Bool} {fields : List (String × Expr)} {g after : Collected}
    {plans : List (String × Plan)} :
    Expr.CollectsFields path hosted fields g plans after →
      ∀ field ∈ fields, (Part.expr field.2).Contains inner → field.2.Accounted after.columns inner
  | .nil => List.forall_mem_nil _
  | .cons head tail => List.forall_mem_cons.2
    ⟨fun contains => (head.accounted followed contains).mono tail.columns_kept,
      tail.accounted followed⟩

end

mutual

/-- What is in a column is in the shape, or it was in a column before. -/
theorem Expr.Collects.among_cases {path : List String} {hosted : Bool} {expr : Expr}
    {g after : Collected} {plan : Plan} :
    Expr.Collects path hosted expr g plan after → Column.Among after.columns inner →
      Column.Among g.columns inner ∨ (Part.expr expr).Contains inner
  | .evaluated _ _, among | .constant, among => .inl among
  | .leaf _ _, among => Column.among_addAt.1 among
  | .record fields, among => by
    refine (fields.among_cases among).imp id ?_
    rintro ⟨field, member, contains⟩
    exact contains.of_child (List.mem_map_of_mem member)
  | .defaultIfEmpty body, among => by
    rcases body.among_cases among with before | contains
    · simp only [Column.Among, Collected.add, List.mem_append, List.mem_singleton] at before
      obtain ⟨column, member | rfl, contains⟩ := before
      · exact .inl ⟨column, member, contains⟩
      · exact .inr (contains.of_child List.mem_cons_self)
    · exact .inr (contains.of_child (List.mem_cons_of_mem _ List.mem_cons_self))
  | .member _ source, among => by
    have before := source.among_cases among
    rw [Collected.columns_underHost] at before
    exact before.imp id (·.of_child List.mem_cons_self)
  | .array _ elements, among => by
    have before := elements.among_cases among
    rw [Collected.columns_underHost] at before
    refine before.imp id ?_
    rintro ⟨element, member, contains⟩
    exact contains.of_child (List.mem_map_of_mem member)
  | .binary _ left right, among => by
    rcases right.among_cases among with before | contains
    · have before := left.among_cases before
      rw [Collected.columns_underHost] at before
      exact before.imp id (·.of_child List.mem_cons_self)
    · exact .inr (contains.of_child (List.mem_cons_of_mem _ List.mem_cons_self))
  | .unary _ operand, among => by
    have before := operand.among_cases among
    rw [Collected.columns_underHost] at before
    exact before.imp id (·.of_child List.mem_cons_self)
  | .conditional _ test ifTrue ifFalse, among => by
    rcases ifFalse.among_cases among with before | contains
    · rcases ifTrue.among_cases before with before | contains
      · have before := test.among_cases before
        rw [Collected.columns_underHost] at before
        exact before.imp id (·.of_child List.mem_cons_self)
      · exact .inr (contains.of_child (by simp [Part.children, Expr.children]))
    · exact .inr (contains.of_child (by simp [Part.children, Expr.children]))

theorem Expr.CollectsList.among_cases {path : List String} {exprs : List Expr}
    {g after : Collected} {plans : List Plan} :
    Expr.CollectsList path exprs g plans after → Column.Among after.columns inner →
      Column.Among g.columns inner ∨ ∃ expr ∈ exprs, (Part.expr expr).Contains inner
  | .nil, among => .inl among
  | .cons head tail, among => by
    rcases tail.among_cases among with before | ⟨expr, listed, contains⟩
    · refine (head.among_cases before).imp id ?_
      intro contains
      exact ⟨_, List.mem_cons_self, contains⟩
    · exact .inr ⟨expr, List.mem_cons_of_mem _ listed, contains⟩

theorem Expr.CollectsFields.among_cases {path : List String} {hosted : Bool}
    {fields : List (String × Expr)} {g after : Collected} {plans : List (String × Plan)} :
    Expr.CollectsFields path hosted fields g plans after → Column.Among after.columns inner →
      Column.Among g.columns inner ∨ ∃ field ∈ fields, (Part.expr field.2).Contains inner
  | .nil, among => .inl among
  | .cons head tail, among => by
    rcases tail.among_cases among with before | ⟨field, listed, contains⟩
    · refine (head.among_cases before).imp id ?_
      intro contains
      exact ⟨_, List.mem_cons_self, contains⟩
    · exact .inr ⟨field, List.mem_cons_of_mem _ listed, contains⟩

end

end Shapes

/-! ## Inputs and selects of a projection -/

section Projections

variable {inner : Part}

/-- What the columns before and after a part of a projection say about an input or a select: columns
are kept, the part is accounted for, and nothing else comes in. -/
structure Column.Accounts (inner : Part) (before after : List Column) (part : Part)
    (leaves : Expr → Prop) : Prop where
  kept : Column.Among before inner → Column.Among after inner
  accounted : part.Contains inner →
    Column.Among after inner ∨ ∃ left, leaves left ∧ (Part.expr left).Contains inner
  within : Column.Among after inner → Column.Among before inner ∨ part.Contains inner

theorem Expr.Collects.accounts (followed : inner.isFollowed = true) {path : List String}
    {hosted : Bool} {expr : Expr} {g after : Collected} {plan : Plan}
    (collects : Expr.Collects path hosted expr g plan after) :
    Column.Accounts inner g.columns after.columns (.expr expr) expr.Leaves :=
  ⟨(·.mono collects.columns_kept), collects.accounted followed, collects.among_cases⟩

theorem Shapes.among_positioned {columns : List Column} :
    Column.Among (Shapes.positioned columns) inner ↔ Column.Among columns inner := by
  simp [Column.Among, Shapes.positioned]

theorem Shapes.among_of_add {shapes after : Shapes} {body : Expr} {plan : Plan}
    (added : shapes.add body = .ok (plan, after)) (among : Column.Among after.columns inner) :
    Column.Among shapes.columns inner ∨ (Part.expr body).Contains inner := by
  simp only [Shapes.add, Except.bind_eq_ok, Except.pure_eq_ok] at added
  obtain ⟨⟨bodyPlan, g⟩, collected, same⟩ := added
  cases same
  have before := (body.collects_of_collect collected).among_cases among
  -- With the second shape, the columns of the first are renamed.
  by_cases second : shapes.count = 1
  · rw [if_pos second] at before
    exact before.imp Shapes.among_positioned.1 id
  · rw [if_neg second] at before
    exact before

/-- What is in a column is in the projection, or it was in a column before. -/
theorem Projection.among_of_flattenFrom :
    ∀ (projection : Projection) {shapes after : Shapes} {plan : Plan},
      projection.flattenFrom shapes = .ok (plan, after) → Column.Among after.columns inner →
      Column.Among shapes.columns inner ∨ (Part.projection projection).Contains inner
  | .server body, shapes, after, plan, flattened, among =>
    (Shapes.among_of_add flattened among).imp id (·.of_child List.mem_cons_self)
  | .client body host, shapes, after, plan, flattened, among => by
    simp only [Projection.flattenFrom, Except.bind_eq_ok, Except.pure_eq_ok] at flattened
    obtain ⟨⟨bodyPlan, last⟩, added, hostPlan, compiled, same⟩ := flattened
    cases same
    exact (Shapes.among_of_add added among).imp id (·.of_child List.mem_cons_self)
  | .composite outer other result, shapes, after, plan, flattened, among => by
    simp only [Projection.flattenFrom, Except.bind_eq_ok, Except.pure_eq_ok] at flattened
    obtain ⟨⟨outerPlan, middle⟩, outerFlattened, ⟨otherPlan, last⟩, otherFlattened, resultPlan,
      compiled, same⟩ := flattened
    cases same
    rcases other.among_of_flattenFrom otherFlattened among with between | contains
    · exact (outer.among_of_flattenFrom outerFlattened between).imp id
        (·.of_child List.mem_cons_self)
    · exact .inr (contains.of_child (List.mem_cons_of_mem _ List.mem_cons_self))

theorem Shapes.accounts_of_add (followed : inner.isFollowed = true) {shapes after : Shapes}
    {body : Expr} {plan : Plan} (added : shapes.add body = .ok (plan, after)) :
    Column.Accounts inner shapes.columns after.columns (.expr body) body.Leaves := by
  have within : Column.Among after.columns inner →
      Column.Among shapes.columns inner ∨ (Part.expr body).Contains inner :=
    Shapes.among_of_add added
  simp only [Shapes.add, Except.bind_eq_ok, Except.pure_eq_ok] at added
  obtain ⟨⟨bodyPlan, g⟩, collected, same⟩ := added
  cases same
  have accounts := (body.collects_of_collect collected).accounts followed
  refine ⟨fun among => accounts.kept ?_, accounts.accounted, within⟩
  split
  · exact Shapes.among_positioned.2 among
  · exact among

/-- Flattening a projection loses no input and no select, and brings in none. -/
theorem Projection.accounts_of_flattenFrom (followed : inner.isFollowed = true) :
    ∀ (projection : Projection) {shapes after : Shapes} {plan : Plan},
      projection.flattenFrom shapes = .ok (plan, after) →
      Column.Accounts inner shapes.columns after.columns (.projection projection)
        (projection.Leaves ·)
  | .server body, shapes, after, plan, flattened => by
    have accounts := Shapes.accounts_of_add followed flattened
    refine ⟨accounts.kept, ?_, Projection.among_of_flattenFrom _ flattened⟩
    intro contains
    obtain ⟨child, listed, inside⟩ := (Part.contains_iff_child followed rfl).1 contains
    obtain rfl := List.mem_singleton.1 listed
    exact accounts.accounted inside
  | .client body host, shapes, after, plan, flattened => by
    have within := @Projection.among_of_flattenFrom inner _ _ _ _ flattened
    simp only [Projection.flattenFrom, Except.bind_eq_ok, Except.pure_eq_ok] at flattened
    obtain ⟨⟨bodyPlan, last⟩, added, hostPlan, compiled, same⟩ := flattened
    cases same
    have accounts := Shapes.accounts_of_add followed added
    refine ⟨accounts.kept, ?_, within⟩
    intro contains
    obtain ⟨child, listed, inside⟩ := (Part.contains_iff_child followed rfl).1 contains
    simp only [Part.children, Projection.children, List.mem_cons, List.not_mem_nil, or_false]
      at listed
    rcases listed with rfl | rfl
    · refine (accounts.accounted inside).imp id ?_
      rintro ⟨left, leaves, leftContains⟩
      exact ⟨left, .inl leaves, leftContains⟩
    · exact .inr ⟨host, .inr rfl, inside⟩
  | .composite outer other result, shapes, after, plan, flattened => by
    have within := @Projection.among_of_flattenFrom inner _ _ _ _ flattened
    simp only [Projection.flattenFrom, Except.bind_eq_ok, Except.pure_eq_ok] at flattened
    obtain ⟨⟨outerPlan, middle⟩, outerFlattened, ⟨otherPlan, last⟩, otherFlattened, resultPlan,
      compiled, same⟩ := flattened
    cases same
    have first := outer.accounts_of_flattenFrom followed outerFlattened
    have second := other.accounts_of_flattenFrom followed otherFlattened
    refine ⟨fun among => second.kept (first.kept among), ?_, within⟩
    intro contains
    obtain ⟨child, listed, inside⟩ := (Part.contains_iff_child followed rfl).1 contains
    simp only [Part.children, Projection.children, List.mem_cons, List.not_mem_nil, or_false]
      at listed
    rcases listed with rfl | rfl | rfl
    · refine (first.accounted inside).imp second.kept ?_
      rintro ⟨left, leaves, leftContains⟩
      exact ⟨left, .inl leaves, leftContains⟩
    · refine (second.accounted inside).imp id ?_
      rintro ⟨left, leaves, leftContains⟩
      exact ⟨left, .inr (.inl leaves), leftContains⟩
    · exact .inr ⟨result, .inr (.inr rfl), inside⟩

theorem Projection.accounts_of_flatten (followed : inner.isFollowed = true)
    {projection : Projection} {columns : List Column} {plan : Plan}
    (flattened : projection.flatten = .ok (columns, plan)) :
    Column.Accounts inner [] columns (.projection projection) (projection.Leaves ·) := by
  simp only [Projection.flatten, Except.bind_eq_ok, Except.pure_eq_ok] at flattened
  obtain ⟨⟨flattenedPlan, shapes⟩, flattenedFrom, same⟩ := flattened
  cases same
  exact projection.accounts_of_flattenFrom followed flattenedFrom

/-- The columns of a projection are expressions of it. -/
theorem Projection.contains_of_flatten {projection : Projection} {columns : List Column}
    {plan : Plan} (flattened : projection.flatten = .ok (columns, plan)) {column : Column}
    (member : column ∈ columns) : (Part.projection projection).Contains (.expr column.expr) := by
  simp only [Projection.flatten, Except.bind_eq_ok, Except.pure_eq_ok] at flattened
  obtain ⟨⟨flattenedPlan, shapes⟩, flattenedFrom, same⟩ := flattened
  cases same
  rcases projection.among_of_flattenFrom flattenedFrom ⟨column, member, .refl _⟩ with
    ⟨_, none, _⟩ | contains
  · cases none
  · exact contains

/-- The keys of a grouping are expressions of it. -/
theorem Expr.contains_of_groupingKeys {key : Expr} {keys : List Expr}
    (found : key.groupingKeys = .ok keys) {expr : Expr} (member : expr ∈ keys) :
    (Part.expr key).Contains (.expr expr) := by
  simp only [Expr.groupingKeys, Except.bind_eq_ok, Except.pure_eq_ok] at found
  obtain ⟨⟨plan, g⟩, collected, rfl⟩ := found
  obtain ⟨column, listed, rfl⟩ := List.mem_map.1 member
  rcases (key.collects_of_collect collected).among_cases ⟨column, listed, .refl _⟩ with
    ⟨_, none, _⟩ | contains
  · cases none
  · exact contains

/-- The keys of a grouping account for its inputs and selects likewise. -/
theorem Expr.accounts_of_groupingKeys (followed : inner.isFollowed = true) {key : Expr}
    {keys : List Expr} (found : key.groupingKeys = .ok keys) :
    ((Part.expr key).Contains inner → (∃ expr ∈ keys, (Part.expr expr).Contains inner) ∨
        ∃ left, key.Leaves left ∧ (Part.expr left).Contains inner) ∧
      ∀ expr ∈ keys, (Part.expr expr).Contains inner → (Part.expr key).Contains inner := by
  refine ⟨?_, fun expr listed inside => (Expr.contains_of_groupingKeys found listed).trans inside⟩
  intro contains
  simp only [Expr.groupingKeys, Except.bind_eq_ok, Except.pure_eq_ok] at found
  obtain ⟨⟨plan, g⟩, collected, rfl⟩ := found
  refine ((key.collects_of_collect collected).accounted followed contains).imp ?_ id
  rintro ⟨column, member, inside⟩
  exact ⟨column.expr, List.mem_map_of_mem member, inside⟩

end Projections

/-! ## What is left contains no selects -/

theorem Expr.Leaves.isHosted {shape expr : Expr} (leaves : shape.Leaves expr) : expr.IsHosted := by
  induction leaves with
  | itself _ parameterizable => exact .of_isParameterizable parameterizable
  | part _ _ _ ih => exact ih

/-- What flattening a projection leaves to the host is an expression of the host. -/
theorem Projection.isHosted_of_leaves :
    ∀ (projection : Projection) {shapes after : Shapes} {plan : Plan},
      projection.flattenFrom shapes = .ok (plan, after) → ∀ {expr : Expr}, projection.Leaves expr →
      expr.IsHosted
  | .server body, shapes, after, plan, flattened, expr, leaves => Expr.Leaves.isHosted leaves
  | .client body host, shapes, after, plan, flattened, expr, leaves => by
    simp only [Projection.flattenFrom, Except.bind_eq_ok, Except.pure_eq_ok] at flattened
    obtain ⟨⟨bodyPlan, last⟩, added, hostPlan, compiled, same⟩ := flattened
    rcases leaves with leaves | rfl
    · exact leaves.isHosted
    · exact .inr ⟨hostPlan, compiled⟩
  | .composite outer other result, shapes, after, plan, flattened, expr, leaves => by
    simp only [Projection.flattenFrom, Except.bind_eq_ok, Except.pure_eq_ok] at flattened
    obtain ⟨⟨outerPlan, middle⟩, outerFlattened, ⟨otherPlan, last⟩, otherFlattened, resultPlan,
      compiled, same⟩ := flattened
    rcases leaves with leaves | leaves | rfl
    · exact outer.isHosted_of_leaves outerFlattened leaves
    · exact other.isHosted_of_leaves otherFlattened leaves
    · exact .inr ⟨resultPlan, compiled⟩

/-- A select that can be flattened leaves expressions of the host to the host. -/
theorem Select.isHosted_of_leaves {select : Select} {columns : List Column} {plan : Plan}
    (flattened : select.projection.flatten = .ok (columns, plan)) {expr : Expr}
    (leaves : select.Leaves expr) : expr.IsHosted := by
  simp only [Projection.flatten, Except.bind_eq_ok, Except.pure_eq_ok] at flattened
  obtain ⟨⟨flattenedPlan, shapes⟩, flattenedFrom, same⟩ := flattened
  rcases leaves with leaves | ⟨key, -, leaves⟩
  · exact select.projection.isHosted_of_leaves flattenedFrom leaves
  · exact leaves.isHosted

end SqlLowering
