import SqlLowering.Proofs.Following

/-!
# What is written could have been told beforehand

Flattening asks `Expr.isRenderable` whether the database can evaluate an expression, and rendering
finds out by writing it. The two agree on whatever is written: if an expression has a script, it
counts as renderable, so flattening makes a column of it and does not take it apart
(`Expr.isColumn_of_render`). Comparisons of two records are the exception. They are written field by
field, though the records themselves cannot be written.

`Node.Produces.isRenderable` is one step of a rendering: a node is renderable if all that is left to
be written of it is.
-/

namespace SqlLowering

/-! ## Comparisons of records -/

/-- Whether a node constructs a record. -/
def Expr.isRecord : Expr → Bool
  | .record _ => true
  | _ => false

mutual

/-- Whether two constructed records are compared somewhere in an expression, the selects in it
apart. -/
def Expr.comparesRecords : Expr → Bool
  | .column .. | .constant .. | .input .. | .fragment .. | .parameter .. | .exists _
  | .subquery .. => false
  | .aliased expr _ | .cast expr _ _ | .member expr _ _ | .aggregate _ expr _ _
  | .unary _ expr => expr.comparesRecords
  | .binary op left right =>
    op.comparesRecords && left.isRecord && right.isRecord || left.comparesRecords ||
      right.comparesRecords
  | .conditional test ifTrue ifFalse =>
    test.comparesRecords || ifTrue.comparesRecords || ifFalse.comparesRecords
  | .function _ exprs _ | .array exprs _ => Expr.anyComparesRecords exprs
  | .record fields => Expr.anyFieldComparesRecords fields
  | .defaultIfEmpty expr flag _ => expr.comparesRecords || flag.comparesRecords
  | .isIn value values => value.comparesRecords || values.comparesRecords

/-- Whether two constructed records are compared in some expression. -/
def Expr.anyComparesRecords : List Expr → Bool
  | [] => false
  | expr :: rest => expr.comparesRecords || Expr.anyComparesRecords rest

/-- Whether two constructed records are compared in some named expression. -/
def Expr.anyFieldComparesRecords : List (String × Expr) → Bool
  | [] => false
  | (_, expr) :: rest => expr.comparesRecords || Expr.anyFieldComparesRecords rest

/-- Whether two constructed records are compared in what a value is looked for in. -/
def InValues.comparesRecords : InValues → Bool
  | .list elements => Expr.anyComparesRecords elements
  | .dynamic expr => expr.comparesRecords
  | .subquery _ | .constants _ => false

end

/-- Whether two constructed records are compared in a part that is an expression or among values. -/
def Part.comparesRecords : Part → Bool
  | .expr e => e.comparesRecords
  | .values vs => vs.comparesRecords
  | _ => false

/-- Whether a part can be written as SQL, as far as that is asked beforehand. -/
def Part.isRenderable : Part → Bool
  | .expr e => e.isRenderable
  | .values vs => vs.isRenderable
  | _ => true

theorem Expr.anyComparesRecords_eq_false {exprs : List Expr} :
    Expr.anyComparesRecords exprs = false ↔ ∀ expr ∈ exprs, expr.comparesRecords = false := by
  induction exprs with
  | nil => simp [Expr.anyComparesRecords]
  | cons expr rest ih => simp [Expr.anyComparesRecords, ih]

theorem Expr.areRenderable_eq_true {exprs : List Expr} :
    Expr.areRenderable exprs = true ↔ ∀ expr ∈ exprs, expr.isRenderable = true := by
  induction exprs with
  | nil => simp [Expr.areRenderable]
  | cons expr rest ih => simp [Expr.areRenderable, ih]

/-- What can be bound as a parameter can be written as one. -/
theorem Expr.isRenderable_of_isParameterizable {expr : Expr}
    (parameterizable : expr.isParameterizable = true) : expr.isRenderable = true := by
  cases expr with
  | input _ _ | constant _ _ => rfl
  | binary _ _ _ | unary _ _ | conditional _ _ _ =>
    rw [Expr.isRenderable, parameterizable, Bool.true_or]
  | record _ | array _ _ | member _ _ _ | parameter _ _ | defaultIfEmpty _ _ _ =>
    exact parameterizable
  | _ => cases parameterizable

/-- Records and sides of outer joins are never bound as parameters. -/
theorem Expr.isShape_of_isHoisted {expr : Expr} (hoisted : expr.isHoisted = true) :
    expr.isShape = false := by
  rw [Expr.isHoisted, Bool.and_eq_true] at hoisted
  cases expr with
  | record fields => cases hoisted.2
  | defaultIfEmpty expr flag flagAlias =>
    rw [Expr.isParameterizable, Bool.and_eq_true] at hoisted
    cases hoisted.1.2
  | _ => rfl

/-! ## Renderings -/

section Renders

variable {ctx : RenderContext}

/-- A node without comparisons of records is renderable if all is that it leaves to be written. -/
theorem Node.Produces.isRenderable {node : Node} {produced : Form}
    (produces : node.Produces ctx produced) (plain : node.part.comparesRecords = false)
    (parts : ∀ part ∈ produced.parts, part.comparesRecords = false → part.isRenderable = true) :
    node.part.isRenderable = true := by
  cases produces with
  | hoisted bound =>
    have hoisted := Expr.isHoisted_of_isBoundAt bound
    rw [Expr.isHoisted, Bool.and_eq_true] at hoisted
    exact Expr.isRenderable_of_isParameterizable hoisted.1
  | records compares compared apart =>
    simp [Node.part, Part.comparesRecords, Expr.comparesRecords, compares, Expr.isRecord] at plain
  | function =>
    simp only [Node.part, Part.comparesRecords, Expr.comparesRecords,
      Expr.anyComparesRecords_eq_false] at plain
    simp only [Node.part, Part.isRenderable, Expr.isRenderable, Expr.areRenderable_eq_true]
    intro arg listed
    exact parts (.expr arg) (by simpa using listed) (plain arg listed)
  | valuesList nonempty =>
    simp only [Node.part, Part.comparesRecords, InValues.comparesRecords,
      Expr.anyComparesRecords_eq_false] at plain
    simp only [Node.part, Part.isRenderable, InValues.isRenderable, Expr.areRenderable_eq_true]
    intro element listed
    exact parts (.expr element) (by simpa using listed) (plain element listed)
  | valuesDynamic parameterizable => exact parameterizable
  -- Nodes that are renderable whatever they are made of.
  | column _ | constant _ | fragment | «exists» | subquery | noValues | valuesSubquery
  | valuesConstants _ | base _ | derived _ | setOperation _ | join | cross | term | andThen
  | select _ _ => rfl
  -- Nodes that are renderable if all of their parts are.
  | aliased | notTest _ _ | notValue _ _ | negate _ | convert _ | cast | aggregate | coalesce _
  | sign _ _ _ | conditional _ | isIn =>
    simp_all [Node.part, Part.comparesRecords, Expr.comparesRecords, Part.isRenderable,
      Expr.isRenderable]

/-- In whatever is written, the parts without comparisons of records are renderable. -/
theorem Renders.isRenderable {form : Form} {script : Script} (renders : Renders ctx form script) :
    ∀ part ∈ form.parts, part.comparesRecords = false → part.isRenderable = true := by
  induction renders with
  | nil => exact List.forall_mem_nil _
  | piece _ _ ih => exact ih
  | node produces _ _ ihProduced ihRest =>
    exact List.forall_mem_cons.2 ⟨fun plain => produces.isRenderable plain ihProduced, ihRest⟩

/-- Records and sides of outer joins are never written. -/
theorem Expr.isShape_of_renders {position : Position} {expr : Expr} {script : Script}
    (renders : Renders ctx (.node (.expr position expr)) script) : expr.isShape = false := by
  cases renders with
  | node produces _ _ =>
    cases produces with
    | hoisted bound => exact Expr.isShape_of_isHoisted (Expr.isHoisted_of_isBoundAt bound)
    | _ => rfl

end Renders

/-! ## Columns -/

/-- What stays whole is collected so. -/
theorem Expr.collect_of_collectWhole? {path : List String} {hosted : Bool} {expr : Expr}
    {g : Collected} {whole : Plan × Collected} (apart : expr.isShape = false)
    (collected : expr.collectWhole? path hosted g = some whole) :
    expr.collect path hosted g = .ok whole := by
  cases expr with
  | record _ | defaultIfEmpty _ _ _ => cases apart
  | _ => simp only [Expr.collect, collected]

/-- An expression that the database can evaluate is a column, unless the host has its value
already. -/
theorem Expr.collect_of_isRenderable {expr : Expr} (apart : expr.isShape = false)
    (renderable : expr.isRenderable = true) (path : List String) (hosted : Bool) (g : Collected) :
    ∃ plan after, expr.collect path hosted g = .ok (plan, after) ∧
      (plan = expr.reading g.columns.length ∧ after = g.addAt path hosted expr ∨
        after = g ∧ (expr.isParameterizable = true ∨
          hosted = true ∧ ∃ value type, expr = .constant value type)) := by
  by_cases parameterizable : expr.isParameterizable = true
  · have collected : expr.collectWhole? path hosted g = some (.evaluate expr, g) := by
      unfold Expr.collectWhole?
      exact if_pos parameterizable
    exact ⟨_, _, Expr.collect_of_collectWhole? apart collected, .inr ⟨rfl, .inl parameterizable⟩⟩
  by_cases given : hosted = true ∧ ∃ value type, expr = .constant value type
  · obtain ⟨rfl, value, type, rfl⟩ := given
    exact ⟨.constant value, g, rfl, .inr ⟨rfl, .inr ⟨rfl, value, type, rfl⟩⟩⟩
  · have collected : expr.collectWhole? path hosted g =
        some (expr.reading g.columns.length, g.addAt path hosted expr) := by
      unfold Expr.collectWhole?
      rw [if_neg parameterizable]
      split
      · exact absurd ⟨rfl, _, _, rfl⟩ given
      · exact if_pos renderable
    exact ⟨_, _, Expr.collect_of_collectWhole? apart collected, .inl ⟨rfl, rfl⟩⟩

/-- An expression that is written, and in which no two records are compared, counts as renderable.
Wherever it stands in a shape, flattening makes a column of the whole of it, unless it depends on
inputs only or is a constant of the host. -/
theorem Expr.isColumn_of_render {ctx : RenderContext} {levels : Nat} {position : Position}
    {expr : Expr} {script : Script} (plain : expr.comparesRecords = false)
    (rendered : expr.render ctx (.level ctx levels) position = .ok script) :
    expr.isRenderable = true ∧ ∀ path hosted g,
      ∃ plan after, expr.collect path hosted g = .ok (plan, after) ∧
        (plan = expr.reading g.columns.length ∧ after = g.addAt path hosted expr ∨
          after = g ∧ (expr.isParameterizable = true ∨
            hosted = true ∧ ∃ value type, expr = .constant value type)) := by
  have renders := (Below.sound_level ctx levels).renders expr rendered
  have renderable : expr.isRenderable = true :=
    renders.isRenderable (.expr expr) List.mem_cons_self plain
  exact ⟨renderable, Expr.collect_of_isRenderable (Expr.isShape_of_renders renders) renderable⟩

/-- A choice whose test negates a search and whose branches join an input to a column. -/
theorem Expr.isColumn_choice :
    let ctx : RenderContext := ⟨.sqlServer, [(⟨0⟩, "t")]⟩
    let number := Expr.column ⟨0⟩ "A" .int32
    let test := Expr.unary .not (.isIn number (.dynamic (.input "xs" (.collection .int32))))
    let sum := Expr.binary .add (.unary .negate number) (.input "x" .int32)
    let greatest : Select :=
      ⟨.server (.aggregate "MAX" sum false .int32), none, none, none, none, none, none, false⟩
    let expr := Expr.conditional (.unary .not test) (.unary (.convert .int32) sum)
      (.binary .coalesce (.subquery .scalar greatest .int32) sum)
    expr.comparesRecords = false ∧
      (∃ script, expr.render ctx (.level ctx 1) .whole = .ok script) ∧
      expr.isRenderable = true ∧
      expr.collect ["n"] true .empty =
        .ok (.readColumn 0 .int32, ⟨[⟨"n.$1", expr⟩], 1⟩) := by
  intro ctx number test sum greatest expr
  have plain : expr.comparesRecords = false := rfl
  have rendered : ∃ script, expr.render ctx (.level ctx 1) .whole = .ok script := ⟨_, rfl⟩
  obtain ⟨script, written⟩ := rendered
  obtain ⟨renderable, column⟩ := Expr.isColumn_of_render plain written
  obtain ⟨plan, after, collected, ⟨rfl, rfl⟩ | ⟨-, parameterizable | ⟨-, value, type, same⟩⟩⟩ :=
    column ["n"] true .empty
  · exact ⟨plain, ⟨script, written⟩, renderable, collected⟩
  · cases parameterizable
  · exact Expr.noConfusion same

-- A comparison of records is written, though no record is.
example :
    let ctx : RenderContext := ⟨.sqlServer, [(⟨0⟩, "t")]⟩
    let record := Expr.record [("N", .column ⟨0⟩ "A" .int32)]
    (∃ script, (Expr.binary .equal record record).render ctx (.level ctx 1) .whole = .ok script) ∧
      (Expr.binary .equal record record).isRenderable = false :=
  ⟨⟨_, rfl⟩, rfl⟩

end SqlLowering
