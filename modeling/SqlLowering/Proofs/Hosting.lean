import SqlLowering.Proofs.BoundInputs
import SqlLowering.Proofs.ClauseForms
import SqlLowering.Proofs.Layout
import SqlLowering.Proofs.PlanScoping

/-!
# What is hoisted can be evaluated on the host

A lowered query has expressions in three places: as the values of parameters, as the sources of
lists, and in its plan. All of them depend on inputs only (`Piece.isHostable` along the derivation
of the script, `Plan.Fits` along the flattening). So their evaluation meets no node that the host
cannot evaluate, and it misses no input but those that they mention (`Expr.dueTo_of_eval`).
-/

namespace SqlLowering

/-! ## Evaluation of what is on the host -/

/-- Why the evaluation of an expression on the host fails: by an operation on values, or for want of
an input that the expression mentions. -/
inductive EvalError.DueTo (inputs : Inputs) (expr : Expr) : EvalError → Prop
  | operation {error : EvalError} :
    error.isOperational = true → EvalError.DueTo inputs expr error
  | missing {name : String} :
    (Part.expr expr).Mentions name → inputs.get? name = none →
    EvalError.DueTo inputs expr (.missingInput name)

section Evaluation

variable {inputs : Inputs} {expr child : Expr} {error : EvalError}

theorem EvalError.DueTo.of_child (due : error.DueTo inputs child)
    (member : .expr child ∈ expr.children) : error.DueTo inputs expr := by
  cases due with
  | operation operational => exact .operation operational
  | missing mentions absent =>
    obtain ⟨type, contains⟩ := mentions
    exact .missing ⟨type, contains.of_child member⟩ absent

theorem EvalError.DueTo.ne_unsupported (due : error.DueTo inputs expr) (node : String) :
    error ≠ .unsupported node := by
  rintro rfl
  cases due with
  | operation operational => cases operational

theorem EvalError.DueTo.ne_missingInput (due : error.DueTo inputs expr)
    (bound : ∀ name, (Part.expr expr).Mentions name → (inputs.get? name).isSome = true)
    (name : String) : error ≠ .missingInput name := by
  rintro rfl
  cases due with
  | operation operational => cases operational
  | missing mentions absent =>
    have present := bound name mentions
    rw [absent] at present
    cases present

variable (inputs)

mutual

/-- The evaluation of what is on the host fails for a reason of its own. -/
theorem Expr.dueTo_of_eval :
    ∀ (expr : Expr) {error : EvalError}, expr.isOnHost = true →
      expr.eval inputs = .error error → error.DueTo inputs expr
  | .constant value type, error, _, failed => by cases failed
  | .input name type, error, _, failed => by
    rw [Expr.eval] at failed
    split at failed
    · cases failed
    next absent =>
      cases failed
      exact .missing ⟨type, .refl _⟩ absent
  | .member expr field type, error, onHost, failed => by
    rw [Expr.eval] at failed
    rcases Except.bind_eq_error.1 failed with failed | ⟨record, -, failed⟩
    · exact (expr.dueTo_of_eval onHost failed).of_child (List.mem_singleton_self _)
    · exact .operation (Value.isOperational_of_project failed)
  | .binary op left right, error, onHost, failed => by
    rw [Expr.isOnHost, Bool.and_eq_true] at onHost
    rw [Expr.eval] at failed
    rcases Except.bind_eq_error.1 failed with failed | ⟨lhs, -, failed⟩
    · exact (left.dueTo_of_eval onHost.1 failed).of_child List.mem_cons_self
    rcases BinaryOp.apply_eq_error failed with failed | ⟨cause, operational, rfl⟩
    · exact (right.dueTo_of_eval onHost.2 failed).of_child
        (List.mem_cons_of_mem _ List.mem_cons_self)
    · exact .operation operational
  | .unary op operand, error, onHost, failed => by
    rw [Expr.eval] at failed
    rcases Except.bind_eq_error.1 failed with failed | ⟨value, -, failed⟩
    · exact (operand.dueTo_of_eval onHost failed).of_child (List.mem_singleton_self _)
    · exact .operation (UnaryOp.isOperational_of_apply failed)
  | .conditional test ifTrue ifFalse, error, onHost, failed => by
    rw [Expr.isOnHost, Bool.and_eq_true, Bool.and_eq_true] at onHost
    obtain ⟨⟨testOnHost, trueOnHost⟩, falseOnHost⟩ := onHost
    rw [Expr.eval] at failed
    rcases Except.bind_eq_error.1 failed with failed | ⟨tested, -, failed⟩
    · exact (test.dueTo_of_eval testOnHost failed).of_child List.mem_cons_self
    rcases Except.bind_eq_error.1 failed with failed | ⟨holds, -, failed⟩
    · exact .operation (Value.isOperational_of_holds failed)
    split at failed
    · exact (ifTrue.dueTo_of_eval trueOnHost failed).of_child
        (List.mem_cons_of_mem _ List.mem_cons_self)
    · exact (ifFalse.dueTo_of_eval falseOnHost failed).of_child (by simp [Expr.children])
  | .array elements type, error, onHost, failed => by
    rw [Expr.eval] at failed
    rcases Except.bind_eq_error.1 failed with failed | ⟨values, -, failed⟩
    · obtain ⟨element, member, due⟩ := Expr.dueTo_of_evalList elements onHost failed
      exact due.of_child (List.mem_map_of_mem member)
    · cases failed
  | .record fields, error, onHost, failed => by
    rw [Expr.eval] at failed
    rcases Except.bind_eq_error.1 failed with failed | ⟨values, -, failed⟩
    · obtain ⟨field, member, due⟩ := Expr.dueTo_of_evalFields fields onHost failed
      exact due.of_child (List.mem_map_of_mem member)
    · cases failed
  -- The nodes that the host cannot evaluate by itself.
  | .column .., _, onHost, _ | .aliased .., _, onHost, _ | .function .., _, onHost, _
  | .fragment .., _, onHost, _ | .cast .., _, onHost, _ | .exists _, _, onHost, _
  | .isIn .., _, onHost, _ | .aggregate .., _, onHost, _ | .subquery .., _, onHost, _
  | .parameter .., _, onHost, _ | .defaultIfEmpty .., _, onHost, _ => by cases onHost

theorem Expr.dueTo_of_evalList :
    ∀ (exprs : List Expr) {error : EvalError}, Expr.areOnHost exprs = true →
      Expr.evalList inputs exprs = .error error → ∃ expr ∈ exprs, error.DueTo inputs expr
  | [], error, _, failed => by cases failed
  | expr :: rest, error, onHost, failed => by
    rw [Expr.areOnHost, Bool.and_eq_true] at onHost
    rw [Expr.evalList] at failed
    rcases Except.bind_eq_error.1 failed with failed | ⟨value, -, failed⟩
    · exact ⟨expr, List.mem_cons_self, expr.dueTo_of_eval onHost.1 failed⟩
    rcases Except.bind_eq_error.1 failed with failed | ⟨others, -, failed⟩
    · obtain ⟨other, member, due⟩ := Expr.dueTo_of_evalList rest onHost.2 failed
      exact ⟨other, List.mem_cons_of_mem _ member, due⟩
    · cases failed

theorem Expr.dueTo_of_evalFields :
    ∀ (fields : List (String × Expr)) {error : EvalError}, Expr.areFieldsOnHost fields = true →
      Expr.evalFields inputs fields = .error error → ∃ field ∈ fields, error.DueTo inputs field.2
  | [], error, _, failed => by cases failed
  | (name, expr) :: rest, error, onHost, failed => by
    rw [Expr.areFieldsOnHost, Bool.and_eq_true] at onHost
    rw [Expr.evalFields] at failed
    rcases Except.bind_eq_error.1 failed with failed | ⟨value, -, failed⟩
    · exact ⟨(name, expr), List.mem_cons_self, expr.dueTo_of_eval onHost.1 failed⟩
    rcases Except.bind_eq_error.1 failed with failed | ⟨others, -, failed⟩
    · obtain ⟨other, member, due⟩ := Expr.dueTo_of_evalFields rest onHost.2 failed
      exact ⟨other, List.mem_cons_of_mem _ member, due⟩
    · cases failed

end

end Evaluation

theorem Expr.isOnHost_of_isParameterizable {expr : Expr}
    (parameterizable : expr.isParameterizable = true) : expr.isOnHost = true := by
  rw [Expr.isParameterizable, Bool.and_eq_true] at parameterizable
  exact parameterizable.2

/-! ## What a script binds -/

/-- Whether the host can compute what an edit binds: a parameter is a scalar over the inputs, and a
list is over the inputs. -/
def Draft.Edit.isHostable : Draft.Edit → Bool
  | .parameter value => value.isHoisted
  | .list source => source.isParameterizable
  | _ => true

/-- Whether the host can compute what a piece binds. -/
def Piece.isHostable : Piece → Bool
  | .edit e => e.isHostable
  | .tableName _ _ => true

/-- Whether the host can compute what a symbol binds by itself. -/
def Symbol.isHostable : Symbol → Bool
  | .piece p => p.isHostable
  | .node _ => true

namespace Form

/-- Whether the host can compute what the pieces of a form bind. -/
def isHostable (form : Form) : Bool :=
  form.all Symbol.isHostable

@[simp]
theorem isHostable_append (first second : Form) :
    isHostable (first ++ second) = (first.isHostable && second.isHostable) :=
  List.all_append

@[simp]
theorem isHostable_nil : isHostable [] = true :=
  rfl

@[simp]
theorem isHostable_script (pieces : Script) :
    (script pieces).isHostable = pieces.all Piece.isHostable :=
  List.all_map

@[simp]
theorem isHostable_text (sql : String) : (text sql).isHostable = true :=
  rfl

@[simp]
theorem isHostable_node (n : Node) : (node n).isHostable = true :=
  rfl

@[simp]
theorem isHostable_whole (expr : Expr) : (whole expr).isHostable = true :=
  rfl

@[simp]
theorem isHostable_operand (expr : Expr) : (operand expr).isHostable = true :=
  rfl

end Form

@[simp]
theorem Script.isHostable_text (sql : String) : (Script.text sql).all Piece.isHostable = true :=
  rfl

@[simp]
theorem Script.isHostable_newline : Script.newline.all Piece.isHostable = true :=
  rfl

@[simp]
theorem RenderContext.isHostable_identifier (ctx : RenderContext) (name : String) :
    (ctx.identifier name).all Piece.isHostable = true :=
  rfl

namespace Form

@[simp]
theorem isHostable_block (body : Form) : (block body).isHostable = body.isHostable := by
  simp [block, Piece.isHostable, Draft.Edit.isHostable]

@[simp]
theorem isHostable_around (position : Position) (body : Form) :
    (around position body).isHostable = body.isHostable := by
  cases position <;> simp [around]

@[simp]
theorem isHostable_named (id : TableId) (preferred : String) (table : Form) :
    (named id preferred table).isHostable = table.isHostable := by
  simp [named, Script.tableName, Piece.isHostable]

/-- Clauses bind nothing by themselves. -/
theorem isKept_isHostable (ctx : RenderContext) :
    IsKept ctx fun form => form.isHostable = true where
  nil := rfl
  append first second := by
    rw [isHostable_append, first, second]
    rfl
  block inside := by
    rw [isHostable_block]
    exact inside
  word sql _ := isHostable_text sql
  newline := rfl
  identifier _ := rfl
  tableName _ _ := rfl
  node _ := isHostable_node _

@[simp]
theorem isHostable_subquery (ctx : RenderContext) (asDocument : Bool) (query : Select) :
    (subquery ctx asDocument query).isHostable = true :=
  (isKept_isHostable ctx).subquery asDocument query

end Form

section Scripts

variable {ctx : RenderContext}

/-- What a node binds by itself, the host can compute. -/
theorem Node.Produces.isHostable {node : Node} {produced : Form}
    (produces : node.Produces ctx produced) : produced.isHostable = true := by
  have kept := Form.isKept_isHostable ctx
  cases produces with
  | hoisted bound =>
    rw [Form.isHostable_script, Script.parameter, List.all_cons, Piece.isHostable,
      Draft.Edit.isHostable, Expr.isHoisted_of_isBoundAt bound]
    rfl
  | valuesDynamic parameterizable =>
    rw [Form.isHostable_script, Script.list, List.all_cons, Piece.isHostable,
      Draft.Edit.isHostable, parameterizable]
    rfl
  | valuesConstants written => exact kept.literals written fun _ => rfl
  | select => exact kept.select ..
  | function => simp [kept.separated fun arg _ => Form.isHostable_whole arg]
  | valuesList => exact kept.separated fun element _ => Form.isHostable_whole element
  | term => exact kept.term ..
  | andThen => simp [kept.term]
  | base =>
    rw [Form.isHostable_named, Form.isHostable_append, Form.isHostable_script]
    split <;> simp
  | noValues => rfl
  | column => rfl
  | _ => simp

/-- What a script binds, the host can compute. -/
theorem Renders.isHostable {form : Form} {script : Script} (renders : Renders ctx form script)
    (hostable : form.isHostable = true) : script.all Piece.isHostable = true := by
  induction renders with
  | nil => rfl
  | piece piece _ ih =>
    rw [Form.isHostable, List.all_cons, Bool.and_eq_true] at hostable
    rw [List.all_cons, Bool.and_eq_true]
    exact ⟨hostable.1, ih hostable.2⟩
  | node produces _ _ ihProduced ihForm =>
    rw [Form.isHostable, List.all_cons, Bool.and_eq_true] at hostable
    rw [List.all_append, Bool.and_eq_true]
    exact ⟨ihProduced produces.isHostable, ihForm hostable.2⟩

end Scripts

/-! ## What a recipe binds -/

/-- Whether the host can compute what a step binds. -/
def Step.isHostable : Step → Bool
  | .text _ => true
  | .parameter binding => binding.value.isHoisted
  | .list binding => binding.source.isParameterizable

/-- The parameters that a recipe binds, apart from the elements of its lists. -/
def Recipe.bindings : Recipe → List Binding
  | .fixed _ parameters => parameters
  | .stepwise steps => steps.filterMap Step.binding?

namespace Draft

theorem isHostable_flush (draft : Draft) :
    draft.flush.steps.all Step.isHostable = draft.steps.all Step.isHostable := by
  unfold Draft.flush
  split
  · rfl
  · simp [Step.isHostable]

/-- An edit adds what it binds to the steps. -/
theorem isHostable_step (dialect : Dialect) (draft : Draft) (edit : Edit) :
    (draft.step dialect edit).steps.all Step.isHostable =
      (draft.steps.all Step.isHostable && edit.isHostable) := by
  cases edit with
  | append _ | newline | indent | dedent => exact (Bool.and_true _).symm
  | parameter value =>
    have flushed := isHostable_flush (draft.append (dialect.placeholder draft.nextName))
    simp only [Draft.step, Draft.parameter, List.all_append, flushed]
    simp [Draft.append, Step.isHostable, Edit.isHostable]
  | list source =>
    simp [Draft.step, Draft.list, isHostable_flush, Step.isHostable, Edit.isHostable]

/-- The parameters and lists of the recipe of a draft are those of its steps. -/
theorem Booked.isHostable_finish {draft : Draft} (booked : draft.Booked)
    (hostable : draft.steps.all Step.isHostable = true) :
    (∀ binding ∈ draft.finish.bindings, binding.value.isHoisted = true) ∧
      ∀ list ∈ draft.finish.lists, list.source.isParameterizable = true := by
  rw [← isHostable_flush, List.all_eq_true] at hostable
  have bindings : ∀ binding ∈ draft.flush.steps.filterMap Step.binding?,
      binding.value.isHoisted = true := by
    intro binding member
    obtain ⟨step, listed, bound⟩ := List.mem_filterMap.1 member
    cases step with
    | parameter other =>
      cases bound
      exact hostable _ listed
    | text _ | list _ => cases bound
  cases listed : draft.flush.hasList with
  | false =>
    rw [finish_of_no_list listed, Recipe.bindings, booked.flush.parameters]
    exact ⟨bindings, List.forall_mem_nil _⟩
  | true =>
    rw [finish_of_hasList listed]
    refine ⟨bindings, fun list member => ?_⟩
    obtain ⟨step, present, bound⟩ := List.mem_filterMap.1 member
    cases step with
    | list other =>
      cases bound
      exact hostable _ present
    | text _ | parameter _ => cases bound

end Draft

theorem Script.isHostable_run (dialect : Dialect) (script : Script) (state : Script.State) :
    (script.run dialect state).draft.steps.all Step.isHostable =
      (state.draft.steps.all Step.isHostable && script.all Piece.isHostable) := by
  induction script generalizing state with
  | nil => exact (Bool.and_true _).symm
  | cons piece rest ih =>
    rw [Script.run, List.foldl_cons, List.all_cons, ← Bool.and_assoc]
    refine (ih _).trans ?_
    cases piece with
    | edit e => rw [Script.State.step, Draft.isHostable_step, Piece.isHostable]
    | tableName id preferred => rw [Piece.isHostable, Bool.and_true]; rfl

/-- The host can compute what the recipe of a query binds. -/
theorem Select.isHostable_of_lower {dialect : Dialect} {indentWidth : Nat} {select : Select}
    {lowered : Lowered} (lowers : select.lower dialect indentWidth = .ok lowered) :
    (∀ binding ∈ lowered.recipe.bindings, binding.value.isHoisted = true) ∧
      ∀ list ∈ lowered.recipe.lists, list.source.isParameterizable = true := by
  obtain ⟨script, scripted, recipe⟩ := Select.recipe_of_lower lowers
  have written := (Select.renders_of_script scripted).isHostable rfl
  have booked := script.booked_run dialect indentWidth
  rw [recipe, Script.recipe]
  refine booked.isHostable_finish ?_
  rw [Script.isHostable_run, written]
  rfl

/-! ## Why a recipe fails -/

/-- Where the error of a recipe can come from: from an expression that it binds, or from a list
whose value is no collection. -/
inductive CommandError.Arises (inputs : Inputs) (sources : List Expr) : CommandError → Prop
  | evaluation {source : Expr} {name : String} {cause : EvalError} :
    source ∈ sources → source.eval inputs = .error cause →
    CommandError.Arises inputs sources (.eval name cause)
  | notACollection {name : String} {found : Kind} :
    CommandError.Arises inputs sources (.notACollection name found)

section Failures

variable {inputs : Inputs} {error : CommandError}

theorem CommandError.Arises.mono {sources more : List Expr} (arises : error.Arises inputs sources)
    (bound : sources ⊆ more) : error.Arises inputs more := by
  cases arises with
  | evaluation member failed => exact .evaluation (bound member) failed
  | notACollection => exact .notACollection

theorem Binding.arises_of_bind {binding : Binding} (failed : binding.bind inputs = .error error) :
    error.Arises inputs [binding.value] := by
  unfold Binding.bind at failed
  split at failed
  · cases failed
  next evalFailed =>
    cases failed
    exact .evaluation List.mem_cons_self evalFailed

theorem ListBinding.arises_of_elements {list : ListBinding}
    (failed : list.elements inputs = .error error) : error.Arises inputs [list.source] := by
  unfold ListBinding.elements at failed
  split at failed
  · cases failed
  · cases failed
  · cases failed
    exact .notACollection
  next evalFailed =>
    cases failed
    exact .evaluation List.mem_cons_self evalFailed

theorem Step.arises_of_run {step : Step} (failed : step.run inputs = .error error) :
    error.Arises inputs step.source?.toList := by
  cases step with
  | text sql => cases failed
  | parameter binding =>
    rw [Step.run] at failed
    rcases Except.bind_eq_error.1 failed with failed | ⟨_, -, failed⟩
    · exact Binding.arises_of_bind failed
    · cases failed
  | list binding =>
    rw [Step.run] at failed
    rcases Except.bind_eq_error.1 failed with failed | ⟨_, -, failed⟩
    · exact ListBinding.arises_of_elements failed
    · cases failed

/-- The error of steps comes from something that one of them binds. -/
theorem Step.arises_of_runAll {steps : List Step}
    (failed : Step.runAll inputs steps = .error error) :
    error.Arises inputs (steps.filterMap Step.source?) := by
  induction steps with
  | nil => cases failed
  | cons step rest ih =>
    rw [Step.runAll] at failed
    rcases Except.bind_eq_error.1 failed with failed | ⟨_, -, failed⟩
    · refine (Step.arises_of_run failed).mono fun source member => ?_
      rw [Option.mem_toList] at member
      exact List.mem_filterMap.2 ⟨step, List.mem_cons_self, member⟩
    rcases Except.bind_eq_error.1 failed with failed | ⟨_, -, failed⟩
    · refine (ih failed).mono fun source member => ?_
      obtain ⟨other, listed, bound⟩ := List.mem_filterMap.1 member
      exact List.mem_filterMap.2 ⟨other, List.mem_cons_of_mem _ listed, bound⟩
    · cases failed

theorem Binding.arises_of_mapM {bindings : List Binding}
    (failed : bindings.mapM (·.bind inputs) = .error error) :
    error.Arises inputs (bindings.map (·.value)) := by
  induction bindings with
  | nil => cases failed
  | cons binding rest ih =>
    rw [List.mapM_cons] at failed
    rcases Except.bind_eq_error.1 failed with failed | ⟨_, -, failed⟩
    · refine (Binding.arises_of_bind failed).mono fun source member => ?_
      rw [List.mem_singleton.1 member]
      exact List.mem_cons_self
    rcases Except.bind_eq_error.1 failed with failed | ⟨_, -, failed⟩
    · exact (ih failed).mono (List.subset_cons_self _ _)
    · cases failed

/-- A recipe fails for what it binds. -/
theorem Recipe.arises_of_apply {recipe : Recipe} {start : Command}
    (failed : recipe.apply start inputs = .error error) :
    error.Arises inputs recipe.sources := by
  have build : recipe.build inputs = .error error := by
    unfold Recipe.apply at failed
    rw [Recipe.applyTo_eq] at failed
    cases built : recipe.build inputs with
    | ok command => rw [built] at failed; cases failed
    | error other => rw [built] at failed; cases failed; rfl
  cases recipe with
  | fixed text parameters =>
    rw [Recipe.build] at build
    rcases Except.bind_eq_error.1 build with failed | ⟨_, -, failed⟩
    · exact Binding.arises_of_mapM failed
    · cases failed
  | stepwise steps => exact Step.arises_of_runAll build

/-- What a recipe binds is the value of one of its parameters or the source of one of its lists. -/
theorem Recipe.mem_sources {recipe : Recipe} {source : Expr} (member : source ∈ recipe.sources) :
    (∃ binding ∈ recipe.bindings, binding.value = source) ∨
      ∃ list ∈ recipe.lists, list.source = source := by
  cases recipe with
  | fixed text parameters => exact .inl (List.mem_map.1 member)
  | stepwise steps =>
    obtain ⟨step, listed, bound⟩ := List.mem_filterMap.1 member
    cases step with
    | text sql => cases bound
    | parameter binding =>
      cases bound
      exact .inl ⟨binding, List.mem_filterMap.2 ⟨_, listed, rfl⟩, rfl⟩
    | list binding =>
      cases bound
      exact .inr ⟨binding, List.mem_filterMap.2 ⟨_, listed, rfl⟩, rfl⟩

end Failures

/-! ## Lowered queries -/

/-- All inputs that some expressions mention are there. -/
def Inputs.Cover (inputs : Inputs) (exprs : List Expr) : Prop :=
  ∀ expr ∈ exprs, ∀ name, (Part.expr expr).Mentions name → (inputs.get? name).isSome = true

theorem Select.flatten_of_lower {dialect : Dialect} {indentWidth : Nat} {select : Select}
    {lowered : Lowered} (lowers : select.lower dialect indentWidth = .ok lowered) :
    ∃ columns, select.projection.flatten = .ok (columns, lowered.plan) := by
  unfold Select.lower at lowers
  simp only [Except.bind_eq_ok] at lowers
  obtain ⟨script, -, ⟨columns, plan⟩, flattened, built⟩ := lowers
  cases built
  exact ⟨columns, flattened⟩

theorem Plan.mem_evaluated {plan : Plan} {expr : Expr} :
    expr ∈ plan.evaluated ↔ .inputs expr ∈ plan.uses := by
  constructor
  · intro member
    obtain ⟨use, used, evaluated⟩ := List.mem_filterMap.1 member
    cases use with
    | inputs other =>
      cases evaluated
      exact used
    | value _ _ | document _ _ | flag _ => cases evaluated
  · intro used
    exact List.mem_filterMap.2 ⟨_, used, rfl⟩

/-- A recipe whose sources are on the host fails for a reason of one of them. -/
theorem Recipe.dueTo_of_apply {recipe : Recipe}
    (hosted : ∀ source ∈ recipe.sources, source.isParameterizable = true) {start : Command}
    {inputs : Inputs} {name : String} {cause : EvalError}
    (failed : recipe.apply start inputs = .error (.eval name cause)) :
    ∃ source ∈ recipe.sources, cause.DueTo inputs source := by
  cases Recipe.arises_of_apply failed with
  | @evaluation source _ _ member evalFailed =>
    have onHost := Expr.isOnHost_of_isParameterizable (hosted source member)
    exact ⟨source, member, source.dueTo_of_eval inputs onHost evalFailed⟩

/-- A plan whose expressions are on the host fails for a reason of one of them, or by an operation
of its own. -/
theorem Plan.dueTo_of_materialize {plan : Plan}
    (hosted : ∀ expr ∈ plan.evaluated, expr.isParameterizable = true) {row : Row}
    {inputs : Inputs} {cause : EvalError}
    (failed : plan.materialize row inputs = .error (.eval cause)) :
    cause.isOperational = true ∨ ∃ expr ∈ plan.evaluated, cause.DueTo inputs expr := by
  cases plan.arises_of_run row inputs [] failed with
  | operation operational => exact .inl operational
  | @evaluation expr _ used evalFailed =>
    have member := Plan.mem_evaluated.2 used
    have onHost := Expr.isOnHost_of_isParameterizable (hosted expr member)
    exact .inr ⟨expr, member, expr.dueTo_of_eval inputs onHost evalFailed⟩

/-- Everything that is hoisted can be evaluated on the host. The values of parameters are scalars
over the inputs, and the sources of lists and the expressions of the plan are over the inputs. So
the recipe and the plan of a query never meet a node that the host cannot evaluate, and they miss no
input if all that these expressions mention are there. -/
theorem Select.hosted_of_lower {dialect : Dialect} {indentWidth : Nat} {select : Select}
    {lowered : Lowered} (lowers : select.lower dialect indentWidth = .ok lowered) :
    (∀ binding ∈ lowered.recipe.bindings,
        binding.value.isParameterizable = true ∧ binding.value.type.isScalar = true) ∧
      (∀ list ∈ lowered.recipe.lists, list.source.isParameterizable = true) ∧
      (∀ expr ∈ lowered.plan.evaluated, expr.isParameterizable = true) ∧
      ∀ inputs : Inputs,
        (∀ start name node,
          lowered.recipe.apply start inputs ≠ .error (.eval name (.unsupported node))) ∧
        (∀ row node, lowered.plan.materialize row inputs ≠ .error (.eval (.unsupported node))) ∧
        (inputs.Cover (lowered.recipe.bindings.map (·.value) ++
            lowered.recipe.lists.map (·.source)) →
          ∀ start name input,
            lowered.recipe.apply start inputs ≠ .error (.eval name (.missingInput input))) ∧
        (inputs.Cover lowered.plan.evaluated →
          ∀ row input,
            lowered.plan.materialize row inputs ≠ .error (.eval (.missingInput input))) := by
  obtain ⟨bindings, lists⟩ := Select.isHostable_of_lower lowers
  obtain ⟨columns, flattened⟩ := Select.flatten_of_lower lowers
  simp only [Expr.isHoisted, Bool.and_eq_true] at bindings
  have evaluated : ∀ expr ∈ lowered.plan.evaluated, expr.isParameterizable = true := by
    intro expr member
    exact (Projection.fits_of_flatten flattened).right _ (Plan.mem_evaluated.1 member)
  have sources : ∀ source ∈ lowered.recipe.sources, source.isParameterizable = true := by
    intro source member
    rcases Recipe.mem_sources member with ⟨binding, listed, rfl⟩ | ⟨list, listed, rfl⟩
    · exact (bindings binding listed).1
    · exact lists list listed
  refine ⟨bindings, lists, evaluated, fun inputs => ⟨?_, ?_, ?_, ?_⟩⟩
  · intro start name node failed
    obtain ⟨source, -, due⟩ := Recipe.dueTo_of_apply sources failed
    exact due.ne_unsupported node rfl
  · intro row node failed
    rcases Plan.dueTo_of_materialize evaluated failed with operational | ⟨expr, -, due⟩
    · cases operational
    · exact due.ne_unsupported node rfl
  · intro cover start name input failed
    obtain ⟨source, member, due⟩ := Recipe.dueTo_of_apply sources failed
    refine due.ne_missingInput (cover source ?_) input rfl
    rcases Recipe.mem_sources member with ⟨binding, listed, rfl⟩ | ⟨list, listed, rfl⟩
    · exact List.mem_append_left _ (List.mem_map_of_mem listed)
    · exact List.mem_append_right _ (List.mem_map_of_mem listed)
  · intro cover row input failed
    rcases Plan.dueTo_of_materialize evaluated failed with operational | ⟨expr, member, due⟩
    · cases operational
    · exact due.ne_missingInput (cover expr member) input rfl

/-- The orders of some customers above a total, each with a tag that the host computes. -/
def Select.taggedAmong : Select :=
  { Select.ordersAmong with
    projection := .server (.record
      [("Id", .column ⟨0⟩ "Id" .int32),
        ("Tag", .binary .add (.input "total" .int32) (.constant (.int 1) .int32))]) }

/-- A query with two parameters, a list and a sum for the host: with all inputs there none is
missing, and the host is never asked for what it cannot evaluate. -/
theorem Select.hosted_taggedAmong :
    ∃ lowered, Select.taggedAmong.lower .sqlServer 4 = .ok lowered ∧
      lowered.recipe.bindings.map (·.value) = [.input "limit" .int32, .input "total" .int32] ∧
      lowered.recipe.lists.map (·.source) = [.input "customers" (.collection .int32)] ∧
      lowered.plan.evaluated =
        [.binary .add (.input "total" .int32) (.constant (.int 1) .int32)] ∧
      (∀ start name input,
        lowered.recipe.apply start .twoCustomers ≠ .error (.eval name (.missingInput input))) ∧
      (∀ row input,
        lowered.plan.materialize row .twoCustomers ≠ .error (.eval (.missingInput input))) ∧
      ∀ (inputs : Inputs) row node,
        lowered.plan.materialize row inputs ≠ .error (.eval (.unsupported node)) := by
  obtain ⟨-, -, -, runs⟩ := Select.hosted_of_lower
    (show Select.taggedAmong.lower .sqlServer 4 = .ok _ from rfl)
  obtain ⟨-, -, recipe, plan⟩ := runs .twoCustomers
  refine ⟨_, rfl, rfl, rfl, rfl, recipe ?_, plan ?_, fun inputs => (runs inputs).2.1⟩
  · have bound : Inputs.twoCustomers.Cover [.input "limit" .int32, .input "total" .int32,
        .input "customers" (.collection .int32)] := by
      intro expr member name mentions
      obtain ⟨type, contains⟩ := mentions
      simp only [List.mem_cons, List.not_mem_nil, or_false] at member
      rcases member with rfl | rfl | rfl <;>
        simp [@Part.contains_iff (.expr _), Part.children, Expr.children] at contains <;>
        rw [← contains.1] <;> rfl
    exact bound
  · have bound : Inputs.twoCustomers.Cover
        [.binary .add (.input "total" .int32) (.constant (.int 1) .int32)] := by
      intro expr member name mentions
      obtain ⟨type, contains⟩ := mentions
      rw [List.mem_singleton.1 member] at contains
      simp [@Part.contains_iff (.expr _), Part.children, Expr.children] at contains
      rw [← contains.1]
      rfl
    exact bound

end SqlLowering
