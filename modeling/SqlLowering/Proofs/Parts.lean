import Mathlib.Data.List.Basic
import Mathlib.Logic.Relation
import SqlLowering.Proofs.Outcome
import SqlLowering.Plan.HostBody
import SqlLowering.Script.Expr

/-!
# Parts of queries

A query is a tree of expressions, tables, selects and the like. `Part.children` lists the parts that
a part is directly made of, in the order in which they are written, and `Part.Contains` is what can
be reached by going down. What is on the host contains no selects.
-/

namespace SqlLowering

/-- A part of a query. -/
inductive Part where
  | expr (expr : Expr)
  | values (values : InValues)
  | projection (projection : Projection)
  | table (table : Table)
  | ordering (ordering : OrderBy)
  | select (select : Select)

/-- The parts that an expression is directly made of. -/
def Expr.children : Expr → List Part
  | .column .. | .constant .. | .input .. | .fragment .. | .parameter .. => []
  | .aliased expr _ | .cast expr _ _ | .member expr _ _ | .aggregate _ expr _ _
  | .unary _ expr => [.expr expr]
  | .binary _ left right => [.expr left, .expr right]
  | .conditional test ifTrue ifFalse => [.expr test, .expr ifTrue, .expr ifFalse]
  | .function _ exprs _ | .array exprs _ => exprs.map .expr
  | .record fields => fields.map fun field => .expr field.2
  | .defaultIfEmpty expr flag _ => [.expr flag, .expr expr]
  | .exists select | .subquery _ select _ => [.select select]
  | .isIn value values => [.expr value, .values values]

/-- The parts directly in the values of a list. -/
def InValues.children : InValues → List Part
  | .subquery select => [.select select]
  | .list elements => elements.map .expr
  | .constants _ => []
  | .dynamic source => [.expr source]

/-- The parts directly in a projection. -/
def Projection.children : Projection → List Part
  | .server body => [.expr body]
  | .client body after => [.expr body, .expr after]
  | .composite outer inner result => [.projection outer, .projection inner, .expr result]

/-- The parts directly in a table. -/
def Table.children : Table → List Part
  | .base .. => []
  | .subquery _ _ select => [.select select]
  | .setOperation _ _ _ left right => [.select left, .select right]
  | .join _ outer inner predicate => [.table outer, .table inner, .expr predicate]
  | .cross _ outer inner => [.table outer, .table inner]

/-- The parts directly in an ordering. -/
def OrderBy.children : OrderBy → List Part
  | .term expr _ => [.expr expr]
  | .andThen previous expr _ => [.ordering previous, .expr expr]

/-- The parts of a select that are written as they are. Its projection and its grouping are written
as the columns that they come to. -/
def Select.clauses (select : Select) : List Part :=
  select.table.toList.map .table ++ select.predicate.toList.map .expr ++
    select.ordering.toList.map .ordering ++ select.offset.toList.map .expr ++
    select.limit.toList.map .expr

/-- The parts directly in a select. -/
def Select.children (select : Select) : List Part :=
  .projection select.projection :: (select.grouping.toList.map .expr ++ select.clauses)

/-- The parts that a part is directly made of. -/
def Part.children : Part → List Part
  | .expr e => e.children
  | .values vs => vs.children
  | .projection p => p.children
  | .table t => t.children
  | .ordering o => o.children
  | .select s => s.children

namespace Part

/-- A part is another one or stands somewhere in it. -/
def Contains : Part → Part → Prop :=
  Relation.ReflTransGen fun part child => child ∈ part.children

/-- A part reads the input of a name, at any depth. -/
def Mentions (part : Part) (name : String) : Prop :=
  ∃ type, part.Contains (.expr (.input name type))

theorem Contains.refl (part : Part) : part.Contains part :=
  Relation.ReflTransGen.refl

theorem Contains.trans {part middle inner : Part} (outer : part.Contains middle)
    (contains : middle.Contains inner) : part.Contains inner :=
  Relation.ReflTransGen.trans outer contains

theorem Contains.of_child {part child inner : Part} (contains : child.Contains inner)
    (member : child ∈ part.children) : part.Contains inner :=
  Relation.ReflTransGen.head member contains

/-- What stands in a part is the part itself or stands in one of its children. -/
theorem contains_iff {part inner : Part} :
    part.Contains inner ↔ part = inner ∨ ∃ child ∈ part.children, child.Contains inner :=
  Relation.ReflTransGen.cases_head_iff

/-- The parts that are followed through a rendering: inputs and selects. -/
def isFollowed : Part → Bool
  | .expr (.input ..) | .select _ => true
  | _ => false

/-- A followed part of something else stands in one of its children. -/
theorem contains_iff_child {part inner : Part} (followed : inner.isFollowed = true)
    (other : part.isFollowed = false) :
    part.Contains inner ↔ ∃ child ∈ part.children, child.Contains inner := by
  constructor
  · intro contains
    rcases Relation.ReflTransGen.cases_head contains with rfl | ⟨child, member, inside⟩
    · rw [followed] at other
      cases other
    · exact ⟨child, member, inside⟩
  · rintro ⟨child, member, inside⟩
    exact inside.of_child member

end Part

/-! ## The host has no selects -/

theorem Expr.isOnHost_of_mem {exprs : List Expr} (all : Expr.areOnHost exprs = true) {expr : Expr}
    (member : expr ∈ exprs) : expr.isOnHost = true := by
  induction exprs with
  | nil => cases member
  | cons first rest ih =>
    rw [Expr.areOnHost, Bool.and_eq_true] at all
    rcases List.mem_cons.1 member with rfl | later
    · exact all.1
    · exact ih all.2 later

theorem Expr.isOnHost_of_mem_fields {fields : List (String × Expr)}
    (all : Expr.areFieldsOnHost fields = true) {field : String × Expr} (member : field ∈ fields) :
    field.2.isOnHost = true := by
  induction fields with
  | nil => cases member
  | cons first rest ih =>
    rw [Expr.areFieldsOnHost, Bool.and_eq_true] at all
    rcases List.mem_cons.1 member with rfl | later
    · exact all.1
    · exact ih all.2 later

/-- The children of what is on the host are expressions on the host. -/
theorem Expr.children_of_isOnHost {expr : Expr} (onHost : expr.isOnHost = true) {child : Part}
    (member : child ∈ expr.children) : ∃ inner, child = .expr inner ∧ inner.isOnHost = true := by
  cases expr with
  | input _ _ | constant _ _ => cases member
  | binary op left right =>
    rw [Expr.isOnHost, Bool.and_eq_true] at onHost
    simp only [Expr.children, List.mem_cons, List.not_mem_nil, or_false] at member
    rcases member with rfl | rfl
    · exact ⟨left, rfl, onHost.1⟩
    · exact ⟨right, rfl, onHost.2⟩
  | unary _ operand | member operand _ _ =>
    obtain rfl := List.mem_singleton.1 member
    exact ⟨operand, rfl, onHost⟩
  | conditional test ifTrue ifFalse =>
    rw [Expr.isOnHost, Bool.and_eq_true, Bool.and_eq_true] at onHost
    simp only [Expr.children, List.mem_cons, List.not_mem_nil, or_false] at member
    rcases member with rfl | rfl | rfl
    · exact ⟨test, rfl, onHost.1.1⟩
    · exact ⟨ifTrue, rfl, onHost.1.2⟩
    · exact ⟨ifFalse, rfl, onHost.2⟩
  | record fields =>
    obtain ⟨field, inside, rfl⟩ := List.mem_map.1 member
    exact ⟨field.2, rfl, Expr.isOnHost_of_mem_fields onHost inside⟩
  | array elements type =>
    obtain ⟨element, inside, rfl⟩ := List.mem_map.1 member
    exact ⟨element, rfl, Expr.isOnHost_of_mem onHost inside⟩
  | _ => cases onHost

/-- An expression of the host: the host can evaluate it, or it is a body with parameters. -/
def Expr.IsHosted (expr : Expr) : Prop :=
  expr.isOnHost = true ∨ ∃ plan, expr.compile = .ok plan

theorem Expr.compile_of_mem {exprs : List Expr} {plans : List Plan}
    (all : Expr.compileList exprs = .ok plans) {expr : Expr} (member : expr ∈ exprs) :
    ∃ plan, expr.compile = .ok plan := by
  induction exprs generalizing plans with
  | nil => cases member
  | cons first rest ih =>
    simp only [Expr.compileList, Except.bind_eq_ok] at all
    obtain ⟨plan, compiled, others, compiledOthers, -⟩ := all
    rcases List.mem_cons.1 member with rfl | later
    · exact ⟨plan, compiled⟩
    · exact ih compiledOthers later

theorem Expr.compile_of_mem_fields {fields : List (String × Expr)} {plans : List (String × Plan)}
    (all : Expr.compileFields fields = .ok plans) {field : String × Expr}
    (member : field ∈ fields) : ∃ plan, field.2.compile = .ok plan := by
  induction fields generalizing plans with
  | nil => cases member
  | cons first rest ih =>
    simp only [Expr.compileFields, Except.bind_eq_ok] at all
    obtain ⟨plan, compiled, others, compiledOthers, -⟩ := all
    rcases List.mem_cons.1 member with rfl | later
    · exact ⟨plan, compiled⟩
    · exact ih compiledOthers later

/-- The children of a compiled body are expressions of the host. -/
theorem Expr.children_of_compile {expr : Expr} {plan : Plan} (compiled : expr.compile = .ok plan)
    {child : Part} (member : child ∈ expr.children) :
    ∃ inner, child = .expr inner ∧ inner.IsHosted := by
  by_cases parameterizable : expr.isParameterizable = true
  · rw [Expr.isParameterizable, Bool.and_eq_true] at parameterizable
    obtain ⟨inner, rfl, onHost⟩ := Expr.children_of_isOnHost parameterizable.2 member
    exact ⟨inner, rfl, .inl onHost⟩
  cases expr with
  | parameter _ _ | constant _ _ | input _ _ => cases member
  | aliased inner name =>
    obtain rfl := List.mem_singleton.1 member
    exact ⟨inner, rfl, .inr ⟨plan, compiled⟩⟩
  | record fields =>
    rw [Expr.compile, if_neg parameterizable] at compiled
    simp only [Except.bind_eq_ok] at compiled
    obtain ⟨plans, all, -⟩ := compiled
    obtain ⟨field, inside, rfl⟩ := List.mem_map.1 member
    exact ⟨field.2, rfl, .inr (Expr.compile_of_mem_fields all inside)⟩
  | member inner field type =>
    rw [Expr.compile, if_neg parameterizable] at compiled
    simp only [Except.bind_eq_ok] at compiled
    obtain ⟨source, sourceCompiled, -⟩ := compiled
    obtain rfl := List.mem_singleton.1 member
    exact ⟨inner, rfl, .inr ⟨source, sourceCompiled⟩⟩
  | array elements type =>
    rw [Expr.compile, if_neg parameterizable] at compiled
    simp only [Except.bind_eq_ok] at compiled
    obtain ⟨plans, all, -⟩ := compiled
    obtain ⟨element, inside, rfl⟩ := List.mem_map.1 member
    exact ⟨element, rfl, .inr (Expr.compile_of_mem all inside)⟩
  | binary op left right =>
    rw [Expr.compile, if_neg parameterizable] at compiled
    simp only [Except.bind_eq_ok] at compiled
    obtain ⟨lhs, leftCompiled, rhs, rightCompiled, -⟩ := compiled
    simp only [Expr.children, List.mem_cons, List.not_mem_nil, or_false] at member
    rcases member with rfl | rfl
    · exact ⟨left, rfl, .inr ⟨lhs, leftCompiled⟩⟩
    · exact ⟨right, rfl, .inr ⟨rhs, rightCompiled⟩⟩
  | unary op operand =>
    rw [Expr.compile, if_neg parameterizable] at compiled
    simp only [Except.bind_eq_ok] at compiled
    obtain ⟨inner, innerCompiled, -⟩ := compiled
    obtain rfl := List.mem_singleton.1 member
    exact ⟨operand, rfl, .inr ⟨inner, innerCompiled⟩⟩
  | conditional test ifTrue ifFalse =>
    rw [Expr.compile, if_neg parameterizable] at compiled
    simp only [Except.bind_eq_ok] at compiled
    obtain ⟨testPlan, testCompiled, truePlan, trueCompiled, falsePlan, falseCompiled, -⟩ := compiled
    simp only [Expr.children, List.mem_cons, List.not_mem_nil, or_false] at member
    rcases member with rfl | rfl | rfl
    · exact ⟨test, rfl, .inr ⟨testPlan, testCompiled⟩⟩
    · exact ⟨ifTrue, rfl, .inr ⟨truePlan, trueCompiled⟩⟩
    · exact ⟨ifFalse, rfl, .inr ⟨falsePlan, falseCompiled⟩⟩
  | _ => cases compiled

theorem Expr.IsHosted.of_isParameterizable {expr : Expr}
    (parameterizable : expr.isParameterizable = true) : expr.IsHosted := by
  rw [Expr.isParameterizable, Bool.and_eq_true] at parameterizable
  exact .inl parameterizable.2

/-- Whatever stands in an expression of the host is one too. -/
theorem Expr.IsHosted.of_contains {expr : Expr} (hosted : expr.IsHosted) {inner : Part}
    (contains : (Part.expr expr).Contains inner) :
    ∃ part, inner = .expr part ∧ part.IsHosted := by
  induction contains with
  | refl => exact ⟨expr, rfl, hosted⟩
  | tail _ member ih =>
    -- Along the way down, everything is an expression of the host.
    obtain ⟨middle, rfl, onHost | ⟨plan, compiled⟩⟩ := ih
    · obtain ⟨part, rfl, onHost⟩ := Expr.children_of_isOnHost onHost member
      exact ⟨part, rfl, .inl onHost⟩
    · exact Expr.children_of_compile compiled member

/-! ## Record comparisons -/

/-- A record comparison joins the comparisons of the fields, of which there is at least one. -/
theorem recordComparison_eq_ok {op : BinaryOp} {left right : List (String × Expr)}
    {comparison : Expr} (compared : recordComparison op left right = .ok comparison) :
    left.length = right.length ∧ ∃ first rest,
      List.zipWith (fun l r => Expr.binary op l.2 r.2) left right = first :: rest ∧
        comparison = rest.foldl (.binary (if op = .equal then .and else .or)) first := by
  rw [recordComparison] at compared
  by_cases lengths : left.length = right.length
  · rw [if_neg (not_not.2 lengths)] at compared
    cases terms : List.zipWith (fun l r => Expr.binary op l.2 r.2) left right with
    | nil =>
      rw [terms] at compared
      cases compared
    | cons first rest =>
      rw [terms] at compared
      cases compared
      exact ⟨lengths, first, rest, rfl, rfl⟩
  · rw [if_pos lengths] at compared
    cases compared

theorem exists_fields_of_mem_zipWith {op : BinaryOp} {left right : List (String × Expr)}
    {term : Expr} (member : term ∈ List.zipWith (fun l r => Expr.binary op l.2 r.2) left right) :
    ∃ l ∈ left, ∃ r ∈ right, term = .binary op l.2 r.2 := by
  rw [← List.map_uncurry_zip_eq_zipWith] at member
  obtain ⟨⟨l, r⟩, paired, rfl⟩ := List.mem_map.1 member
  exact ⟨l, (List.of_mem_zip paired).1, r, (List.of_mem_zip paired).2, rfl⟩

namespace Part

variable {inner : Part}

/-- The parts that the expansion of a record comparison makes anew or takes away: binary expressions
and records. -/
def isCombined : Part → Bool
  | .expr (.binary ..) | .expr (.record _) => true
  | _ => false

theorem isCombined_of_isFollowed (followed : inner.isFollowed = true) :
    inner.isCombined = false := by
  unfold isFollowed at followed
  split at followed
  · rfl
  · rfl
  · cases followed

/-- A part that is not combined stands in one of the children of one that is. -/
theorem contains_iff_of_isCombined {part : Part} (plain : inner.isCombined = false)
    (combined : part.isCombined = true) :
    part.Contains inner ↔ ∃ child ∈ part.children, child.Contains inner := by
  rw [contains_iff, or_iff_right]
  rintro rfl
  rw [plain] at combined
  cases combined

theorem contains_binary (plain : inner.isCombined = false) (op : BinaryOp) (left right : Expr) :
    (Part.expr (.binary op left right)).Contains inner ↔
      (Part.expr left).Contains inner ∨ (Part.expr right).Contains inner := by
  rw [contains_iff_of_isCombined plain rfl]
  simp [children, Expr.children]

theorem contains_record (plain : inner.isCombined = false) (fields : List (String × Expr)) :
    (Part.expr (.record fields)).Contains inner ↔
      ∃ field ∈ fields, (Part.expr field.2).Contains inner := by
  rw [contains_iff_of_isCombined plain rfl]
  constructor
  · rintro ⟨child, member, inside⟩
    obtain ⟨field, listed, rfl⟩ := List.mem_map.1 member
    exact ⟨field, listed, inside⟩
  · rintro ⟨field, listed, inside⟩
    exact ⟨_, List.mem_map_of_mem listed, inside⟩

theorem contains_foldl_binary (plain : inner.isCombined = false) (op : BinaryOp)
    (terms : List Expr) (first : Expr) :
    (Part.expr (terms.foldl (.binary op) first)).Contains inner ↔
      (Part.expr first).Contains inner ∨ ∃ term ∈ terms, (Part.expr term).Contains inner := by
  induction terms generalizing first with
  | nil => simp
  | cons term rest ih =>
    rw [List.foldl_cons, ih, contains_binary plain, List.exists_mem_cons_iff, or_assoc]

/-- The comparisons of the fields of two records have just the parts that the fields have, binary
expressions and records apart. -/
theorem contains_zipWith_binary (plain : inner.isCombined = false) (op : BinaryOp)
    {left right : List (String × Expr)} (lengths : left.length = right.length) :
    (∃ term ∈ List.zipWith (fun l r => Expr.binary op l.2 r.2) left right,
        (Part.expr term).Contains inner) ↔
      (∃ field ∈ left, (Part.expr field.2).Contains inner) ∨
        ∃ field ∈ right, (Part.expr field.2).Contains inner := by
  induction left generalizing right with
  | nil => cases right with
    | nil => simp
    | cons _ _ => cases lengths
  | cons l ls ih => cases right with
    | nil => cases lengths
    | cons r rs =>
      rw [List.zipWith_cons_cons, List.exists_mem_cons_iff, List.exists_mem_cons_iff,
        List.exists_mem_cons_iff, ih (Nat.succ.inj lengths), contains_binary plain]
      exact or_or_or_comm

/-- A comparison of records, written out field by field, contains what the records contain, apart
from what it combines. -/
theorem contains_recordComparison {op : BinaryOp} {left right : List (String × Expr)}
    {comparison : Expr} (compared : recordComparison op left right = .ok comparison)
    (plain : inner.isCombined = false) :
    (Part.expr comparison).Contains inner ↔
      (Part.expr (.binary op (.record left) (.record right))).Contains inner := by
  obtain ⟨lengths, first, rest, terms, rfl⟩ := recordComparison_eq_ok compared
  rw [contains_binary plain, contains_record plain, contains_record plain,
    ← contains_zipWith_binary plain op lengths, terms, contains_foldl_binary plain,
    List.exists_mem_cons_iff]

end Part

end SqlLowering
