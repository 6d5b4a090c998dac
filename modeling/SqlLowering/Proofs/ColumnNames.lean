import SqlLowering.Proofs.BoundInputs

/-!
# Columns of different shapes have different names

With several shapes in a projection, the columns of each are named under the position of their
shape: `$0` for the first, then `$1`, and so on. The first shape has no position while it is
flattened and gets one with the second; the others have theirs at the head of the path. Whatever the
fields, flags and parts of a shape are called, all that flattening does to a path is to go on behind
a point, so a name gives back the position of its shape (`Text.BeginsAt.eq_of_noPoint`).

`Shapes.Hold` says which columns belong to which shape, and is kept by each shape that is added
(`Shapes.Hold.add`) and by whole projections (`Projection.hold_of_flattenFrom`).
-/

namespace SqlLowering

/-! ## The expressions of the columns of a shape -/

/-- The columns of a node that may stay whole: the node itself if the database evaluates it, none if
the host does, and those of its parts otherwise. -/
def Expr.leavesOr (hosted : Bool) (expr : Expr) (parts : List Expr) : List Expr :=
  if expr.isLeaf hosted then [expr] else if expr.isWhole then [] else parts

mutual

/-- What the database evaluates for a shape, in the order of the columns. -/
def Expr.leaves (hosted : Bool) : Expr → List Expr
  | .record fields => Expr.fieldLeaves hosted fields
  | .defaultIfEmpty expr flag _ => flag :: expr.leaves hosted
  | .member expr field type => (Expr.member expr field type).leavesOr hosted (expr.leaves true)
  | .array elements type => (Expr.array elements type).leavesOr hosted (Expr.listLeaves elements)
  | .binary op left right =>
    (Expr.binary op left right).leavesOr hosted (left.leaves true ++ right.leaves true)
  | .unary op operand => (Expr.unary op operand).leavesOr hosted (operand.leaves true)
  | .conditional test ifTrue ifFalse =>
    (Expr.conditional test ifTrue ifFalse).leavesOr hosted
      (test.leaves true ++ (ifTrue.leaves true ++ ifFalse.leaves true))
  | other => other.leavesOr hosted []

/-- What the database evaluates for the elements of an array. -/
def Expr.listLeaves : List Expr → List Expr
  | [] => []
  | expr :: rest => expr.leaves true ++ Expr.listLeaves rest

/-- What the database evaluates for the fields of a record. -/
def Expr.fieldLeaves (hosted : Bool) : List (String × Expr) → List Expr
  | [] => []
  | (_, expr) :: rest => expr.leaves hosted ++ Expr.fieldLeaves hosted rest

end

theorem Expr.leaves_of_isWhole {expr : Expr} (apart : expr.isShape = false) (hosted : Bool)
    (whole : expr.isWhole = true) :
    expr.leaves hosted = if expr.isLeaf hosted then [expr] else [] := by
  cases expr with
  | record _ | defaultIfEmpty _ _ _ => cases apart
  | _ => simp [Expr.leaves, Expr.leavesOr, whole]

theorem Expr.isWhole_of_isLeaf {expr : Expr} {hosted : Bool} (leaf : expr.isLeaf hosted = true) :
    expr.isWhole = true := by
  unfold Expr.isLeaf at leaf
  split at leaf
  · rfl
  · rw [Bool.and_eq_true] at leaf
    rw [Expr.isWhole, leaf.2, Bool.or_true]

theorem Expr.isLeaf_of_split {expr : Expr} (hosted : Bool) (split : expr.isWhole = false) :
    expr.isLeaf hosted = false := by
  rw [← Bool.not_eq_true] at split ⊢
  exact mt Expr.isWhole_of_isLeaf split

theorem Expr.isLeaf_of_isParameterizable {expr : Expr} (hosted : Bool)
    (parameterizable : expr.isParameterizable = true) : expr.isLeaf hosted = false := by
  unfold Expr.isLeaf
  split
  · cases parameterizable
  · simp [parameterizable]

theorem Expr.leavesOr_of_split {expr : Expr} (hosted : Bool) (parts : List Expr)
    (split : expr.isWhole = false) : expr.leavesOr hosted parts = parts := by
  simp [Expr.leavesOr, split, Expr.isLeaf_of_split hosted split]

mutual

/-- Flattening a shape adds the columns that the database evaluates for it. -/
theorem Expr.Collects.exprs_eq {path : List String} {hosted : Bool} {expr : Expr}
    {g after : Collected} {plan : Plan} :
    Expr.Collects path hosted expr g plan after →
      after.columns.map (·.expr) = g.columns.map (·.expr) ++ expr.leaves hosted
  | .evaluated apart parameterizable => by
    have whole : expr.isWhole = true := by rw [Expr.isWhole, parameterizable, Bool.true_or]
    rw [Expr.leaves_of_isWhole apart hosted whole,
      Expr.isLeaf_of_isParameterizable hosted parameterizable]
    exact (List.append_nil _).symm
  | .constant => by simp [Expr.leaves, Expr.leavesOr, Expr.isLeaf, Expr.isWhole, Expr.isRenderable]
  | .leaf apart leaf => by
    obtain ⟨name, columns⟩ := g.columns_addAt path hosted expr
    have leaves := Expr.leaves_of_isWhole apart hosted (Expr.isWhole_of_isLeaf leaf)
    rw [leaf, if_pos rfl] at leaves
    rw [columns, List.map_append, leaves]
    rfl
  | .record fields => fields.exprs_eq
  | .defaultIfEmpty inner => by
    rw [inner.exprs_eq, Collected.add, List.map_append, List.append_assoc, Expr.leaves]
    rfl
  | .member split source => by
    rw [source.exprs_eq, Collected.columns_underHost, Expr.leaves, Expr.leavesOr_of_split _ _ split]
  | .array split elements => by
    rw [elements.exprs_eq, Collected.columns_underHost, Expr.leaves,
      Expr.leavesOr_of_split _ _ split]
  | .binary split left right => by
    rw [right.exprs_eq, left.exprs_eq, Collected.columns_underHost, Expr.leaves,
      Expr.leavesOr_of_split _ _ split, List.append_assoc]
  | .unary split operand => by
    rw [operand.exprs_eq, Collected.columns_underHost, Expr.leaves,
      Expr.leavesOr_of_split _ _ split]
  | .conditional split test ifTrue ifFalse => by
    rw [ifFalse.exprs_eq, ifTrue.exprs_eq, test.exprs_eq, Collected.columns_underHost, Expr.leaves,
      Expr.leavesOr_of_split _ _ split, List.append_assoc, List.append_assoc]

theorem Expr.CollectsList.exprs_eq {path : List String} {exprs : List Expr} {g after : Collected}
    {plans : List Plan} :
    Expr.CollectsList path exprs g plans after →
      after.columns.map (·.expr) = g.columns.map (·.expr) ++ Expr.listLeaves exprs
  | .nil => by simp [Expr.listLeaves]
  | .cons head tail => by rw [tail.exprs_eq, head.exprs_eq, Expr.listLeaves, List.append_assoc]

theorem Expr.CollectsFields.exprs_eq {path : List String} {hosted : Bool}
    {fields : List (String × Expr)} {g after : Collected} {plans : List (String × Plan)} :
    Expr.CollectsFields path hosted fields g plans after →
      after.columns.map (·.expr) = g.columns.map (·.expr) ++ Expr.fieldLeaves hosted fields
  | .nil => by simp [Expr.fieldLeaves]
  | .cons head tail => by rw [tail.exprs_eq, head.exprs_eq, Expr.fieldLeaves, List.append_assoc]

end

/-! ## Names behind a first word -/

/-- A name begins with a word: it is the word alone, or the word, a point and more. -/
def Text.BeginsAt (first name : String) : Prop :=
  name = first ∨ ∃ rest, name = first ++ "." ++ rest

/-- The word that a name begins with is what stands before its first point. -/
theorem Text.BeginsAt.takeWhile {first name : String} (begins : BeginsAt first name)
    (noPoint : '.' ∉ first.toList) : name.toList.takeWhile (· != '.') = first.toList := by
  have all : ∀ c ∈ first.toList, (c != '.') = true := by
    intro c member
    rw [bne_iff_ne]
    rintro rfl
    exact noPoint member
  obtain ⟨rest, characters, stop⟩ : ∃ rest, name.toList = first.toList ++ rest ∧
      rest.takeWhile (· != '.') = [] := by
    rcases begins with rfl | ⟨rest, rfl⟩
    · exact ⟨[], (List.append_nil _).symm, rfl⟩
    · refine ⟨'.' :: rest.toList, ?_, rfl⟩
      rw [String.toList_append, String.toList_append, List.append_assoc]
      rfl
  rw [characters, List.takeWhile_append_of_pos all, stop, List.append_nil]

/-- A name gives back the word that it begins with, if the word has no points. -/
theorem Text.BeginsAt.eq_of_noPoint {first first' name : String} (begins : BeginsAt first name)
    (begins' : BeginsAt first' name) (noPoint : '.' ∉ first.toList)
    (noPoint' : '.' ∉ first'.toList) : first = first' := by
  apply String.toList_injective
  rw [← begins.takeWhile noPoint, ← begins'.takeWhile noPoint']

theorem Text.beginsAt_pathName {path : List String} {first : String}
    (starts : path.head? = some first) : BeginsAt first (pathName path) := by
  obtain ⟨rest, rfl⟩ := List.head?_eq_some_iff.1 starts
  cases rest with
  | nil => exact .inl String.intercalate_singleton
  | cons second others => exact .inr ⟨pathName (second :: others), String.intercalate_cons_cons⟩

/-- What goes on behind a path begins as the path does. -/
theorem Text.BeginsAt.joinPath {first name : String} (begins : BeginsAt first name)
    (nonempty : first ≠ "") (last : String) : BeginsAt first (joinPath name last) := by
  have named : name ≠ "" := by
    rcases begins with rfl | ⟨rest, rfl⟩
    · exact nonempty
    · simp [nonempty]
  rw [SqlLowering.joinPath, if_neg (mt String.isEmpty_iff.1 named)]
  split
  · exact begins
  · rcases begins with rfl | ⟨rest, rfl⟩
    · exact .inr ⟨last, rfl⟩
    · exact .inr ⟨rest ++ "." ++ last, by simp only [String.append_assoc]⟩

/-- The word for the number of a shape, or of a column under a node of the host. -/
def Text.numberWord (k : Nat) : String :=
  "$" ++ toString k

theorem Text.toList_numberWord (k : Nat) : (numberWord k).toList = '$' :: Nat.toDigits 10 k := by
  simp [numberWord]

theorem Text.numberWord_ne_empty (k : Nat) : numberWord k ≠ "" := by
  intro none
  have characters := toList_numberWord k
  rw [none] at characters
  cases characters

theorem Text.noPoint_numberWord (k : Nat) : '.' ∉ (numberWord k).toList := by
  rw [toList_numberWord]
  intro point
  rcases List.mem_cons.1 point with same | digit
  · cases same
  · have isDigit := Nat.isDigit_of_mem_toDigits (by decide) (by decide) digit
    cases isDigit

theorem Text.numberWord_inj {k l : Nat} (same : numberWord k = numberWord l) : k = l := by
  have characters := congrArg String.toList same
  rw [toList_numberWord, toList_numberWord] at characters
  exact toDigits_inj (List.cons.inj characters).2

/-- Columns were added whose names begin with a word. -/
def Collected.AddsUnder (first : String) (g after : Collected) : Prop :=
  ∃ added, after.columns = g.columns ++ added ∧ ∀ column ∈ added, Text.BeginsAt first column.name

namespace Collected.AddsUnder

variable {first : String} {g middle after : Collected}

theorem of_columns_eq (same : after.columns = g.columns) : g.AddsUnder first after :=
  ⟨[], by rw [same, List.append_nil], fun _ member => absurd member List.not_mem_nil⟩

theorem of_columns_eq_append {column : Column} (columns : after.columns = g.columns ++ [column])
    (begins : Text.BeginsAt first column.name) : g.AddsUnder first after := by
  refine ⟨[column], columns, ?_⟩
  intro added member
  obtain rfl := List.mem_singleton.1 member
  exact begins

theorem trans (before : g.AddsUnder first middle) (behind : middle.AddsUnder first after) :
    g.AddsUnder first after := by
  obtain ⟨earlier, columns, begin⟩ := before
  obtain ⟨later, columns', begin'⟩ := behind
  refine ⟨earlier ++ later, by rw [columns', columns, List.append_assoc], ?_⟩
  intro column member
  rcases List.mem_append.1 member with left | right
  · exact begin column left
  · exact begin' column right

theorem under (hosted : Bool) (behind : (g.underHost hosted).AddsUnder first after) :
    g.AddsUnder first after :=
  (of_columns_eq (columns_underHost g hosted)).trans behind

end Collected.AddsUnder

mutual

/-- Flattening under a path adds columns whose names begin with the first word of the path. -/
theorem Expr.Collects.addsUnder {first : String} {path : List String} {hosted : Bool} {expr : Expr}
    {g after : Collected} {plan : Plan} (nonempty : first ≠ "") (starts : path.head? = some first) :
    Expr.Collects path hosted expr g plan after → g.AddsUnder first after
  | .evaluated _ _ | .constant => .of_columns_eq rfl
  | .leaf _ _ => by
    have begins := Text.beginsAt_pathName starts
    cases hosted with
    | false => exact .of_columns_eq_append rfl begins
    | true => exact .of_columns_eq_append rfl (begins.joinPath nonempty _)
  | .record fields => by
    obtain ⟨added, columns, begin⟩ := fields.addsUnder nonempty starts
    exact ⟨added, columns, begin⟩
  | .defaultIfEmpty inner =>
    .trans (.of_columns_eq_append rfl ((Text.beginsAt_pathName starts).joinPath nonempty _))
      (inner.addsUnder nonempty starts)
  | .member _ source => .under hosted (source.addsUnder nonempty starts)
  | .array _ elements => .under hosted (elements.addsUnder nonempty starts)
  | .binary _ left right =>
    .under hosted (.trans (left.addsUnder nonempty starts) (right.addsUnder nonempty starts))
  | .unary _ operand => .under hosted (operand.addsUnder nonempty starts)
  | .conditional _ test ifTrue ifFalse =>
    .under hosted (.trans (test.addsUnder nonempty starts)
      (.trans (ifTrue.addsUnder nonempty starts) (ifFalse.addsUnder nonempty starts)))

theorem Expr.CollectsList.addsUnder {first : String} {path : List String} {exprs : List Expr}
    {g after : Collected} {plans : List Plan} (nonempty : first ≠ "")
    (starts : path.head? = some first) :
    Expr.CollectsList path exprs g plans after → g.AddsUnder first after
  | .nil => .of_columns_eq rfl
  | .cons head tail => .trans (head.addsUnder nonempty starts) (tail.addsUnder nonempty starts)

theorem Expr.CollectsFields.addsUnder {first : String} {path : List String} {hosted : Bool}
    {fields : List (String × Expr)} {g after : Collected} {plans : List (String × Plan)}
    (nonempty : first ≠ "") (starts : path.head? = some first) :
    Expr.CollectsFields path hosted fields g plans after → g.AddsUnder first after
  | .nil => .of_columns_eq rfl
  | .cons head tail =>
    .trans (head.addsUnder nonempty (by rw [List.head?_append, starts]; rfl))
      (tail.addsUnder nonempty starts)

end

/-! ## The shapes of a projection -/

/-- The columns of parts are named under the positions of the parts. -/
def Shapes.NamedByPosition (parts : List (List Column)) : Prop :=
  ∀ k part, parts[k]? = some part → ∀ column ∈ part, Text.BeginsAt (Text.numberWord k) column.name

/-- One more part, with columns under the next position, keeps columns named by position. -/
theorem Shapes.NamedByPosition.append {parts : List (List Column)} (named : NamedByPosition parts)
    {part : List Column}
    (begin : ∀ column ∈ part, Text.BeginsAt (Text.numberWord parts.length) column.name) :
    NamedByPosition (parts ++ [part]) := by
  intro k other listed
  rcases Nat.lt_or_ge k parts.length with old | new
  · rw [List.getElem?_append_left old] at listed
    exact named k other listed
  · rw [List.getElem?_append_right new, List.getElem?_singleton] at listed
    split at listed
    next here =>
      cases listed
      have same : k = parts.length := by omega
      rw [same]
      exact begin
    · cases listed

/-- The columns so far are those of some shapes, one part for each; with two or more of them, they
are named by position. -/
structure Shapes.Hold (shapes : Shapes) (bodies : List Expr) (parts : List (List Column)) :
    Prop where
  columns : shapes.columns = parts.flatten
  count : shapes.count = parts.length
  exprs : parts.map (·.map (·.expr)) = bodies.map (Expr.leaves false)
  named : 2 ≤ parts.length → NamedByPosition parts

theorem Shapes.hold_empty : Shapes.empty.Hold [] [] :=
  ⟨rfl, rfl, rfl, fun two => absurd two (by decide)⟩

theorem Shapes.beginsAt_of_mem_positioned {columns : List Column} {column : Column}
    (member : column ∈ positioned columns) : Text.BeginsAt (Text.numberWord 0) column.name := by
  obtain ⟨original, -, rfl⟩ := List.mem_map.1 member
  -- The position is the path and the old name what goes on behind it.
  exact Text.BeginsAt.joinPath (.inl rfl) (Text.numberWord_ne_empty 0) original.name

/-- With the second shape, what is there is named by position too. -/
theorem Shapes.Hold.exists_before {shapes : Shapes} {bodies : List Expr}
    {parts : List (List Column)} (hold : shapes.Hold bodies parts) (nonzero : shapes.count ≠ 0) :
    ∃ renamed : List (List Column),
      (if shapes.count = 1 then positioned shapes.columns else shapes.columns) = renamed.flatten ∧
      renamed.length = parts.length ∧
      renamed.map (·.map (·.expr)) = bodies.map (Expr.leaves false) ∧ NamedByPosition renamed := by
  by_cases one : shapes.count = 1
  · rw [if_pos one, hold.columns]
    refine ⟨parts.map positioned, ?_, List.length_map _, ?_, ?_⟩
    · exact List.map_flatten
    · rw [← hold.exprs, List.map_map]
      refine List.map_congr_left fun part _ => ?_
      exact List.map_map
    · intro k part listed column member
      rw [List.getElem?_map, Option.map_eq_some_iff] at listed
      obtain ⟨original, listed, rfl⟩ := listed
      have bound := (List.getElem?_eq_some_iff.1 listed).1
      have first : k = 0 := by
        rw [← hold.count, one] at bound
        omega
      rw [first]
      exact beginsAt_of_mem_positioned member
  · rw [if_neg one]
    refine ⟨parts, hold.columns, rfl, hold.exprs, hold.named ?_⟩
    rw [← hold.count]
    omega

/-- One more shape has a part of its own. -/
theorem Shapes.Hold.add {shapes after : Shapes} {bodies : List Expr} {parts : List (List Column)}
    (hold : shapes.Hold bodies parts) {body : Expr} {plan : Plan}
    (added : shapes.add body = .ok (plan, after)) :
    ∃ parts', after.Hold (bodies ++ [body]) parts' := by
  simp only [Shapes.add, Except.bind_eq_ok, Except.pure_eq_ok] at added
  obtain ⟨⟨plan, g⟩, collected, same⟩ := added
  cases same
  have derivation := body.collects_of_collect collected
  have exprs := derivation.exprs_eq
  by_cases none : shapes.count = 0
  · have empty : parts = [] := List.eq_nil_of_length_eq_zero (hold.count ▸ none)
    have noBodies := hold.exprs
    rw [empty, List.map_nil, eq_comm, List.map_eq_nil_iff] at noBodies
    have noColumns := hold.columns
    rw [empty] at noColumns
    refine ⟨[g.columns], by simp, by simp [none], ?_, fun two => absurd two (by simp)⟩
    simp only [none, noColumns] at exprs
    rw [noBodies]
    exact congrArg (fun part => [part]) exprs
  · obtain ⟨renamed, columns, length, renamedExprs, named⟩ := hold.exists_before none
    rw [if_neg none] at derivation
    obtain ⟨part, partColumns, begin⟩ :=
      derivation.addsUnder (Text.numberWord_ne_empty shapes.count) rfl
    refine ⟨renamed ++ [part], ?_, ?_, ?_, fun _ => named.append ?_⟩
    · rw [partColumns, List.flatten_append, List.flatten_singleton]
      exact congrArg (· ++ part) columns
    · rw [List.length_append, length, ← hold.count]
      rfl
    · rw [partColumns, List.map_append] at exprs
      rw [List.map_append, List.map_append, renamedExprs]
      exact congrArg (fun part => _ ++ [part]) (List.append_cancel_left exprs)
    · rw [length, ← hold.count]
      exact begin

/-- A projection adds a part for each of its shapes, in their order. -/
theorem Projection.hold_of_flattenFrom : ∀ {projection : Projection} {shapes after : Shapes}
    {plan : Plan} {bodies : List Expr} {parts : List (List Column)}, shapes.Hold bodies parts →
    projection.flattenFrom shapes = .ok (plan, after) →
    ∃ parts', after.Hold (bodies ++ projection.serverBodies) parts'
  | .server body, _, _, _, _, _, hold, flattened => hold.add flattened
  | .client body _, _, _, _, _, _, hold, flattened => by
    simp only [Projection.flattenFrom, Except.bind_eq_ok, Except.pure_eq_ok] at flattened
    obtain ⟨⟨plan, last⟩, added, _, _, same⟩ := flattened
    cases same
    exact hold.add added
  | .composite outer inner _, _, _, _, _, _, hold, flattened => by
    simp only [Projection.flattenFrom, Except.bind_eq_ok, Except.pure_eq_ok] at flattened
    obtain ⟨⟨_, middle⟩, outerFlattened, ⟨_, last⟩, innerFlattened, _, _, same⟩ := flattened
    cases same
    obtain ⟨parts, hold⟩ := Projection.hold_of_flattenFrom hold outerFlattened
    rw [Projection.serverBodies, ← List.append_assoc]
    exact Projection.hold_of_flattenFrom hold innerFlattened

/-- The columns of a projection with several shapes have a part for each shape. Those of the part at
a position are named `$k` for it, or `$k` and more behind a point, so two columns of different
shapes have different names. -/
theorem Projection.named_by_shape {projection : Projection} {columns : List Column} {plan : Plan}
    (flattened : projection.flatten = .ok (columns, plan))
    (several : 2 ≤ projection.serverBodies.length) :
    ∃ parts : List (List Column), columns = parts.flatten ∧
      parts.map (·.map (·.expr)) = projection.serverBodies.map (Expr.leaves false) ∧
      Shapes.NamedByPosition parts ∧
      ∀ (k l : Nat) (part other : List Column), parts[k]? = some part → parts[l]? = some other →
        k ≠ l → ∀ column ∈ part, ∀ column' ∈ other, column.name ≠ column'.name := by
  simp only [Projection.flatten, Except.bind_eq_ok, Except.pure_eq_ok] at flattened
  obtain ⟨⟨plan, shapes⟩, flattened, same⟩ := flattened
  cases same
  obtain ⟨parts, hold⟩ := Projection.hold_of_flattenFrom Shapes.hold_empty flattened
  have lengths := congrArg List.length hold.exprs
  simp only [List.length_map, List.nil_append] at lengths
  have named := hold.named (lengths ▸ several)
  refine ⟨parts, hold.columns, hold.exprs, named, ?_⟩
  intro k l part other listed listed' different column member column' member' same
  have begins := named k part listed column member
  have begins' := named l other listed' column' member'
  rw [← same] at begins'
  refine different (Text.numberWord_inj ?_)
  exact begins.eq_of_noPoint begins' (Text.noPoint_numberWord k) (Text.noPoint_numberWord l)

/-- Three shapes, the first with a field that is called as the second position and one that is
called nothing. -/
def Projection.oddlyNamed : Projection :=
  .composite
    (.server (.record [("$1", .column ⟨0⟩ "A" .int32), ("", .column ⟨0⟩ "B" .int32)]))
    (.composite (.server (.column ⟨0⟩ "C" .int32))
      (.server (.array [.column ⟨0⟩ "D" .int32, .column ⟨0⟩ "E" .int32] (.collection .int32)))
      (.parameter 0 .int32))
    (.parameter 1 .int32)

theorem Projection.named_oddlyNamed :
    ∃ (columns : List Column) (plan : Plan), Projection.oddlyNamed.flatten = .ok (columns, plan) ∧
      columns.map (·.name) = ["$0.$1", "$0", "$1", "$2.$1", "$2.$2"] ∧
      ∃ parts : List (List Column), columns = parts.flatten ∧ parts.length = 3 ∧
        Shapes.NamedByPosition parts := by
  obtain ⟨parts, columns, exprs, named, -⟩ := Projection.named_by_shape
    (show Projection.oddlyNamed.flatten = .ok _ from rfl) (by decide)
  refine ⟨_, _, rfl, by decide, parts, columns, ?_, named⟩
  have lengths := congrArg List.length exprs
  rwa [List.length_map] at lengths

end SqlLowering
