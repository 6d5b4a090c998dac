import Mathlib.Data.List.Nodup
import SqlLowering.Proofs.ColumnNames

/-!
# Which columns of one shape share a name

The columns of a shape are named for the fields on the way to them, and those under a node of the
host for a number behind the fields. A record under a node of the host numbers its own columns from
the start, whichever columns were numbered before it, so two records side by side under one node can
have columns at the same place: with the same fields and the same number.

`Numbering` is what a part of a shape gets under a node of the host: how many columns the node
numbers itself, and the places of the others. With plain field names, the columns of a shape have
different names exactly if no two parts of one node of the host have a place in common
(`Projection.nodup_names_iff`).
-/

namespace SqlLowering

/-! ## Places under a node of the host -/

/-- How the columns of a part of a shape are named under a node of the host: the number of those
that the node numbers itself, and the places of those that records in the part number. -/
structure Numbering where
  count : Nat
  places : List (List String)

namespace Numbering

/-- No columns. -/
def empty : Numbering :=
  ⟨0, []⟩

/-- A single column. -/
def one : Numbering :=
  ⟨1, []⟩

instance : Append Numbering where
  append left right := ⟨left.count + right.count, left.places ++ right.places⟩

/-- All places, with so many columns numbered before. -/
def placesFrom (start : Nat) (numbering : Numbering) : List (List String) :=
  (List.range numbering.count).map (fun i => [Text.numberWord (start + i + 1)]) ++ numbering.places

/-- Whether two parts have no place in common, those that their node numbers apart. -/
def isApart (left right : Numbering) : Bool :=
  left.places.all fun place => !right.places.contains place

@[simp]
theorem count_append (left right : Numbering) :
    (left ++ right).count = left.count + right.count :=
  rfl

@[simp]
theorem places_append (left right : Numbering) :
    (left ++ right).places = left.places ++ right.places :=
  rfl

/-- Of two parts, the second one is numbered behind the first. -/
theorem placesFrom_append_perm (start : Nat) (left right : Numbering) :
    (left.placesFrom start ++ right.placesFrom (start + left.count)).Perm
      ((left ++ right).placesFrom start) := by
  have numbers : ∀ i, start + left.count + i + 1 = start + (left.count + i) + 1 := by
    intro i
    omega
  rw [List.perm_iff_count]
  intro place
  simp only [placesFrom, count_append, places_append, List.range_add, List.map_append, List.map_map,
    List.count_append, Function.comp_def, numbers]
  omega

theorem nodup_places_append (left right : Numbering) :
    (left ++ right).places.Nodup ↔
      left.places.Nodup ∧ right.places.Nodup ∧ left.isApart right = true := by
  rw [places_append, List.nodup_append]
  refine and_congr_right fun _ => and_congr_right fun _ => ?_
  simp only [isApart, List.all_eq_true, Bool.not_eq_true', List.contains_eq_mem,
    decide_eq_false_iff_not]
  constructor
  · intro apart place member member'
    exact apart place member place member' rfl
  · rintro apart place member _ member' rfl
    exact apart place member member'

/-- The columns that a node numbers itself are apart from each other and from those in records,
which have a field in front of their number. -/
theorem nodup_placesFrom_iff {numbering : Numbering}
    (deep : ∀ place ∈ numbering.places, 2 ≤ place.length) (start : Nat) :
    (numbering.placesFrom start).Nodup ↔ numbering.places.Nodup := by
  rw [placesFrom, List.nodup_append]
  constructor
  · rintro ⟨-, nodup, -⟩
    exact nodup
  · intro nodup
    refine ⟨List.nodup_range.map ?_, nodup, ?_⟩
    · intro i j same
      have numbers := Text.numberWord_inj (List.cons.inj same).1
      omega
    · rintro place member _ member' rfl
      obtain ⟨i, -, rfl⟩ := List.mem_map.1 member
      exact absurd (deep _ member') (by simp)

end Numbering

/-- The places in a record, from those in each of its fields. -/
def underFields (fields : List (String × List (List String))) : List (List String) :=
  fields.flatMap fun field => field.2.map (field.1 :: ·)

theorem underFields_cons (name : String) (places : List (List String))
    (rest : List (String × List (List String))) :
    underFields ((name, places) :: rest) = places.map (name :: ·) ++ underFields rest :=
  rfl

/-- The numbering of a node that may stay whole: a single column or none if it does, and that of its
parts otherwise. -/
def Expr.numberingOr (expr : Expr) (parts : Numbering) : Numbering :=
  if expr.isLeaf true then .one else if expr.isWhole then .empty else parts

mutual

/-- The numbering of a part of a shape under a node of the host. -/
def Expr.numbering : Expr → Numbering
  | .record fields => ⟨0, underFields (Expr.fieldPlaces 0 fields)⟩
  | .member expr field type => (Expr.member expr field type).numberingOr expr.numbering
  | .array elements type => (Expr.array elements type).numberingOr (Expr.listNumbering elements)
  | .binary op left right =>
    (Expr.binary op left right).numberingOr (left.numbering ++ right.numbering)
  | .unary op operand => (Expr.unary op operand).numberingOr operand.numbering
  | .conditional test ifTrue ifFalse =>
    (Expr.conditional test ifTrue ifFalse).numberingOr
      (test.numbering ++ (ifTrue.numbering ++ ifFalse.numbering))
  | other => other.numberingOr .empty

/-- The numbering of the elements of an array. -/
def Expr.listNumbering : List Expr → Numbering
  | [] => .empty
  | expr :: rest => expr.numbering ++ Expr.listNumbering rest

/-- The places of the columns in each field of a record, numbered on from field to field. -/
def Expr.fieldPlaces (start : Nat) : List (String × Expr) → List (String × List (List String))
  | [] => []
  | (field, expr) :: rest =>
    (field, expr.numbering.placesFrom start) ::
      Expr.fieldPlaces (start + expr.numbering.count) rest

end

mutual

/-- The places of the columns of a whole shape. -/
def Expr.columnPlaces : Expr → List (List String)
  | .record fields => underFields (Expr.fieldColumnPlaces fields)
  | other => if other.isLeaf false then [[]] else other.numbering.placesFrom 0

/-- The places of the columns in each field of a record that is not under a node of the host. -/
def Expr.fieldColumnPlaces : List (String × Expr) → List (String × List (List String))
  | [] => []
  | (field, expr) :: rest => (field, expr.columnPlaces) :: Expr.fieldColumnPlaces rest

end

mutual

/-- Whether no two parts of one node of the host have a place in common. -/
def Expr.recordsApart : Expr → Bool
  | .record fields => Expr.fieldRecordsApart fields
  | .member expr field type => (Expr.member expr field type).isWhole || expr.recordsApart
  | .array elements type => (Expr.array elements type).isWhole || Expr.listRecordsApart elements
  | .binary op left right =>
    (Expr.binary op left right).isWhole ||
      (left.recordsApart && right.recordsApart && left.numbering.isApart right.numbering)
  | .unary op operand => (Expr.unary op operand).isWhole || operand.recordsApart
  | .conditional test ifTrue ifFalse =>
    (Expr.conditional test ifTrue ifFalse).isWhole ||
      (test.recordsApart && ifTrue.recordsApart && ifFalse.recordsApart &&
        test.numbering.isApart (ifTrue.numbering ++ ifFalse.numbering) &&
        ifTrue.numbering.isApart ifFalse.numbering)
  | _ => true

/-- Whether no two elements of an array, and no two parts in one, have a place in common. -/
def Expr.listRecordsApart : List Expr → Bool
  | [] => true
  | expr :: rest =>
    expr.recordsApart && Expr.listRecordsApart rest &&
      expr.numbering.isApart (Expr.listNumbering rest)

/-- Whether the fields of a record, each on its own, have no two parts with a place in common. -/
def Expr.fieldRecordsApart : List (String × Expr) → Bool
  | [] => true
  | (_, expr) :: rest => expr.recordsApart && Expr.fieldRecordsApart rest

end

/-! ## Plain names -/

/-- A word that can stand in a path: not empty, and without points. -/
def Text.isPlain (word : String) : Bool :=
  !word.isEmpty && !word.toList.contains '.'

theorem Text.isPlain_iff {word : String} : isPlain word = true ↔ word ≠ "" ∧ '.' ∉ word.toList := by
  simp [isPlain]

theorem Text.isPlain_numberWord (k : Nat) : isPlain (numberWord k) = true :=
  isPlain_iff.2 ⟨numberWord_ne_empty k, noPoint_numberWord k⟩

mutual

/-- Whether the records that flattening goes into have plain and different field names, and no side
of an outer join is among them. -/
def Expr.hasPlainNames : Expr → Bool
  | .record fields => Expr.fieldsHavePlainNames fields
  | .defaultIfEmpty .. => false
  | .member expr _ _ => expr.hasPlainNames
  | .array elements _ => Expr.listHasPlainNames elements
  | .binary _ left right => left.hasPlainNames && right.hasPlainNames
  | .unary _ operand => operand.hasPlainNames
  | .conditional test ifTrue ifFalse =>
    test.hasPlainNames && (ifTrue.hasPlainNames && ifFalse.hasPlainNames)
  | _ => true

/-- Whether the elements of an array have plain names. -/
def Expr.listHasPlainNames : List Expr → Bool
  | [] => true
  | expr :: rest => expr.hasPlainNames && Expr.listHasPlainNames rest

/-- Whether the fields of a record have plain and different names, also in the records in them. -/
def Expr.fieldsHavePlainNames : List (String × Expr) → Bool
  | [] => true
  | (field, expr) :: rest =>
    Text.isPlain field && !(rest.map (·.1)).contains field && expr.hasPlainNames &&
      Expr.fieldsHavePlainNames rest

end

theorem Expr.fieldsHavePlainNames_cons {field : String} {expr : Expr}
    {rest : List (String × Expr)} :
    Expr.fieldsHavePlainNames ((field, expr) :: rest) = true ↔
      Text.isPlain field = true ∧ field ∉ rest.map (·.1) ∧ expr.hasPlainNames = true ∧
        Expr.fieldsHavePlainNames rest = true := by
  simp only [Expr.fieldsHavePlainNames, Bool.and_eq_true, Bool.not_eq_true', List.contains_eq_mem,
    decide_eq_false_iff_not, and_assoc]

/-- The words of a path that is not empty are read from its name. -/
theorem splitOn_pathName {path : List String} (nonempty : path ≠ [])
    (plain : ∀ word ∈ path, Text.isPlain word = true) :
    (pathName path).toList.splitOn '.' = path.map String.toList := by
  rw [pathName, String.toList_intercalate]
  refine List.splitOn_intercalate '.' ?_ (mt List.map_eq_nil_iff.1 nonempty)
  intro characters member
  obtain ⟨word, listed, rfl⟩ := List.mem_map.1 member
  exact (Text.isPlain_iff.1 (plain word listed)).2

theorem pathName_ne_empty {path : List String} (nonempty : path ≠ [])
    (plain : ∀ word ∈ path, Text.isPlain word = true) : pathName path ≠ "" := by
  intro none
  have words := splitOn_pathName nonempty plain
  obtain ⟨first, rest, rfl⟩ := List.exists_cons_of_ne_nil nonempty
  rw [none, List.map_cons] at words
  have blank : first.toList = [] := (List.cons.inj words).1.symm
  exact (Text.isPlain_iff.1 (plain first List.mem_cons_self)).1 (String.toList_eq_nil_iff.1 blank)

/-- Different paths of plain words have different names. -/
theorem pathName_inj {path path' : List String} (plain : ∀ word ∈ path, Text.isPlain word = true)
    (plain' : ∀ word ∈ path', Text.isPlain word = true) (same : pathName path = pathName path') :
    path = path' := by
  by_cases empty : path = []
  · subst empty
    by_contra different
    exact pathName_ne_empty (Ne.symm different) plain' same.symm
  by_cases empty' : path' = []
  · subst empty'
    exact absurd same (pathName_ne_empty empty plain)
  have words := congrArg (fun name => name.toList.splitOn '.') same
  simp only [splitOn_pathName empty plain, splitOn_pathName empty' plain'] at words
  exact List.map_injective_iff.2 (fun _ _ => String.toList_injective) words

theorem joinPath_pathName {path : List String} (plain : ∀ word ∈ path, Text.isPlain word = true)
    {word : String} (nonempty : word ≠ "") :
    joinPath (pathName path) word = pathName (path ++ [word]) := by
  rw [joinPath]
  by_cases empty : path = []
  · subst empty
    exact String.intercalate_singleton.symm
  · rw [if_neg (mt String.isEmpty_iff.1 (pathName_ne_empty empty plain)),
      if_neg (mt String.isEmpty_iff.1 nonempty), pathName, pathName,
      String.intercalate_append_of_ne_nil empty (List.cons_ne_nil _ _),
      String.intercalate_singleton]

/-! ## The places of a shape with plain names -/

/-- Places under one field are apart from those under the others. -/
theorem nodup_underFields_cons {name : String} {places : List (List String)}
    {rest : List (String × List (List String))} (fresh : name ∉ rest.map (·.1)) :
    (underFields ((name, places) :: rest)).Nodup ↔ places.Nodup ∧ (underFields rest).Nodup := by
  rw [underFields_cons, List.nodup_append, List.nodup_map_iff List.cons_injective]
  refine and_congr_right fun _ => and_iff_left ?_
  rintro place own _ other rfl
  obtain ⟨inner, -, rfl⟩ := List.mem_map.1 own
  obtain ⟨field, listed, member⟩ := List.mem_flatMap.1 other
  obtain ⟨_, -, same⟩ := List.mem_map.1 member
  exact fresh (List.mem_map.2 ⟨field, listed, (List.cons.inj same).1⟩)

/-- A property of the places in a record holds if it holds in each field, with the field in
front. -/
theorem forall_mem_underFields_cons {property : List String → Prop} {name : String}
    {places : List (List String)} {rest : List (String × List (List String))}
    (first : ∀ place ∈ places, property (name :: place))
    (others : ∀ place ∈ underFields rest, property place) :
    ∀ place ∈ underFields ((name, places) :: rest), property place := by
  intro place member
  rw [underFields_cons] at member
  rcases List.mem_append.1 member with own | other
  · obtain ⟨inner, listed, rfl⟩ := List.mem_map.1 own
    exact first inner listed
  · exact others place other

theorem Expr.names_fieldPlaces (start : Nat) (fields : List (String × Expr)) :
    (Expr.fieldPlaces start fields).map (·.1) = fields.map (·.1) := by
  induction fields generalizing start with
  | nil => rfl
  | cons field rest ih =>
    rw [Expr.fieldPlaces, List.map_cons, List.map_cons, ih]

theorem Expr.names_fieldColumnPlaces (fields : List (String × Expr)) :
    (Expr.fieldColumnPlaces fields).map (·.1) = fields.map (·.1) := by
  induction fields with
  | nil => rfl
  | cons field rest ih =>
    rw [Expr.fieldColumnPlaces, List.map_cons, List.map_cons, ih]

/-- A field in front of the number, and plain words only. -/
def IsInnerPlace (place : List String) : Prop :=
  2 ≤ place.length ∧ ∀ word ∈ place, Text.isPlain word = true

theorem Numbering.isPlain_of_mem_placesFrom {numbering : Numbering}
    (inner : ∀ place ∈ numbering.places, IsInnerPlace place) {start : Nat} {place : List String}
    (member : place ∈ numbering.placesFrom start) :
    place ≠ [] ∧ ∀ word ∈ place, Text.isPlain word = true := by
  rcases List.mem_append.1 member with own | listed
  · obtain ⟨i, -, rfl⟩ := List.mem_map.1 own
    refine ⟨List.cons_ne_nil _ _, ?_⟩
    intro word member
    obtain rfl := List.mem_singleton.1 member
    exact Text.isPlain_numberWord _
  · obtain ⟨deep, plain⟩ := inner place listed
    refine ⟨?_, plain⟩
    rintro rfl
    exact absurd deep (by decide)

theorem Expr.inner_numberingOr {expr : Expr} {parts : Numbering}
    (inner : ∀ place ∈ parts.places, IsInnerPlace place) :
    ∀ place ∈ (expr.numberingOr parts).places, IsInnerPlace place := by
  rw [Expr.numberingOr]
  split
  · exact List.forall_mem_nil _
  · split
    · exact List.forall_mem_nil _
    · exact inner

mutual

/-- What records number under a node of the host has a field in front of its number. -/
theorem Expr.inner_numbering {expr : Expr} (plain : expr.hasPlainNames = true) :
    ∀ place ∈ expr.numbering.places, IsInnerPlace place := by
  cases expr with
  | record fields => exact Expr.inner_fieldPlaces plain
  | defaultIfEmpty _ _ _ => cases plain
  | member expr _ _ => exact Expr.inner_numberingOr (expr.inner_numbering plain)
  | array elements _ => exact Expr.inner_numberingOr (Expr.inner_listNumbering plain)
  | binary _ left right =>
    rw [Expr.hasPlainNames, Bool.and_eq_true] at plain
    exact Expr.inner_numberingOr (List.forall_mem_append.2
      ⟨left.inner_numbering plain.1, right.inner_numbering plain.2⟩)
  | unary _ operand => exact Expr.inner_numberingOr (operand.inner_numbering plain)
  | conditional test ifTrue ifFalse =>
    simp only [Expr.hasPlainNames, Bool.and_eq_true] at plain
    exact Expr.inner_numberingOr (List.forall_mem_append.2
      ⟨test.inner_numbering plain.1, List.forall_mem_append.2
        ⟨ifTrue.inner_numbering plain.2.1, ifFalse.inner_numbering plain.2.2⟩⟩)
  | _ => exact Expr.inner_numberingOr (List.forall_mem_nil _)

theorem Expr.inner_listNumbering : ∀ {exprs : List Expr}, Expr.listHasPlainNames exprs = true →
    ∀ place ∈ (Expr.listNumbering exprs).places, IsInnerPlace place
  | [], _ => List.forall_mem_nil _
  | expr :: rest, plain => by
    rw [Expr.listHasPlainNames, Bool.and_eq_true] at plain
    exact List.forall_mem_append.2
      ⟨Expr.inner_numbering plain.1, Expr.inner_listNumbering plain.2⟩

/-- The places in the fields of a record have a field in front of their number. -/
theorem Expr.inner_fieldPlaces : ∀ {fields : List (String × Expr)} {start : Nat},
    Expr.fieldsHavePlainNames fields = true →
    ∀ place ∈ underFields (Expr.fieldPlaces start fields), IsInnerPlace place
  | [], _, _ => List.forall_mem_nil _
  | (field, expr) :: rest, start, plain => by
    obtain ⟨named, -, own, others⟩ := Expr.fieldsHavePlainNames_cons.1 plain
    rw [Expr.fieldPlaces]
    refine forall_mem_underFields_cons ?_ (Expr.inner_fieldPlaces others)
    intro place listed
    obtain ⟨nonempty, words⟩ :=
      Numbering.isPlain_of_mem_placesFrom (Expr.inner_numbering own) listed
    refine ⟨?_, List.forall_mem_cons.2 ⟨named, words⟩⟩
    have positive := List.length_pos_iff.2 nonempty
    rw [List.length_cons]
    omega

end

/-- The places of a node that may stay whole differ exactly if it does or those of its parts differ.
-/
theorem Expr.nodup_numberingOr_iff {expr : Expr} {parts : Numbering} {apart : Bool}
    (split : parts.places.Nodup ↔ apart = true) :
    (expr.numberingOr parts).places.Nodup ↔ (expr.isWhole || apart) = true := by
  rw [Expr.numberingOr]
  split
  next leaf =>
    rw [Expr.isWhole_of_isLeaf leaf]
    exact iff_of_true List.nodup_nil rfl
  · split
    next whole =>
      rw [whole]
      exact iff_of_true List.nodup_nil rfl
    next parted =>
      rw [Bool.not_eq_true] at parted
      rw [parted]
      exact split

theorem Expr.nodup_numberingOr_empty (expr : Expr) : (expr.numberingOr .empty).places.Nodup := by
  rw [Expr.nodup_numberingOr_iff (iff_of_true List.nodup_nil rfl), Bool.or_true]

mutual

/-- The places in records under a node of the host are different exactly if no two parts of one node
have a place in common: a record keeps those of its fields apart. -/
theorem Expr.nodup_numbering_iff {expr : Expr} (plain : expr.hasPlainNames = true) :
    expr.numbering.places.Nodup ↔ expr.recordsApart = true := by
  cases expr with
  | record fields => exact Expr.nodup_fieldPlaces_iff plain
  | defaultIfEmpty _ _ _ => cases plain
  | member expr _ _ => exact Expr.nodup_numberingOr_iff (expr.nodup_numbering_iff plain)
  | array elements _ => exact Expr.nodup_numberingOr_iff (Expr.nodup_listNumbering_iff plain)
  | binary _ left right =>
    rw [Expr.hasPlainNames, Bool.and_eq_true] at plain
    refine Expr.nodup_numberingOr_iff ?_
    rw [Numbering.nodup_places_append, left.nodup_numbering_iff plain.1,
      right.nodup_numbering_iff plain.2, Bool.and_eq_true, Bool.and_eq_true, and_assoc]
  | unary _ operand => exact Expr.nodup_numberingOr_iff (operand.nodup_numbering_iff plain)
  | conditional test ifTrue ifFalse =>
    simp only [Expr.hasPlainNames, Bool.and_eq_true] at plain
    refine Expr.nodup_numberingOr_iff ?_
    simp only [Numbering.nodup_places_append, test.nodup_numbering_iff plain.1,
      ifTrue.nodup_numbering_iff plain.2.1, ifFalse.nodup_numbering_iff plain.2.2,
      Bool.and_eq_true]
    tauto
  | _ => exact iff_of_true (Expr.nodup_numberingOr_empty _) rfl

theorem Expr.nodup_listNumbering_iff : ∀ {exprs : List Expr}, Expr.listHasPlainNames exprs = true →
    ((Expr.listNumbering exprs).places.Nodup ↔ Expr.listRecordsApart exprs = true)
  | [], _ => iff_of_true List.nodup_nil rfl
  | expr :: rest, plain => by
    rw [Expr.listHasPlainNames, Bool.and_eq_true] at plain
    rw [Expr.listNumbering, Numbering.nodup_places_append, Expr.nodup_numbering_iff plain.1,
      Expr.nodup_listNumbering_iff plain.2, Expr.listRecordsApart, Bool.and_eq_true,
      Bool.and_eq_true, and_assoc]

theorem Expr.nodup_fieldPlaces_iff : ∀ {fields : List (String × Expr)} {start : Nat},
    Expr.fieldsHavePlainNames fields = true →
    ((underFields (Expr.fieldPlaces start fields)).Nodup ↔ Expr.fieldRecordsApart fields = true)
  | [], _, _ => iff_of_true List.nodup_nil rfl
  | (field, expr) :: rest, start, plain => by
    obtain ⟨-, fresh, own, others⟩ := Expr.fieldsHavePlainNames_cons.1 plain
    have deep : ∀ place ∈ expr.numbering.places, 2 ≤ place.length :=
      fun place listed => (Expr.inner_numbering own place listed).1
    rw [← Expr.names_fieldPlaces (start + expr.numbering.count)] at fresh
    rw [Expr.fieldPlaces, nodup_underFields_cons fresh, Numbering.nodup_placesFrom_iff deep,
      Expr.nodup_numbering_iff own, Expr.nodup_fieldPlaces_iff others, Expr.fieldRecordsApart,
      Bool.and_eq_true]

end

theorem Expr.numbering_of_isWhole {expr : Expr} (apart : expr.isShape = false)
    (whole : expr.isWhole = true) :
    expr.numbering = if expr.isLeaf true then .one else .empty := by
  cases expr with
  | record _ | defaultIfEmpty _ _ _ => cases apart
  | _ => simp [Expr.numbering, Expr.numberingOr, whole]

theorem Expr.columnPlaces_of_apart {expr : Expr} (apart : expr.isShape = false) :
    expr.columnPlaces = if expr.isLeaf false then [[]] else expr.numbering.placesFrom 0 := by
  cases expr with
  | record _ => cases apart
  | _ => rfl

theorem Expr.nodup_columnPlaces_of_apart {expr : Expr} (apart : expr.isShape = false)
    (plain : expr.hasPlainNames = true) :
    expr.columnPlaces.Nodup ↔ expr.recordsApart = true := by
  rw [Expr.columnPlaces_of_apart apart, ← Expr.nodup_numbering_iff plain]
  split
  next leaf =>
    refine iff_of_true (List.nodup_singleton _) ?_
    rw [Expr.numbering_of_isWhole apart (Expr.isWhole_of_isLeaf leaf)]
    split <;> exact List.nodup_nil
  · exact Numbering.nodup_placesFrom_iff
      (fun place listed => (Expr.inner_numbering plain place listed).1) 0

mutual

/-- The places of the columns of a shape are different exactly if no two parts of one node of the
host have a place in common. -/
theorem Expr.nodup_columnPlaces_iff (expr : Expr) (plain : expr.hasPlainNames = true) :
    expr.columnPlaces.Nodup ↔ expr.recordsApart = true := by
  cases expr with
  | record fields => exact Expr.nodup_fieldColumnPlaces_iff fields plain
  | defaultIfEmpty _ _ _ => cases plain
  | _ => exact Expr.nodup_columnPlaces_of_apart rfl plain

theorem Expr.nodup_fieldColumnPlaces_iff : ∀ fields : List (String × Expr),
    Expr.fieldsHavePlainNames fields = true →
    ((underFields (Expr.fieldColumnPlaces fields)).Nodup ↔ Expr.fieldRecordsApart fields = true)
  | [], _ => iff_of_true List.nodup_nil rfl
  | (field, expr) :: rest, plain => by
    obtain ⟨-, fresh, own, others⟩ := Expr.fieldsHavePlainNames_cons.1 plain
    rw [← Expr.names_fieldColumnPlaces] at fresh
    rw [Expr.fieldColumnPlaces, nodup_underFields_cons fresh, expr.nodup_columnPlaces_iff own,
      Expr.nodup_fieldColumnPlaces_iff rest others, Expr.fieldRecordsApart, Bool.and_eq_true]

end

theorem Expr.isPlain_columnPlaces_of_apart {expr : Expr} (apart : expr.isShape = false)
    (plain : expr.hasPlainNames = true) :
    ∀ place ∈ expr.columnPlaces, ∀ word ∈ place, Text.isPlain word = true := by
  intro place listed
  rw [Expr.columnPlaces_of_apart apart] at listed
  split at listed
  · obtain rfl := List.mem_singleton.1 listed
    exact List.forall_mem_nil _
  · exact (Numbering.isPlain_of_mem_placesFrom (Expr.inner_numbering plain) listed).2

mutual

theorem Expr.isPlain_columnPlaces (expr : Expr) (plain : expr.hasPlainNames = true) :
    ∀ place ∈ expr.columnPlaces, ∀ word ∈ place, Text.isPlain word = true := by
  cases expr with
  | record fields => exact Expr.isPlain_fieldColumnPlaces fields plain
  | defaultIfEmpty _ _ _ => cases plain
  | _ => exact Expr.isPlain_columnPlaces_of_apart rfl plain

theorem Expr.isPlain_fieldColumnPlaces : ∀ fields : List (String × Expr),
    Expr.fieldsHavePlainNames fields = true →
    ∀ place ∈ underFields (Expr.fieldColumnPlaces fields), ∀ word ∈ place, Text.isPlain word = true
  | [], _ => List.forall_mem_nil _
  | (field, expr) :: rest, plain => by
    obtain ⟨named, -, own, others⟩ := Expr.fieldsHavePlainNames_cons.1 plain
    rw [Expr.fieldColumnPlaces]
    refine forall_mem_underFields_cons ?_ (Expr.isPlain_fieldColumnPlaces rest others)
    intro place listed
    exact List.forall_mem_cons.2 ⟨named, expr.isPlain_columnPlaces own place listed⟩

end

/-! ## The names that flattening gives -/

/-- Columns were added at places behind a path, in some order. -/
def Collected.AddsAt (path : List String) (places : List (List String)) (g after : Collected) :
    Prop :=
  ∃ added : List (List String), added.Perm places ∧
    after.columns.map (·.name) =
      g.columns.map (·.name) ++ added.map (fun place => pathName (path ++ place))

namespace Collected.AddsAt

variable {path : List String} {places places' : List (List String)} {g middle after : Collected}

theorem of_columns_eq (same : after.columns = g.columns) : g.AddsAt path [] after :=
  ⟨[], .nil, by rw [same, List.map_nil, List.append_nil]⟩

theorem single {place : List String} (expr : Expr)
    (added : after.columns = g.columns ++ [⟨pathName (path ++ place), expr⟩]) :
    g.AddsAt path [place] after :=
  ⟨[place], .rfl, by rw [added, List.map_append]; rfl⟩

theorem append (before : g.AddsAt path places middle) (behind : middle.AddsAt path places' after) :
    g.AddsAt path (places ++ places') after := by
  obtain ⟨earlier, perm, names⟩ := before
  obtain ⟨later, perm', names'⟩ := behind
  refine ⟨earlier ++ later, perm.append perm', ?_⟩
  rw [names', names, List.map_append, List.append_assoc]

theorem perm (adds : g.AddsAt path places after) (reordered : places.Perm places') :
    g.AddsAt path places' after := by
  obtain ⟨added, perm, names⟩ := adds
  exact ⟨added, perm.trans reordered, names⟩

/-- What is behind a field is at a place that the field is in front of. -/
theorem under_field {field : String} (adds : g.AddsAt (path ++ [field]) places after) :
    g.AddsAt path (places.map (field :: ·)) after := by
  obtain ⟨added, perm, names⟩ := adds
  refine ⟨added.map (field :: ·), perm.map _, ?_⟩
  rw [names, List.map_map]
  simp only [Function.comp_def, List.append_assoc, List.singleton_append]

end Collected.AddsAt

/-- Columns were added under a node of the host, as a numbering says. -/
structure Collected.Numbers (path : List String) (numbering : Numbering) (g after : Collected) :
    Prop where
  adds : g.AddsAt path (numbering.placesFrom g.numbered) after
  numbered : after.numbered = g.numbered + numbering.count

namespace Collected.Numbers

variable {path : List String} {g middle after : Collected}

theorem refl (path : List String) (g : Collected) : g.Numbers path .empty g :=
  ⟨.of_columns_eq rfl, rfl⟩

theorem append {left right : Numbering} (before : g.Numbers path left middle)
    (behind : middle.Numbers path right after) : g.Numbers path (left ++ right) after := by
  obtain ⟨adds, numbered⟩ := before
  obtain ⟨adds', numbered'⟩ := behind
  rw [numbered] at adds'
  refine ⟨(adds.append adds').perm (Numbering.placesFrom_append_perm _ _ _), ?_⟩
  rw [numbered', numbered, Numbering.count_append, Nat.add_assoc]

end Collected.Numbers

theorem Expr.numberingOr_of_split {expr : Expr} (parts : Numbering)
    (split : expr.isWhole = false) : expr.numberingOr parts = parts := by
  rw [Expr.numberingOr, Expr.isLeaf_of_split true split, split]
  rfl

mutual

/-- Under a node of the host, flattening names columns as the numbering of the part says; so it does
for the outermost such node, which starts to count. -/
theorem Expr.Collects.numbers {path : List String} {hosted : Bool} {expr : Expr}
    {g after : Collected} {plan : Plan} (words : ∀ word ∈ path, Text.isPlain word = true)
    (plain : expr.hasPlainNames = true)
    (within : hosted = true ∨ expr.isShape = false ∧ expr.isWhole = false) :
    Expr.Collects path hosted expr g plan after →
      (g.underHost hosted).Numbers path expr.numbering after
  | .evaluated apart parameterizable => by
    have whole : expr.isWhole = true := by rw [Expr.isWhole, parameterizable, Bool.true_or]
    rw [Expr.numbering_of_isWhole apart whole,
      Expr.isLeaf_of_isParameterizable true parameterizable]
    rcases within with rfl | ⟨-, split⟩
    · exact .refl path g
    · rw [whole] at split
      cases split
  | .constant => .refl path g
  | .leaf apart leaf => by
    have whole := Expr.isWhole_of_isLeaf leaf
    rcases within with rfl | ⟨-, split⟩
    · rw [Expr.numbering_of_isWhole apart whole, leaf]
      refine ⟨.single expr ?_, rfl⟩
      rw [← joinPath_pathName words (Text.numberWord_ne_empty _)]
      rfl
    · rw [whole] at split
      cases split
  | .record fields => by
    rcases within with rfl | ⟨apart, -⟩
    · exact ⟨fields.adds_numbered words plain rfl, rfl⟩
    · cases apart
  | .defaultIfEmpty _ => by cases plain
  | .member split source => by
    rw [Expr.hasPlainNames] at plain
    rw [Expr.numbering, Expr.numberingOr_of_split _ split]
    have numbers := source.numbers words plain (.inl rfl)
    exact numbers
  | .array split elements => by
    rw [Expr.numbering, Expr.numberingOr_of_split _ split]
    exact elements.numbers words plain
  | .binary split left right => by
    rw [Expr.hasPlainNames, Bool.and_eq_true] at plain
    rw [Expr.numbering, Expr.numberingOr_of_split _ split]
    exact (left.numbers words plain.1 (.inl rfl)).append (right.numbers words plain.2 (.inl rfl))
  | .unary split operand => by
    rw [Expr.hasPlainNames] at plain
    rw [Expr.numbering, Expr.numberingOr_of_split _ split]
    have numbers := operand.numbers words plain (.inl rfl)
    exact numbers
  | .conditional split test ifTrue ifFalse => by
    simp only [Expr.hasPlainNames, Bool.and_eq_true] at plain
    rw [Expr.numbering, Expr.numberingOr_of_split _ split]
    exact (test.numbers words plain.1 (.inl rfl)).append
      ((ifTrue.numbers words plain.2.1 (.inl rfl)).append
        (ifFalse.numbers words plain.2.2 (.inl rfl)))

theorem Expr.CollectsList.numbers {path : List String} {exprs : List Expr} {g after : Collected}
    {plans : List Plan} (words : ∀ word ∈ path, Text.isPlain word = true)
    (plain : Expr.listHasPlainNames exprs = true) :
    Expr.CollectsList path exprs g plans after → g.Numbers path (Expr.listNumbering exprs) after
  | .nil => .refl path g
  | .cons head tail => by
    rw [Expr.listHasPlainNames, Bool.and_eq_true] at plain
    exact (head.numbers words plain.1 (.inl rfl)).append (tail.numbers words plain.2)

/-- Flattening the fields of a record on the host adds columns at the numbered places of the fields.
-/
theorem Expr.CollectsFields.adds_numbered {path : List String} {hosted : Bool}
    {fields : List (String × Expr)} {g after : Collected} {plans : List (String × Plan)}
    (words : ∀ word ∈ path, Text.isPlain word = true)
    (plain : Expr.fieldsHavePlainNames fields = true) (within : hosted = true) :
    Expr.CollectsFields path hosted fields g plans after →
      g.AddsAt path (underFields (Expr.fieldPlaces g.numbered fields)) after
  | .nil => .of_columns_eq rfl
  | .cons head tail => by
    subst within
    obtain ⟨named, -, own, others⟩ := Expr.fieldsHavePlainNames_cons.1 plain
    have first := head.numbers
      (List.forall_mem_append.2 ⟨words, List.forall_mem_singleton.2 named⟩) own (.inl rfl)
    have behind := tail.adds_numbered words others rfl
    rw [first.numbered] at behind
    rw [Expr.fieldPlaces, underFields_cons]
    exact first.adds.under_field.append behind

end

mutual

/-- Flattening a shape names its columns for their places behind the path. -/
theorem Expr.Collects.adds_columns {path : List String} {hosted : Bool} {expr : Expr}
    {g after : Collected} {plan : Plan} (words : ∀ word ∈ path, Text.isPlain word = true)
    (plain : expr.hasPlainNames = true) (outside : hosted = false)
    (collects : Expr.Collects path hosted expr g plan after) :
    g.AddsAt path expr.columnPlaces after := by
  subst outside
  -- What is neither a record nor whole is a node of the host, the outermost one.
  by_cases node : expr.isShape = false ∧ expr.isWhole = false
  · have numbers := collects.numbers words plain (.inr node)
    rw [Expr.columnPlaces_of_apart node.1, Expr.isLeaf_of_split false node.2]
    exact numbers.adds
  cases collects with
  | evaluated apart parameterizable =>
    have whole : expr.isWhole = true := by rw [Expr.isWhole, parameterizable, Bool.true_or]
    rw [Expr.columnPlaces_of_apart apart, Expr.isLeaf_of_isParameterizable false parameterizable,
      Expr.numbering_of_isWhole apart whole, Expr.isLeaf_of_isParameterizable true parameterizable]
    exact .of_columns_eq rfl
  | leaf apart leaf =>
    rw [Expr.columnPlaces_of_apart apart, leaf]
    refine .single expr ?_
    rw [List.append_nil]
    rfl
  | record fields =>
    have adds := fields.adds_columns words plain rfl
    exact adds
  | defaultIfEmpty _ => cases plain
  | member split _ | array split _ | binary split _ _ | unary split _ | conditional split _ _ _ =>
    exact absurd ⟨rfl, split⟩ node

theorem Expr.CollectsFields.adds_columns {path : List String} {hosted : Bool}
    {fields : List (String × Expr)} {g after : Collected} {plans : List (String × Plan)}
    (words : ∀ word ∈ path, Text.isPlain word = true)
    (plain : Expr.fieldsHavePlainNames fields = true) (outside : hosted = false) :
    Expr.CollectsFields path hosted fields g plans after →
      g.AddsAt path (underFields (Expr.fieldColumnPlaces fields)) after
  | .nil => .of_columns_eq rfl
  | .cons head tail => by
    obtain ⟨named, -, own, others⟩ := Expr.fieldsHavePlainNames_cons.1 plain
    rw [Expr.fieldColumnPlaces, underFields_cons]
    refine .append (.under_field (head.adds_columns ?_ own outside))
      (tail.adds_columns words others outside)
    exact List.forall_mem_append.2 ⟨words, List.forall_mem_singleton.2 named⟩

end

/-- The columns of a shape with plain names have different names exactly if no two parts of one node
of the host have a place in common: columns in records, with the same fields on the way to them and
the same number in the record. -/
theorem Projection.nodup_names_iff {body : Expr} (plain : body.hasPlainNames = true)
    {columns : List Column} {plan : Plan}
    (flattened : (Projection.server body).flatten = .ok (columns, plan)) :
    (columns.map (·.name)).Nodup ↔ body.recordsApart = true := by
  simp only [Projection.flatten, Projection.flattenFrom, Shapes.add, Except.bind_eq_ok,
    Except.pure_eq_ok] at flattened
  obtain ⟨_, ⟨⟨plan, g⟩, collected, rfl⟩, same⟩ := flattened
  cases same
  obtain ⟨added, perm, names⟩ := (body.collects_of_collect collected).adds_columns
    (List.forall_mem_nil _) plain rfl
  have words : ∀ place ∈ added, ∀ word ∈ place, Text.isPlain word = true :=
    fun place member => body.isPlain_columnPlaces plain place (perm.mem_iff.1 member)
  rw [names, ← body.nodup_columnPlaces_iff plain, ← perm.nodup_iff]
  refine ⟨List.Nodup.of_map _, List.Nodup.map_on ?_⟩
  intro place member place' member' same
  exact pathName_inj (words place member) (words place' member') same

/-- An array of two records, with a column in a field of each. -/
def Expr.recordPair (field field' : String) : Expr :=
  .array [.record [(field, .column ⟨0⟩ "A" .int32)], .record [(field', .column ⟨0⟩ "B" .int32)]]
    (.collection (.record [⟨"x", .int32, true⟩]))

theorem Projection.nodup_recordPair :
    ∃ (columns : List Column) (plan : Plan),
      (Projection.server (.recordPair "x" "y")).flatten = .ok (columns, plan) ∧
      columns.map (·.name) = ["x.$1", "y.$1"] ∧ (columns.map (·.name)).Nodup := by
  have plain : (Expr.recordPair "x" "y").hasPlainNames = true := by decide
  refine ⟨_, _, rfl, by decide, ?_⟩
  exact (Projection.nodup_names_iff plain rfl).2 (by decide)

/-- With the same field in both records, both columns have one name. -/
theorem Projection.shared_name_recordPair :
    (Expr.recordPair "x" "x").hasPlainNames = true ∧
    ∃ (columns : List Column) (plan : Plan),
      (Projection.server (.recordPair "x" "x")).flatten = .ok (columns, plan) ∧
      columns.map (·.name) = ["x.$1", "x.$1"] ∧ ¬(columns.map (·.name)).Nodup :=
  ⟨by decide, _, _, rfl, by decide, by decide⟩

end SqlLowering
