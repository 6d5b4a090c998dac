import SqlLowering.Proofs.Outcome
import SqlLowering.Script.Expr

/-!
# Records compared as a whole and field by field

The host compares two records as a whole: they are equal if they have the same names and the same
values, part by part. In SQL there are no records, so a comparison of two of them is expanded to a
conjunction of equalities or to a disjunction of inequalities of their fields. Both readings have
the same value on the host (`eval_recordComparison`).

A field is compared by the order of its two values and a record by their sameness, and these two
differ in one place only: an integer and a floating-point number may be equal in size, and are never
the same (`Value.compare?_eq_same`).
-/

namespace SqlLowering

/-! ## Equal in order, and the same -/

open Std (LawfulEqCmp)

theorem Calendar.Date.compare_eq_iff {a b : Date} : a.compare b = .eq ↔ a = b := by
  cases a
  cases b
  simp [Date.compare, Ordering.then_eq_eq]

theorem Calendar.Time.compare_eq_iff {a b : Time} : a.compare b = .eq ↔ a = b := by
  cases a
  cases b
  simp [Time.compare, Ordering.then_eq_eq]

theorem Calendar.Timestamp.compare_eq_iff {a b : Timestamp} : a.compare b = .eq ↔ a = b := by
  cases a
  cases b
  simp [Timestamp.compare, Ordering.then_eq_eq, Date.compare_eq_iff, Time.compare_eq_iff]

theorem Uuid.compare_eq_iff {a b : Uuid} : a.compare b = .eq ↔ a = b := by
  have digits : LawfulEqCmp fun x y : Fin 16 => Ord.compare x.val y.val :=
    { compare_self := LawfulEqCmp.compare_eq_iff_eq.2 rfl
      eq_of_compare := fun same => Fin.ext (LawfulEqCmp.eq_of_compare same) }
  cases a
  cases b
  simp [Uuid.compare]

namespace Value

theorem compare?_eq_same_of_kind_eq {a b : Value} (alike : a.kind = b.kind)
    (plain : a.kind ≠ .float) : (a.compare? b == some .eq) = a.same b := by
  rw [Bool.eq_iff_iff, beq_iff_eq]
  cases a <;> cases b <;> simp only [kind, reduceCtorEq] at alike
  case float.float => exact absurd rfl plain
  case null.null | bool.bool | int.int | string.string | bytes.bytes => simp [compare?, same]
  case date.date => simp [compare?, same, Calendar.Date.compare_eq_iff]
  case timestamp.timestamp => simp [compare?, same, Calendar.Timestamp.compare_eq_iff]
  case uuid.uuid => simp [compare?, same, Uuid.compare_eq_iff]
  case array.array | record.record => simp [compare?, float?]

/-- Values of different kinds have no order, unless one of them is a floating-point number. -/
theorem compare?_eq_none_of_kind_ne {a b : Value} (different : a.kind ≠ b.kind)
    (plain : a.kind ≠ .float) (plain' : b.kind ≠ .float) : a.compare? b = none := by
  revert different plain plain'
  cases a <;> cases b <;> simp [kind, compare?, float?, same]

theorem same_of_kind_ne {a b : Value} (different : a.kind ≠ b.kind) : a.same b = false := by
  revert different
  cases a <;> cases b <;> simp [kind, same]

/-- Two values are equal in their order exactly when they are the same, unless one of them is a
floating-point number. -/
theorem compare?_eq_same {a b : Value} (plain : a.kind ≠ .float) (plain' : b.kind ≠ .float) :
    (a.compare? b == some .eq) = a.same b := by
  by_cases alike : a.kind = b.kind
  · exact compare?_eq_same_of_kind_eq alike plain
  · rw [compare?_eq_none_of_kind_ne alike plain plain', same_of_kind_ne alike]
    rfl

theorem sameFields_cons {name name' : String} (sameName : name = name') (a b : Value)
    (as bs : List (String × Value)) :
    sameFields ((name, a) :: as) ((name', b) :: bs) = (a.same b && sameFields as bs) := by
  rw [sameFields, sameName, beq_self_eq_true, Bool.true_and]

end Value

/-! ## The value of a comparison -/

namespace BinaryOp

/-- What an equality or an inequality answers, given whether its operands are the same. -/
def answer (op : BinaryOp) (same : Bool) : Bool :=
  if op = .equal then same else !same

theorem apply_comparison {op : BinaryOp} (compares : op = .equal ∨ op = .notEqual)
    (lhs rhs : Value) :
    op.apply id lhs (fun _ => .ok rhs) =
      .ok (.bool (op.answer (lhs.compare? rhs == some .eq))) := by
  rcases compares with rfl | rfl <;> rfl

/-- The connective between the comparisons of two fields: fields are all the same, or some are
not. -/
theorem apply_joiner {op : BinaryOp} (compares : op = .equal ∨ op = .notEqual)
    (same same' : Bool) :
    (if op = .equal then BinaryOp.and else .or).apply id (.bool (op.answer same))
        (fun _ => .ok (.bool (op.answer same'))) =
      .ok (.bool (op.answer (same && same'))) := by
  rcases compares with rfl | rfl <;> cases same <;> cases same' <;> rfl

end BinaryOp

namespace Expr

/-- An expression has a value on the host that is not a floating-point number. -/
def HasPlainValue (inputs : Inputs) (expr : Expr) : Prop :=
  ∃ v, expr.eval inputs = .ok v ∧ v.kind ≠ .float

theorem eval_comparison {op : BinaryOp} (compares : op = .equal ∨ op = .notEqual)
    {inputs : Inputs} {left right : Expr} {lhs rhs : Value}
    (leftEvaluated : left.eval inputs = .ok lhs) (rightEvaluated : right.eval inputs = .ok rhs) :
    (Expr.binary op left right).eval inputs =
      .ok (.bool (op.answer (lhs.compare? rhs == some .eq))) := by
  rw [Expr.eval, leftEvaluated, rightEvaluated]
  exact BinaryOp.apply_comparison compares lhs rhs

/-- Two expressions with plain values have a comparison, which answers whether the values are the
same. -/
theorem HasPlainValue.exists_comparison {op : BinaryOp} (compares : op = .equal ∨ op = .notEqual)
    {inputs : Inputs} {left right : Expr} (leftPlain : left.HasPlainValue inputs)
    (rightPlain : right.HasPlainValue inputs) :
    ∃ lhs rhs, left.eval inputs = .ok lhs ∧ right.eval inputs = .ok rhs ∧
      (Expr.binary op left right).eval inputs = .ok (.bool (op.answer (lhs.same rhs))) := by
  obtain ⟨lhs, leftEvaluated, plain⟩ := leftPlain
  obtain ⟨rhs, rightEvaluated, plain'⟩ := rightPlain
  refine ⟨lhs, rhs, leftEvaluated, rightEvaluated, ?_⟩
  rw [eval_comparison compares leftEvaluated rightEvaluated, Value.compare?_eq_same plain plain']

theorem evalFields_cons {inputs : Inputs} {expr : Expr} {rest : List (String × Expr)} {v : Value}
    {vs : List (String × Value)} (name : String) (evaluated : expr.eval inputs = .ok v)
    (others : Expr.evalFields inputs rest = .ok vs) :
    Expr.evalFields inputs ((name, expr) :: rest) = .ok ((name, v) :: vs) := by
  rw [Expr.evalFields, evaluated, others]
  rfl

/-- The value of a comparison of records as a whole. -/
theorem eval_records {op : BinaryOp} (compares : op = .equal ∨ op = .notEqual) {inputs : Inputs}
    {left right : List (String × Expr)} {ls rs : List (String × Value)}
    (leftFields : Expr.evalFields inputs left = .ok ls)
    (rightFields : Expr.evalFields inputs right = .ok rs) :
    (Expr.binary op (.record left) (.record right)).eval inputs =
      .ok (.bool (op.answer (Value.sameFields ls rs))) := by
  have leftRecord : (Expr.record left).eval inputs = .ok (.record ls) := by
    rw [Expr.eval, leftFields]
    rfl
  have rightRecord : (Expr.record right).eval inputs = .ok (.record rs) := by
    rw [Expr.eval, rightFields]
    rfl
  have records : ∀ fields, (Value.record fields).kind ≠ .float := fun _ => by simp [Value.kind]
  rw [eval_comparison compares leftRecord rightRecord,
    Value.compare?_eq_same (records ls) (records rs), Value.same]

/-- Fields of the same names have values, and the comparisons of these values, joined behind a first
comparison one by one, answer whether the first holds and the fields are the same. -/
theorem exists_eval_fields {op : BinaryOp} (compares : op = .equal ∨ op = .notEqual)
    {inputs : Inputs} {left right : List (String × Expr)}
    (names : left.map Prod.fst = right.map Prod.fst)
    (leftPlain : ∀ field ∈ left, field.2.HasPlainValue inputs)
    (rightPlain : ∀ field ∈ right, field.2.HasPlainValue inputs) :
    ∃ ls rs, Expr.evalFields inputs left = .ok ls ∧ Expr.evalFields inputs right = .ok rs ∧
      ∀ (first : Expr) (same : Bool), first.eval inputs = .ok (.bool (op.answer same)) →
        ((List.zipWith (fun l r => Expr.binary op l.2 r.2) left right).foldl
            (.binary (if op = .equal then .and else .or)) first).eval inputs =
          .ok (.bool (op.answer (same && Value.sameFields ls rs))) := by
  induction left generalizing right with
  | nil =>
    cases right with
    | nil =>
      refine ⟨[], [], rfl, rfl, fun first same holds => ?_⟩
      rw [Value.sameFields, Bool.and_true]
      exact holds
    | cons _ _ => cases names
  | cons field rest ih =>
    cases right with
    | nil => cases names
    | cons field' rest' =>
      obtain ⟨sameName, sameRest⟩ := List.cons.inj names
      obtain ⟨headPlain, leftPlain⟩ := List.forall_mem_cons.1 leftPlain
      obtain ⟨headPlain', rightPlain⟩ := List.forall_mem_cons.1 rightPlain
      obtain ⟨lhs, rhs, leftEvaluated, rightEvaluated, compared⟩ :=
        headPlain.exists_comparison compares headPlain'
      obtain ⟨ls, rs, leftFields, rightFields, joined⟩ := ih sameRest leftPlain rightPlain
      refine ⟨(field.1, lhs) :: ls, (field'.1, rhs) :: rs,
        evalFields_cons _ leftEvaluated leftFields, evalFields_cons _ rightEvaluated rightFields,
        fun first same holds => ?_⟩
      have both : (Expr.binary (if op = .equal then .and else .or) first
          (.binary op field.2 field'.2)).eval inputs =
            .ok (.bool (op.answer (same && lhs.same rhs))) := by
        rw [Expr.eval, holds, compared]
        exact BinaryOp.apply_joiner compares _ _
      rw [List.zipWith_cons_cons, List.foldl_cons, joined _ _ both, Value.sameFields_cons sameName,
        Bool.and_assoc]

end Expr

/-- A comparison of records is expanded to the comparisons of their fields, nested to the left under
the connective, and this has the value of the comparison itself. The records have the same names in
the same order, and each of their fields has a value that is not a floating-point number; what is
inside of arrays and records does not matter. -/
theorem eval_recordComparison {op : BinaryOp} (compares : op = .equal ∨ op = .notEqual)
    {left right : List (String × Expr)} (nonempty : left ≠ [])
    (names : left.map Prod.fst = right.map Prod.fst) {inputs : Inputs}
    (leftPlain : ∀ field ∈ left, field.2.HasPlainValue inputs)
    (rightPlain : ∀ field ∈ right, field.2.HasPlainValue inputs) :
    ∃ first rest holds,
      List.zipWith (fun l r => Expr.binary op l.2 r.2) left right = first :: rest ∧
      recordComparison op left right =
        .ok (rest.foldl (.binary (if op = .equal then .and else .or)) first) ∧
      (Expr.binary op (.record left) (.record right)).eval inputs = .ok (.bool holds) ∧
      (rest.foldl (.binary (if op = .equal then .and else .or)) first).eval inputs =
        .ok (.bool holds) := by
  have lengths : left.length = right.length := by simpa using congrArg List.length names
  cases left with
  | nil => exact absurd rfl nonempty
  | cons field rest =>
    cases right with
    | nil => cases names
    | cons field' rest' =>
      obtain ⟨sameName, sameRest⟩ := List.cons.inj names
      obtain ⟨headPlain, leftPlain⟩ := List.forall_mem_cons.1 leftPlain
      obtain ⟨headPlain', rightPlain⟩ := List.forall_mem_cons.1 rightPlain
      obtain ⟨lhs, rhs, leftEvaluated, rightEvaluated, compared⟩ :=
        headPlain.exists_comparison compares headPlain'
      obtain ⟨ls, rs, leftFields, rightFields, joined⟩ :=
        Expr.exists_eval_fields compares sameRest leftPlain rightPlain
      have whole := Expr.eval_records compares
        (Expr.evalFields_cons field.1 leftEvaluated leftFields)
        (Expr.evalFields_cons field'.1 rightEvaluated rightFields)
      rw [Value.sameFields_cons sameName] at whole
      refine ⟨_, _, _, rfl, ?_, whole, joined _ _ compared⟩
      rw [recordComparison, if_neg (not_not_intro lengths)]
      rfl

/-- A number and tags that an input gives are compared with constants: the last tag is missing on
one side. -/
theorem eval_taggedRecords :
    let left := [("Id", Expr.input "id" .int32),
      ("Tags", .array [.input "tag" .string, .constant .null .string] (.collection .string))]
    let right := [("Id", Expr.constant (.int 7) .int32),
      ("Tags", .constant (.array [.string "new"]) (.collection .string))]
    let inputs := NameMap.ofList [("id", .int 7), ("tag", .string "new")]
    let expanded := Expr.binary .or
      (.binary .notEqual (.input "id" .int32) (.constant (.int 7) .int32))
      (.binary .notEqual
        (.array [.input "tag" .string, .constant .null .string] (.collection .string))
        (.constant (.array [.string "new"]) (.collection .string)))
    recordComparison .notEqual left right = .ok expanded ∧
      (Expr.binary .notEqual (.record left) (.record right)).eval inputs = .ok (.bool true) ∧
      expanded.eval inputs = .ok (.bool true) := by
  intro left right inputs expanded
  have plain : ∀ field ∈ left, field.2.HasPlainValue inputs := by
    intro field member
    simp only [left, List.mem_cons, List.not_mem_nil, or_false] at member
    rcases member with rfl | rfl
    · exact ⟨.int 7, rfl, by decide⟩
    · exact ⟨.array [.string "new", .null], rfl, by decide⟩
  have plain' : ∀ field ∈ right, field.2.HasPlainValue inputs := by
    intro field member
    simp only [right, List.mem_cons, List.not_mem_nil, or_false] at member
    rcases member with rfl | rfl
    · exact ⟨.int 7, rfl, by decide⟩
    · exact ⟨.array [.string "new"], rfl, by decide⟩
  have names : left.map Prod.fst = right.map Prod.fst := rfl
  obtain ⟨first, rest, holds, terms, expands, whole, parts⟩ :=
    eval_recordComparison (.inr rfl) (List.cons_ne_nil _ _) names plain plain'
  have differs : (Expr.binary .notEqual (.record left) (.record right)).eval inputs =
      .ok (.bool true) := rfl
  rw [differs] at whole
  cases whole
  cases terms
  exact ⟨expands, differs, parts⟩

end SqlLowering
