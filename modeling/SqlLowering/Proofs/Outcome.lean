import SqlLowering.Plan.Basic

/-!
Successful computations, taken apart. A computation that may fail and that yields a value has
yielded one at each of its steps.
-/

namespace SqlLowering

variable {ε ε' α β : Type}

/-- A sequence of two computations succeeds if both do. -/
theorem Except.bind_eq_ok {first : Except ε α} {next : α → Except ε β} {b : β} :
    (first >>= next) = .ok b ↔ ∃ a, first = .ok a ∧ next a = .ok b := by
  cases first <;> simp [bind, Except.bind]

theorem Except.pure_eq_ok {a b : α} : (pure a : Except ε α) = .ok b ↔ a = b := by
  simp [pure, Except.pure]

/-- Each result of a list of computations is the result of one of them. -/
theorem Except.exists_of_mem_mapM {f : α → Except ε β} {as : List α} {bs : List β}
    (all : as.mapM f = .ok bs) {b : β} (member : b ∈ bs) : ∃ a ∈ as, f a = .ok b := by
  induction as generalizing bs with
  | nil =>
    cases all
    cases member
  | cons a rest ih =>
    rw [List.mapM_cons] at all
    simp only [Except.bind_eq_ok, Except.pure_eq_ok] at all
    obtain ⟨first, made, others, restAll, rfl⟩ := all
    rcases List.mem_cons.1 member with rfl | later
    · exact ⟨a, List.mem_cons_self, made⟩
    · obtain ⟨other, listed, madeLater⟩ := ih restAll later
      exact ⟨other, List.mem_cons_of_mem _ listed, madeLater⟩

/-- The wording of an error does not matter to success. -/
theorem Except.mapError_eq_ok {first : Except ε α} {f : ε → ε'} {a : α} :
    first.mapError f = .ok a ↔ first = .ok a := by
  cases first with
  | error _ => exact ⟨nofun, nofun⟩
  | ok b =>
    have unchanged : (Except.ok b : Except ε α).mapError f = .ok b := rfl
    rw [unchanged, Except.ok.injEq, Except.ok.injEq]

/-- An operator yields what its left operand decides, or what it makes of both operands. -/
theorem BinaryOp.apply_eq_ok {lift : EvalError → ε} {op : BinaryOp} {lhs v : Value}
    {right : Unit → Except ε Value} :
    op.apply lift lhs right = .ok v ↔
      op.decided? lhs = some v ∨
        op.decided? lhs = none ∧ ∃ rhs, right () = .ok rhs ∧ op.strict lhs rhs = .ok v := by
  unfold BinaryOp.apply
  cases op.decided? lhs with
  | some value => simp
  | none => cases right () <;> simp [Except.mapError_eq_ok]

/-- An operator on two values that are both at hand. -/
def BinaryOp.onValues (op : BinaryOp) (lhs rhs : Value) : Except EvalError Value :=
  op.apply id lhs fun _ => .ok rhs

theorem Except.mapError_id (first : Except ε α) : first.mapError id = first := by
  cases first <;> rfl

/-- Where the left operand decides nothing, both of them do. -/
theorem BinaryOp.onValues_of_undecided {op : BinaryOp} {lhs : Value}
    (undecided : op.decided? lhs = none) (rhs : Value) :
    op.onValues lhs rhs = op.strict lhs rhs := by
  unfold BinaryOp.onValues BinaryOp.apply
  rw [undecided]
  exact Except.mapError_id _

/-- What an operator answers does not depend on the errors that it is used among. -/
theorem BinaryOp.apply_values (lift : EvalError → ε) (op : BinaryOp) (lhs rhs : Value) :
    op.apply lift lhs (fun _ => .ok rhs) = (op.onValues lhs rhs).mapError lift := by
  cases decided : op.decided? lhs with
  | some value =>
    unfold BinaryOp.onValues BinaryOp.apply
    rw [decided]
    rfl
  | none =>
    rw [BinaryOp.onValues_of_undecided decided]
    unfold BinaryOp.apply
    rw [decided]

end SqlLowering
