import SqlLowering.Operator.Basic
import SqlLowering.Value.Coerce
import SqlLowering.Value.Compare

/-!
Operators applied to values on the host. Null spreads through arithmetic and is unordered; integer
results are exact or refused; the left operand alone may decide a connective or a coalescing.
-/

namespace SqlLowering

/-- Why an expression has no value on the host. -/
inductive EvalError where
  | missingInput (name : String)
  | unsupported (node : String)
  | binaryMismatch (op : BinaryOp) (left right : Kind)
  | unaryMismatch (op : UnaryOp) (operand : Kind)
  | conditionMismatch (found : Kind)
  | missingField (name : String)
  | divisionByZero
  | value (error : ValueError)

namespace EvalError

/-- The wording of a mismatch between an operation and the kinds of its operands. -/
def mismatchText (operation left right : String) : String :=
  "Type mismatch in " ++ operation ++ ": " ++ left ++ " and " ++ right

/-- The wording of an error. -/
def message : EvalError → String
  | .missingInput name => "Missing input: " ++ name
  | .unsupported node => "Cannot evaluate on the client: " ++ node
  | .binaryMismatch op left right => mismatchText op.name left.name right.name
  | .unaryMismatch op operand => mismatchText op.describe operand.name "none"
  | .conditionMismatch found => mismatchText "conditional" found.name "bool"
  | .missingField name => "Field not found: " ++ name
  | .divisionByZero => "Division by zero"
  | .value error => error.message

end EvalError

/-! ## Integers -/

/-- The integer of 64 bits that an integer is, if it is one. -/
def int64Of? (i : Int) : Option Int64 :=
  if Int64.minValue.toInt ≤ i ∧ i ≤ Int64.maxValue.toInt then some (Int64.ofInt i) else none

/-- A power, if it has 64 bits. With a base beyond one in size no exponent from 64 on can do, and
with the others only the parity of the exponent counts. -/
def power64? (base : Int) (exponent : Nat) : Option Int64 :=
  if base.natAbs ≤ 1 then
    int64Of? (base.pow (if exponent = 0 then 0 else 2 - exponent % 2))
  else if 64 ≤ exponent then none
  else int64Of? (base.pow exponent)

namespace BinaryOp

/-- Arithmetic on integers of 64 bits: the exact result, or nothing if it does not fit. Quotients
are rounded toward zero. The divisor is not zero. -/
def onInts? (op : BinaryOp) (a b : Int64) : Option Int64 :=
  match op with
  | .add => int64Of? (a.toInt + b.toInt)
  | .subtract => int64Of? (a.toInt - b.toInt)
  | .multiply => int64Of? (a.toInt * b.toInt)
  | .divide => int64Of? (a.toInt.tdiv b.toInt)
  | .modulo =>
    if a = Int64.minValue ∧ b = -1 then none else int64Of? (a.toInt.tmod b.toInt)
  | .power => if 0 ≤ b.toInt ∧ b.toInt < 4294967296 then power64? a.toInt b.toInt.toNat else none
  | .exclusiveOr => some (a ^^^ b)
  | _ => none

/-- Arithmetic on floating-point numbers. -/
def onFloats? (op : BinaryOp) (a b : Float) : Option Float :=
  match op with
  | .add => some (a + b)
  | .subtract => some (a - b)
  | .multiply => some (a * b)
  | .divide => some (a / b)
  | .modulo => some (Binary64.remainder a b)
  | .power => some (Float.pow a b)
  | _ => none

/-- An arithmetic operator on two values. -/
def arithmetic (op : BinaryOp) (lhs rhs : Value) : Except EvalError Value :=
  let mismatch : Except EvalError Value := .error (.binaryMismatch op lhs.kind rhs.kind)
  match lhs, rhs with
  | .null, _ | _, .null => .ok .null
  | .int a, .int b =>
    if b = 0 ∧ (op = .divide ∨ op = .modulo) then .error .divisionByZero
    else match op.onInts? a b with
      | some c => .ok (.int c)
      | none => mismatch
  | .bool a, .bool b => if op = .exclusiveOr then .ok (.bool (a ^^ b)) else mismatch
  | .string a, .string b => if op = .add then .ok (.string (a ++ b)) else mismatch
  | lhs, rhs =>
    match lhs.float?, rhs.float? with
    | some a, some b =>
      match op.onFloats? a b with
      | some c => .ok (.float c)
      | none => mismatch
    | _, _ => mismatch

/-- An ordering operator on the order of two values. -/
def holdsFor (op : BinaryOp) (order : Ordering) : Bool :=
  match op with
  | .greaterThan => order == .gt
  | .greaterThanOrEqual => order != .lt
  | .lessThan => order == .lt
  | _ => order != .gt

/-- An operator on two values, when the left one does not decide alone. -/
def strict (op : BinaryOp) (lhs rhs : Value) : Except EvalError Value :=
  match op with
  | .coalesce => .ok rhs
  | .and | .or =>
    match lhs, rhs with
    | .bool _, .bool b => .ok (.bool b)
    | _, _ => .error (.binaryMismatch op lhs.kind rhs.kind)
  | .equal => .ok (.bool (lhs.compare? rhs == some .eq))
  | .notEqual => .ok (.bool (lhs.compare? rhs != some .eq))
  | .greaterThan | .greaterThanOrEqual | .lessThan | .lessThanOrEqual =>
    if lhs.isNull || rhs.isNull then .ok (.bool false)
    else match lhs.compare? rhs with
      | some order => .ok (.bool (op.holdsFor order))
      | none => .error (.binaryMismatch op lhs.kind rhs.kind)
  | _ => op.arithmetic lhs rhs

/-- The result when the left operand decides alone: what is not null for a coalescing, false for a
conjunction, true for a disjunction. -/
def decided? (op : BinaryOp) (lhs : Value) : Option Value :=
  match op, lhs with
  | .coalesce, .null => none
  | .coalesce, lhs => some lhs
  | .and, .bool false => some (.bool false)
  | .or, .bool true => some (.bool true)
  | _, _ => none

/-- An operator on a value and a right operand that is computed only if it is needed. Errors of the
operator are taken into those of the right operand by `lift`. -/
def apply {ε : Type} (lift : EvalError → ε) (op : BinaryOp) (lhs : Value)
    (right : Unit → Except ε Value) : Except ε Value :=
  match op.decided? lhs with
  | some value => .ok value
  | none =>
    match right () with
    | .error error => .error error
    | .ok rhs => (op.strict lhs rhs).mapError lift

end BinaryOp

/-- A unary operator on a value. Null stays null. -/
def UnaryOp.apply (op : UnaryOp) (value : Value) : Except EvalError Value :=
  match op, value with
  | _, .null => .ok .null
  | .not, .bool b => .ok (.bool !b)
  | .negate, .int i => .ok (.int (-i))
  | .negate, .float x => .ok (.float (-x))
  | .convert type, value => (value.coerce type).mapError .value
  | op, value => .error (.unaryMismatch op value.kind)

/-- Whether a test holds; null does not. -/
def Value.holds : Value → Except EvalError Bool
  | .bool b => .ok b
  | .null => .ok false
  | other => .error (.conditionMismatch other.kind)

end SqlLowering
