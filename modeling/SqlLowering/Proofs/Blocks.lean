import SqlLowering.Proofs.ClauseForms

/-!
# Blocks are closed

The level of the text changes in blocks only, and a block closes what it opens. `Form.Closed` are
the forms that are put together from flat pieces, nodes and blocks, where every select counts as a
nested one. Whatever a node produces is closed (`Node.Produces.closed`).
-/

namespace SqlLowering

/-- Whether a piece stays on its level. -/
def Piece.isFlat : Piece → Bool
  | .edit .indent | .edit .dedent => false
  | _ => true

/-- Forms that can stand in a select. -/
inductive Form.Closed : Form → Prop
  | nil : Form.Closed []
  | piece {piece : Piece} : piece.isFlat = true → Form.Closed [.piece piece]
  | node {node : Node} : node.isOutermost = false → Form.Closed (.node node)
  | append {first second : Form} :
    first.Closed → second.Closed → Form.Closed (first ++ second)
  | block {body : Form} : body.Closed → Form.Closed (.block body)

/-- No outermost select stands in a select. -/
theorem Form.Closed.nested {form : Form} (closed : form.Closed) :
    ∀ node, .node node ∈ form → node.isOutermost = false := by
  induction closed with
  | nil | piece _ => simp
  | node inner =>
    intro node member
    cases List.mem_singleton.1 member
    exact inner
  | append _ _ ihFirst ihSecond =>
    intro node member
    exact (List.mem_append.1 member).elim (ihFirst node) (ihSecond node)
  | block _ ih => simpa [Form.block, Form.script] using ih

namespace Form

theorem closed_script {pieces : Script} (flat : pieces.all Piece.isFlat = true) :
    (script pieces).Closed := by
  induction pieces with
  | nil => exact .nil
  | cons piece rest ih =>
    rw [List.all_cons, Bool.and_eq_true] at flat
    exact .append (.piece flat.1) (ih flat.2)

theorem closed_text (sql : String) : (text sql).Closed :=
  closed_script rfl

theorem closed_newline : (script .newline).Closed :=
  closed_script rfl

theorem closed_whole (expr : Expr) : (whole expr).Closed :=
  .node rfl

theorem closed_operand (expr : Expr) : (operand expr).Closed :=
  .node rfl

/-- A form with text on both sides. -/
theorem Closed.between {body : Form} (closed : body.Closed) (before after : String) :
    (text before ++ body ++ text after).Closed :=
  .append (.append (closed_text before) closed) (closed_text after)

theorem Closed.around {body : Form} (closed : body.Closed) (position : Position) :
    (around position body).Closed := by
  cases position with
  | whole => exact closed
  | operand => exact closed.between "(" ")"

/-- Clauses are closed, whatever stands in them. -/
theorem isKept_closed (ctx : RenderContext) : IsKept ctx Closed where
  nil := .nil
  append := .append
  block := .block
  word sql _ := closed_text sql
  newline := closed_newline
  identifier _ := closed_script rfl
  tableName _ _ := closed_script rfl
  node := .node

end Form

open Form in
/-- What a node produces can stand in a select. -/
theorem Node.Produces.closed {ctx : RenderContext} {node : Node} {produced : Form}
    (produces : node.Produces ctx produced) : produced.Closed := by
  have kept := isKept_closed ctx
  cases produces with
  | aliased => exact .append (.append (closed_whole _) (closed_text _)) (closed_script rfl)
  | @coalesce _ left right _ =>
    have first := ((closed_text "COALESCE(").append (closed_whole left)).append (closed_text ", ")
    exact ((first.append (closed_whole right)).append (closed_text ")")).around _
  | records _ _ _ => exact (closed_whole _).around _
  | sign _ _ _ =>
    exact (((closed_operand _).append (closed_text _)).append (closed_operand _)).around _
  | notTest _ _ => exact (closed_text _).append (closed_whole _)
  | notValue _ _ | negate _ => exact (closed_text _).append (closed_operand _)
  | convert _ => exact closed_whole _
  | @conditional _ test ifTrue ifFalse _ =>
    have first := (((closed_whole test).between "(CASE WHEN " " THEN ").append
      (closed_whole ifTrue)).append (closed_text " ELSE ")
    exact (first.append (closed_whole ifFalse)).append (closed_text " END)")
  | function => exact (kept.separated fun arg _ => closed_whole arg).between _ _
  | cast | aggregate => exact (closed_whole _).between _ _
  | «exists» => exact (closed_text _).append (kept.subquery _ _)
  | isIn =>
    exact (((closed_whole _).append (closed_text _)).append (.node rfl)).append (closed_text _)
  | subquery => exact kept.subquery _ _
  | valuesSubquery => exact .block (.node rfl)
  | valuesList _ => exact kept.separated fun element _ => closed_whole element
  | valuesConstants written => exact kept.literals written fun _ => closed_text _
  | base _ =>
    refine kept.named (.append ?_ (closed_script rfl)) _ _
    split <;> exact closed_script rfl
  | derived _ => exact kept.named (kept.subquery _ _) _ _
  | setOperation _ =>
    refine kept.named (Closed.between (.block ?_) "(" ")") _ _
    exact .append (.append (.node rfl) (closed_script rfl)) (.node rfl)
  | join =>
    exact .append (.append (.append (.append (.append (.node rfl) closed_newline) (closed_text _))
      (.node rfl)) (closed_text _)) (closed_whole _)
  | cross =>
    exact .append (.append (.append (.node rfl) closed_newline) (closed_text _)) (.node rfl)
  | term => exact kept.term _ _
  | andThen => exact .append (.append (.node rfl) (closed_text _)) (kept.term _ _)
  | select _ _ => exact kept.select _ _ _ _
  | column _ | constant _ | hoisted _ | fragment | noValues | valuesDynamic _ =>
    exact closed_script rfl

end SqlLowering
