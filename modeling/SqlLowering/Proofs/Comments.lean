import SqlLowering.Proofs.Dashes
import SqlLowering.Proofs.Following

/-!
# Comments in the text of a query

A minus in front of a minus opens a comment. Minuses come from negations, from subtractions and from
literals, and subtractions have blanks around them, so all depends on what a negation stands in
front of: `Select.opensComment_iff` says that the text of a query opens a comment if and only if a
negation is written whose operand begins with a minus itself.

Each way to write a node is gone through once, by following whether the text so far ends in a dash
(`Node.Produces.flows_expr`, `Node.Produces.flows_other`). From this, both directions are inductions
over derivations: `Renders.takes` and `Renders.opens`.
-/

namespace SqlLowering

/-! ## Minuses of expressions -/

mutual

/-- Whether what is written for an expression begins with a minus. -/
def Expr.leadsWithMinus (position : Position) : Expr → Bool
  | .constant value _ => value.hasMinus
  | .aliased expr _ | .isIn expr _ => expr.leadsWithMinus .whole
  | .binary op left right =>
    position = .whole && !(Expr.binary op left right).isHoisted && op ≠ .coalesce &&
      left.leadsWithMinus .operand
  | .unary .not _ => false
  | .unary .negate operand => !(Expr.unary .negate operand).isHoisted
  | .unary (.convert type) operand =>
    !(Expr.unary (.convert type) operand).isHoisted && operand.leadsWithMinus .whole
  | .record fields => Expr.leadWithMinus fields
  | _ => false

/-- Whether records of these fields are compared by a text that begins with a minus: with two fields
or more, it begins with a parenthesis. -/
def Expr.leadWithMinus : List (String × Expr) → Bool
  | [(_, expr)] => expr.leadsWithMinus .operand
  | _ => false

end

/-- Whether an expression is written as a negation in front of a minus. -/
def Expr.doublesMinus : Expr → Bool
  | .unary .negate operand =>
    !(Expr.unary .negate operand).isHoisted && operand.leadsWithMinus .operand
  | _ => false

/-- Whether the words of an expression that are written as they are have no dash and close what they
open. Nothing is known of fragments. -/
def Expr.hasPlainWords : Expr → Bool
  | .fragment .. => false
  | .function word _ _ | .aggregate word _ _ _ | .cast _ word _ =>
    '-' ∉ word.toList && Text.isClosed word
  | _ => true

/-- Parameters do not begin with a minus. -/
theorem Expr.leadsWithMinus_of_isBoundAt {position : Position} {expr : Expr}
    (bound : expr.isBoundAt position = true) : expr.leadsWithMinus position = false := by
  cases expr with
  | binary op left right =>
    rw [Expr.isBoundAt, Bool.and_eq_true] at bound
    simp [Expr.leadsWithMinus, bound.2]
  | unary op operand =>
    have hoisted : (Expr.unary op operand).isHoisted = true := bound
    cases op <;> simp [Expr.leadsWithMinus, hoisted]
  | record fields =>
    simp [Expr.isBoundAt, Expr.isHoisted, Expr.type, DataType.isScalar] at bound
  | _ => first | rfl | cases bound

/-- All words in a part that are written as they are have no dash and close what they open. -/
def Part.HasPlainWords (part : Part) : Prop :=
  ∀ expr, part.Contains (.expr expr) → expr.hasPlainWords = true

theorem Part.hasPlainWords_iff {part : Part} :
    part.HasPlainWords ↔ (∀ expr, part = .expr expr → expr.hasPlainWords = true) ∧
      ∀ child ∈ part.children, child.HasPlainWords := by
  constructor
  · intro words
    refine ⟨?_, fun child member expr inside => words expr (inside.of_child member)⟩
    rintro expr rfl
    exact words expr (.refl _)
  · rintro ⟨own, below⟩ expr inside
    rcases Part.contains_iff.1 inside with rfl | ⟨child, member, within⟩
    · exact own expr rfl
    · exact below child member expr within

@[simp]
theorem Part.hasPlainWords_expr {expr : Expr} :
    (Part.expr expr).HasPlainWords ↔
      expr.hasPlainWords = true ∧ ∀ child ∈ expr.children, child.HasPlainWords := by
  rw [Part.hasPlainWords_iff]
  simp [Part.children]

/-- Joined comparisons begin with a parenthesis. -/
theorem Expr.leadsWithMinus_foldl_binary (joiner op : BinaryOp) (left right next : Expr)
    (terms : List Expr) :
    (terms.foldl (Expr.binary joiner)
      (Expr.binary joiner (.binary op left right) next)).leadsWithMinus .whole = false := by
  induction terms generalizing op left right next with
  | nil => simp [Expr.leadsWithMinus]
  | cons term rest ih => exact ih joiner (.binary op left right) next term

/-- The comparison of two records begins as it is said of the records. -/
theorem leadsWithMinus_recordComparison {op : BinaryOp} {left right : List (String × Expr)}
    {comparison : Expr} (compares : op.comparesRecords = true)
    (compared : recordComparison op left right = .ok comparison) :
    comparison.leadsWithMinus .whole =
      (Expr.binary op (.record left) (.record right)).leadsWithMinus .whole := by
  obtain ⟨lengths, first, rest, terms, rfl⟩ := recordComparison_eq_ok compared
  rcases left with _ | ⟨⟨name, l⟩, _ | ⟨second, others⟩⟩
  · cases terms
  · obtain ⟨⟨name', r⟩, rfl⟩ := List.length_eq_one_iff.1 lengths.symm
    cases terms
    have hoisted : (Expr.binary op (.record [(name, l)]) (.record [(name', r)])).isHoisted =
        (Expr.binary op l r).isHoisted := by
      cases op <;> cases compares <;>
        simp [Expr.isHoisted, Expr.isParameterizable, Expr.readsInput, Expr.anyFieldReadsInput,
          Expr.isOnHost, Expr.areFieldsOnHost, Expr.type, BinaryOp.isPredicate]
    simp [Expr.leadsWithMinus, Expr.leadWithMinus, hoisted]
  · rcases right with _ | ⟨⟨name', r⟩, _ | ⟨second', others'⟩⟩
    · cases terms
    · cases lengths
    · cases terms
      refine (Expr.leadsWithMinus_foldl_binary _ op l r _ _).trans ?_
      simp [Expr.leadsWithMinus, Expr.leadWithMinus]

/-! ## Nodes that are written -/

section Nodes

variable {ctx : RenderContext}

/-- A node is written below another one, at any depth, or is that one. -/
def Node.Reaches (ctx : RenderContext) : Node → Node → Prop :=
  Relation.ReflTransGen fun node next =>
    ∃ produced, node.Produces ctx produced ∧ .node next ∈ produced

/-- What is bound at its place is not written in another way. -/
theorem Node.Produces.eq_of_isBoundAt {position : Position} {expr : Expr} {produced : Form}
    (produces : Node.Produces ctx (.expr position expr) produced)
    (bound : expr.isBoundAt position = true) : produced = .script (.parameter expr) := by
  cases produces with
  | hoisted _ => rfl
  | coalesce apart | records _ _ apart | sign _ _ apart | notTest _ apart | notValue _ apart
  | negate apart | convert apart | conditional apart =>
    cases bound.symm.trans apart
  | _ => cases bound

/-- There is one way to write a node. -/
theorem Node.Produces.unique {node : Node} {produced other : Form}
    (produces : node.Produces ctx produced) (produces' : node.Produces ctx other) :
    produced = other := by
  cases produces with
  | hoisted bound => exact (produces'.eq_of_isBoundAt bound).symm
  | column declared => cases produces' with
    | column declared' =>
      cases declared.symm.trans declared'
      rfl
    | hoisted bound => cases bound
  | constant literal => cases produces' with
    | constant literal' =>
      cases literal.symm.trans literal'
      rfl
    | hoisted bound => cases bound
  | coalesce apart => cases produces' with
    | coalesce _ => rfl
    | hoisted bound => cases bound.symm.trans apart
    | records compares => cases compares
    | sign signed => cases signed
  | records compares compared apart => cases produces' with
    | records _ compared' _ =>
      cases compared.symm.trans compared'
      rfl
    | hoisted bound => cases bound.symm.trans apart
    | coalesce => cases compares
    | sign _ others => exact (others _ _ compares rfl rfl).elim
  | sign signed others apart => cases produces' with
    | sign signed' _ _ =>
      cases signed.symm.trans signed'
      rfl
    | hoisted bound => cases bound.symm.trans apart
    | coalesce => cases signed
    | records compares => exact (others _ _ compares rfl rfl).elim
  | notTest taken apart => cases produces' with
    | notTest => rfl
    | hoisted bound => cases bound.symm.trans apart
    | notValue refused => cases taken.symm.trans refused
  | notValue refused apart => cases produces' with
    | notValue => rfl
    | hoisted bound => cases bound.symm.trans apart
    | notTest taken => cases taken.symm.trans refused
  | negate apart | convert apart | conditional apart => cases produces' with
    | hoisted bound => cases bound.symm.trans apart
    | _ => rfl
  | valuesConstants literals => cases produces' with
    | valuesConstants literals' =>
      cases literals.symm.trans literals'
      rfl
  | base declared => cases produces' with
    | base declared' =>
      cases declared.symm.trans declared'
      rfl
  | derived declared => cases produces' with
    | derived declared' =>
      cases declared.symm.trans declared'
      rfl
  | setOperation declared => cases produces' with
    | setOperation declared' =>
      cases declared.symm.trans declared'
      rfl
  | @select outermost query columns plan keys flattened found => cases produces' with
    | @select _ _ columns' plan' keys' flattened' found' =>
      cases flattened.symm.trans flattened'
      -- Only a select with a grouping has keys.
      cases grouped : query.grouping with
      | none => simp [Form.select, grouped]
      | some key =>
        cases (found key grouped).symm.trans (found' key grouped)
        rfl
  | _ => cases produces' <;> first | rfl | contradiction

/-- A node is written below a node of a form. -/
def Form.Reaches (ctx : RenderContext) (form : Form) (target : Node) : Prop :=
  ∃ node, .node node ∈ form ∧ node.Reaches ctx target

theorem Form.reaches_node_iff {node target : Node} :
    Form.Reaches ctx (.node node) target ↔ node.Reaches ctx target := by
  constructor
  · rintro ⟨start, member, reaches⟩
    obtain rfl := Symbol.node.inj (List.mem_singleton.1 member)
    exact reaches
  · intro reaches
    exact ⟨node, List.mem_singleton_self _, reaches⟩

/-- What holds of all that is written below a form holds below its tail. -/
theorem Form.forall_reaches_tail {P : Node → Prop} {symbol : Symbol} {form : Form}
    (all : ∀ target, Form.Reaches ctx (symbol :: form) target → P target) (target : Node)
    (reaches : form.Reaches ctx target) : P target := by
  obtain ⟨node, member, below⟩ := reaches
  exact all target ⟨node, List.mem_cons_of_mem symbol member, below⟩

/-- What holds of all that is written below a node holds of the node and of what it produces. -/
theorem Form.forall_reaches_produced {P : Node → Prop} {node : Node} {produced form : Form}
    (produces : node.Produces ctx produced)
    (all : ∀ target, Form.Reaches ctx (.node node :: form) target → P target) :
    P node ∧ ∀ target, produced.Reaches ctx target → P target := by
  refine ⟨all node ⟨node, List.mem_cons_self, .refl⟩, ?_⟩
  rintro target ⟨next, member, below⟩
  exact all target ⟨node, List.mem_cons_self, .head ⟨produced, produces, member⟩ below⟩

/-- What is written below a node is part of it, apart from what comparisons of records make anew. -/
theorem Node.Reaches.contains (places : ctx.dialect.PlacesPaging) {node next : Node}
    (reaches : node.Reaches ctx next) (plain : next.part.isCombined = false) :
    node.part.Contains next.part := by
  induction reaches using Relation.ReflTransGen.head_induction_on with
  | refl => exact .refl _
  | head step _ ih =>
    obtain ⟨produced, produces, member⟩ := step
    exact produces.contains_of_mem places plain (List.mem_filterMap.2 ⟨_, member, rfl⟩) ih

end Nodes

/-! ## One step -/

/-- Whether the words that a node is written with have no dash and close what they open. -/
def Node.hasPlainWords : Node → Bool
  | .expr _ e => e.hasPlainWords
  | _ => true

/-- Whether a node may begin with a minus. Only expressions ever stand behind a dash. -/
def Node.mayLead : Node → Bool
  | .expr position e => e.leadsWithMinus position
  | _ => true

/-- Whether a node is a negation in front of a minus. -/
def Node.doublesMinus : Node → Bool
  | .expr _ e => e.doublesMinus
  | _ => false

section Steps

variable {ctx : RenderContext} (dialect : ctx.dialect = .sqlServer)

theorem BinaryOp.plain_sign {op : BinaryOp} {sign : String} (signed : op.sign = .ok sign) :
    Text.Plain (" " ++ sign ++ " ").toList := by
  cases op <;> cases signed <;> decide

theorem Expr.plain_word {word : String} (words : ('-' ∉ word.toList && Text.isClosed word) = true)
    {rest : String} (plain : Text.Plain rest.toList) : Text.Plain (word ++ rest).toList := by
  rw [Bool.and_eq_true, decide_eq_true_eq, Text.isClosed, decide_eq_true_eq] at words
  rw [String.toList_append]
  exact plain.behind words.1 words.2

include dialect

/-- The form of an expression fits together with what is in front of it, if the expression
does. -/
theorem Node.Produces.flows_expr {position : Position} {expr : Expr} {produced : Form}
    {leads : Node → Bool} {dash : Bool}
    (produces : Node.Produces ctx (.expr position expr) produced)
    (words : expr.hasPlainWords = true)
    (quiet : dash = true → expr.leadsWithMinus position = false)
    (head : dash = true → ∀ next, produced.head? = some (.node next) → leads next = false)
    (apart : ∀ operand, expr = .unary .negate operand → expr.isHoisted = false →
      leads (.expr .operand operand) = false) :
    Form.Flows leads dash produced false := by
  have kept := Form.isKept_flows dialect leads
  cases produces with
  | column declared =>
    exact ((Form.flows_tableName _ _).append (Form.flows_text (by decide))).append
      (Form.flows_identifier dialect _)
  | aliased =>
    exact ((Form.flows_node (head · _ rfl)).append (Form.flows_text (by decide))).append
      (Form.flows_identifier dialect _)
  | constant literal => exact Form.flows_literal dialect literal quiet
  | hoisted bound => exact Form.flows_parameter _
  | coalesce _ =>
    refine Form.flows_around fun _ _ => ?_
    exact (((Form.flows_even_node _).between (by decide) (by decide)).append
      (Form.flows_even_node _)).append (Form.flows_text (by decide))
  | records _ _ _ =>
    refine Form.flows_around fun _ alone => Form.flows_node fun dashed => ?_
    obtain ⟨rfl, behind⟩ := alone dashed
    exact head behind _ rfl
  | sign signed _ _ =>
    refine Form.flows_around fun _ alone => ((Form.flows_node fun dashed => ?_).append
      (Form.flows_text (BinaryOp.plain_sign signed))).append (Form.flows_even_node _)
    obtain ⟨rfl, behind⟩ := alone dashed
    exact head behind _ rfl
  | notTest _ _ | notValue _ _ =>
    exact (Form.flows_text (by decide)).append (Form.flows_even_node _)
  | @negate _ operand sent =>
    -- A negation is not behind a dash, and what it negates is.
    have even : dash = false := by
      cases dash with
      | false => rfl
      | true => simp [Expr.leadsWithMinus, sent] at quiet
    subst even
    have minus : Script.Takes [.edit (.append "-")] false true := by
      intro state
      rw [Script.added_singleton, Piece.added]
      decide
    exact .piece minus (Form.flows_node fun _ => apart operand rfl sent)
  | convert _ => exact Form.flows_node (head · _ rfl)
  | conditional _ =>
    exact (((((Form.flows_even_node _).between (by decide) (by decide)).append
      (Form.flows_even_node _)).append (Form.flows_text (by decide))).append
      (Form.flows_even_node _)).append (Form.flows_text (by decide))
  | function =>
    exact (kept.separated fun arg _ => kept.whole arg).between
      (Expr.plain_word words (by decide)) (by decide)
  | fragment => cases words
  | @cast _ inner sqlType type =>
    have close : Text.Plain (" AS " ++ sqlType ++ ")").toList := by
      rw [String.append_assoc, String.toList_append]
      exact Text.Plain.append (by decide) (Expr.plain_word words (by decide))
    exact (Form.flows_even_node _).between (by decide) close
  | «exists» => exact (Form.flows_text (by decide)).append (Form.flows_subquery dialect _ _)
  | isIn =>
    exact (((Form.flows_node (head · _ rfl)).append (Form.flows_text (by decide))).append
      (Form.flows_even_node _)).append (Form.flows_text (by decide))
  | @aggregate _ function arg distinct type =>
    have call : Text.Plain
        (function ++ "(" ++ if distinct then "DISTINCT " else "").toList := by
      rw [String.append_assoc]
      exact Expr.plain_word words (by cases distinct <;> decide)
    exact (Form.flows_even_node _).between call (by decide)
  | subquery => exact Form.flows_subquery dialect _ _

/-- Anything else begins at a place where there is no dash. -/
theorem Node.Produces.flows_other {node : Node} {produced : Form} {leads : Node → Bool}
    (produces : node.Produces ctx produced) (other : ∀ position expr, node ≠ .expr position expr) :
    Form.Flows leads false produced false := by
  have kept := Form.isKept_flows dialect leads
  cases produces with
  | valuesSubquery => exact (Form.flows_even_node _).block
  | noValues => exact kept.word _ (by simp)
  | valuesList _ => exact kept.separated fun element _ => kept.whole element
  | valuesConstants literals =>
    exact kept.literals literals fun literal => Form.flows_literal dialect literal nofun
  | valuesDynamic _ => exact Form.flows_silent fun _ => rfl
  | @base _ schema _ _ _ _ =>
    have qualifier : Form.Flows leads false (.script (if schema.isEmpty then []
        else ctx.identifier schema ++ Script.text ".")) false := by
      split
      · exact .nil
      · exact (Form.flows_identifier dialect _).append (Form.flows_text (by decide))
    exact kept.named (qualifier.append (Form.flows_identifier dialect _)) _ _
  | derived _ => exact kept.named (kept.subquery _ _) _ _
  | @setOperation _ _ _ op _ _ _ =>
    have word : Text.Plain op.keyword.toList := by cases op <;> decide
    have keyword : Form.Flows leads false
        (.script (.newline ++ .text op.keyword ++ .newline)) false :=
      (Form.flows_newline.append (Form.flows_text word)).append Form.flows_newline
    refine kept.named (Form.Flows.between (Form.Flows.block ?_) (by decide) (by decide)) _ _
    exact ((Form.flows_even_node _).append keyword).append (Form.flows_even_node _)
  | @join kind _ _ _ =>
    have keyword : Text.Plain (kind.keyword ++ " ").toList := by cases kind <;> decide
    exact (((((Form.flows_even_node _).append Form.flows_newline).append
      (Form.flows_text keyword)).append (Form.flows_even_node _)).append
      (Form.flows_text (by decide))).append (Form.flows_even_node _)
  | @cross kind _ _ =>
    have keyword : Text.Plain (kind.keyword ++ " ").toList := by cases kind <;> decide
    exact (((Form.flows_even_node _).append Form.flows_newline).append
      (Form.flows_text keyword)).append (Form.flows_even_node _)
  | term => exact kept.term _ _
  | andThen =>
    exact ((Form.flows_even_node _).append (Form.flows_text (by decide))).append (kept.term _ _)
  | select _ _ => exact kept.select _ _ _ _
  | _ => exact absurd rfl (other _ _)

/-- From a place without a dash, the form of a node closes all that it opens. -/
theorem Node.Produces.flows_even {node : Node} {produced : Form}
    (produces : node.Produces ctx produced) (words : node.hasPlainWords = true) :
    Form.Flows (fun _ => false) false produced false := by
  cases node with
  | expr position e => exact produces.flows_expr dialect words nofun nofun fun _ _ _ => rfl
  | _ => exact produces.flows_other dialect nofun

omit dialect in
/-- An expression that is written with another one in front begins as that one does. -/
theorem Node.Produces.leadsWithMinus_head {position : Position} {expr : Expr} {produced : Form}
    (produces : Node.Produces ctx (.expr position expr) produced) {next : Node}
    (headed : produced.head? = some (.node next)) :
    ∃ position' expr', next = .expr position' expr' ∧
      expr'.leadsWithMinus position' = expr.leadsWithMinus position := by
  cases produces with
  | aliased | isIn =>
    cases headed
    exact ⟨_, _, rfl, by rw [Expr.leadsWithMinus]⟩
  | @convert _ type operand sent =>
    cases headed
    refine ⟨_, _, rfl, ?_⟩
    rw [Expr.leadsWithMinus, sent, Bool.not_false, Bool.true_and]
  | @records _ op left right comparison compares compared apart =>
    cases position with
    | operand => cases headed
    | whole =>
      cases headed
      exact ⟨_, _, rfl, leadsWithMinus_recordComparison compares compared⟩
  | @sign _ op left right sign signed others apart =>
    cases position with
    | operand => cases headed
    | whole =>
      cases headed
      refine ⟨_, _, rfl, ?_⟩
      have other : op ≠ .coalesce := by
        rintro rfl
        cases signed
      have sent : (Expr.binary op left right).isHoisted = false := apart
      simp [Expr.leadsWithMinus, sent, other]
  | coalesce _ => cases position <;> cases headed
  | _ => cases headed

/-- A node that is not a negation in front of a minus can stand wherever it may. -/
theorem Node.Produces.flows_quiet {node : Node} {produced : Form} {dash : Bool}
    (produces : node.Produces ctx produced) (words : node.hasPlainWords = true)
    (apart : dash = true → node.mayLead = false) (quiet : node.doublesMinus = false) :
    Form.Flows Node.mayLead dash produced false := by
  cases node with
  | expr position e =>
    refine produces.flows_expr dialect words apart ?_ ?_
    · intro dashed next headed
      obtain ⟨position', expr', rfl, same⟩ := produces.leadsWithMinus_head headed
      exact same.trans (apart dashed)
    · rintro operand rfl sent
      rwa [Node.doublesMinus, Expr.doublesMinus, sent, Bool.not_false, Bool.true_and] at quiet
  | _ =>
    have even : dash = false := Bool.eq_false_iff.2 fun dashed => nomatch apart dashed
    subst even
    exact produces.flows_other dialect nofun

omit dialect in
/-- A negation in front of a minus is written so. -/
theorem Node.Produces.eq_of_doublesMinus {node : Node} {produced : Form}
    (produces : node.Produces ctx produced) (doubles : node.doublesMinus = true) :
    ∃ operand, operand.leadsWithMinus .operand = true ∧
      produced = .text "-" ++ .operand operand := by
  cases node with
  | expr position e =>
    cases e with
    | unary op operand =>
      cases op with
      | negate =>
        rw [Node.doublesMinus, Expr.doublesMinus, Bool.and_eq_true, Bool.not_eq_true'] at doubles
        exact ⟨operand, doubles.2, produces.unique (.negate doubles.1)⟩
      | _ => cases doubles
    | _ => cases doubles
  | _ => cases doubles

/-- An expression that begins with a minus and is written with a text in front has the minus in
that text. -/
theorem Node.Produces.minus_of_leadsWithMinus {position : Position} {expr : Expr} {produced : Form}
    (produces : Node.Produces ctx (.expr position expr) produced)
    (leads : expr.leadsWithMinus position = true)
    (front : ∀ next, produced.head? ≠ some (.node next)) :
    ∃ sql rest form, sql.toList = '-' :: rest ∧
      produced = .piece (.edit (.append sql)) :: form := by
  cases produces with
  | @constant _ value type sql literal =>
    obtain ⟨size, written, -⟩ := RenderContext.signed_of_literal dialect literal
    rw [Expr.leadsWithMinus] at leads
    rw [leads, if_pos rfl] at written
    exact ⟨sql, size, [], written, rfl⟩
  | negate sent => exact ⟨"-", [], _, rfl, rfl⟩
  | aliased | isIn | convert _ => cases front _ rfl
  | hoisted bound => cases leads.symm.trans (Expr.leadsWithMinus_of_isBoundAt bound)
  | records _ _ _ | sign _ _ _ =>
    cases position with
    | operand => simp [Expr.leadsWithMinus] at leads
    | whole => cases front _ rfl
  | _ => simp [Expr.leadsWithMinus] at leads

end Steps

/-! ## Whole derivations -/

section Runs

variable {ctx : RenderContext} {form : Form} {script : Script}

/-- What begins with a minus opens a comment behind a dash. -/
theorem Renders.refuses (dialect : ctx.dialect = .sqlServer) (renders : Renders ctx form script)
    {position : Position} {expr : Expr} (headed : form.head? = some (.node (.expr position expr)))
    (leads : expr.leadsWithMinus position = true) : script.Refuses true := by
  induction renders generalizing position expr with
  | nil | piece => cases headed
  | @node _ produced _ first rest produces rendered _ ih _ =>
    cases headed
    refine Script.Refuses.append ?_ rest
    by_cases front : ∃ next, produced.head? = some (.node next)
    · obtain ⟨next, next_eq⟩ := front
      obtain ⟨position', expr', rfl, same⟩ := produces.leadsWithMinus_head next_eq
      exact ih next_eq (same.trans leads)
    · obtain ⟨sql, size, others, minus, rfl⟩ := produces.minus_of_leadsWithMinus dialect leads
        (not_exists.1 front)
      cases rendered with
      | piece _ _ =>
        intro state
        rw [Script.added, Piece.added, String.toList_append, minus]
        rfl

theorem Renders.refuses_negation (dialect : ctx.dialect = .sqlServer) {operand : Expr}
    (renders : Renders ctx (.text "-" ++ .operand operand) script)
    (leads : operand.leadsWithMinus .operand = true) (dash : Bool) : script.Refuses dash := by
  cases renders with
  | piece _ rest =>
    intro state
    rw [Script.added, Piece.added, String.toList_append, Text.scan_append]
    cases dash with
    | true => rfl
    | false => exact rest.refuses dialect rfl leads _

variable (dialect : ctx.dialect = .sqlServer)
  (words : ∀ node, form.Reaches ctx node → node.hasPlainWords = true)

include dialect words

/-- Without negations in front of a minus, no comment is opened. -/
theorem Renders.takes (renders : Renders ctx form script)
    (quiet : ∀ node, form.Reaches ctx node → node.doublesMinus = false) {dash after : Bool}
    (flows : Form.Flows Node.mayLead dash form after) : script.Takes dash after := by
  induction renders generalizing dash after with
  | nil =>
    cases flows
    exact fun _ => rfl
  | piece piece _ ih =>
    cases flows with
    | piece takes rest =>
      exact takes.append
        (ih (Form.forall_reaches_tail words) (Form.forall_reaches_tail quiet) rest)
  | node produces _ _ ih ih' =>
    obtain ⟨plain, plainBelow⟩ := Form.forall_reaches_produced produces words
    obtain ⟨single, singleBelow⟩ := Form.forall_reaches_produced produces quiet
    cases flows with
    | node apart rest =>
      have step := produces.flows_quiet dialect plain apart single
      exact (ih plainBelow singleBelow step).append
        (ih' (Form.forall_reaches_tail words) (Form.forall_reaches_tail quiet) rest)

/-- All that is opened is closed, up to the first comment. -/
theorem Renders.closes (renders : Renders ctx form script) {dash after : Bool}
    (flows : Form.Flows (fun _ => false) dash form after) : script.Closes := by
  induction renders generalizing dash after with
  | nil => exact fun _ dash => .inr ⟨dash, rfl⟩
  | piece piece _ ih =>
    cases flows with
    | piece takes rest => exact takes.closes.append (ih (Form.forall_reaches_tail words) rest)
  | node produces _ _ ih ih' =>
    obtain ⟨plain, plainBelow⟩ := Form.forall_reaches_produced produces words
    cases flows with
    | node _ rest =>
      exact (ih plainBelow (produces.flows_even dialect plain)).append
        (ih' (Form.forall_reaches_tail words) rest)

/-- A negation in front of a minus opens a comment, wherever it is written. -/
theorem Renders.opens (renders : Renders ctx form script) {target : Node}
    (reaches : form.Reaches ctx target) (doubles : target.doublesMinus = true)
    {dash after : Bool} (flows : Form.Flows (fun _ => false) dash form after) (dash' : Bool) :
    script.Refuses dash' := by
  obtain ⟨start, member, below⟩ := reaches
  induction renders generalizing start dash after dash' with
  | nil => cases member
  | piece piece _ ih =>
    cases flows with
    | piece takes rest =>
      cases member with
      | tail _ later =>
        exact takes.closes.refuses
          (ih (Form.forall_reaches_tail words) rest · start later below) dash'
  | node produces rendered _ ih ih' =>
    obtain ⟨plain, plainBelow⟩ := Form.forall_reaches_produced produces words
    have step := produces.flows_even dialect plain
    cases flows with
    | node _ rest =>
      cases member with
      | tail _ later =>
        exact (rendered.closes dialect plainBelow step).refuses
          (ih' (Form.forall_reaches_tail words) rest · start later below) dash'
      | head =>
        refine Script.Refuses.append ?_ _
        rcases Relation.ReflTransGen.cases_head below with
          rfl | ⟨next, ⟨other, made, inside⟩, under⟩
        · obtain ⟨operand, leads, rfl⟩ := produces.eq_of_doublesMinus doubles
          exact rendered.refuses_negation dialect leads dash'
        · -- There is one way to write the node, so what is below it has been written here.
          cases produces.unique made
          exact ih plainBelow step dash' next inside under

end Runs

/-! ## The text of a query -/

/-- Where fragments are left out and the words of functions, aggregates and types have no dash and
close what they open, the text of a query opens a comment exactly if a negation is written in front
of an operand that begins with a minus. -/
theorem Select.opensComment_iff {select : Select} {indentWidth : Nat} {lowered : Lowered}
    (lower : select.lower .sqlServer indentWidth = .ok lowered)
    (words : (Part.select select).HasPlainWords) :
    Text.opensComment lowered.recipe.written = true ↔
      ∃ node, (Node.select true select).Reaches ⟨.sqlServer, select.declarations⟩ node ∧
        node.doublesMinus = true := by
  obtain ⟨script, scripted, recipe⟩ := Select.recipe_of_lower lower
  have renders := Select.renders_of_script scripted
  have places : Dialect.sqlServer.PlacesPaging := ⟨by decide, by decide⟩
  have plain : ∀ node, Form.Reaches ⟨.sqlServer, select.declarations⟩
      (.node (.select true select)) node → node.hasPlainWords = true := by
    intro node reaches
    rw [Form.reaches_node_iff] at reaches
    cases node with
    | expr position e =>
      -- The comparison of records makes binary expressions of its own, which have no words.
      cases e with
      | binary | record => rfl
      | _ => exact words _ (reaches.contains places rfl)
    | _ => rfl
  rw [recipe, Script.written_recipe, Text.opensComment, Option.isNone_iff_eq_none]
  constructor
  · intro opened
    by_contra single
    have quiet : ∀ node, Form.Reaches ⟨.sqlServer, select.declarations⟩
        (.node (.select true select)) node → node.doublesMinus = false := by
      intro node reaches
      rw [Form.reaches_node_iff] at reaches
      exact Bool.eq_false_iff.2 fun doubles => single ⟨node, reaches, doubles⟩
    have takes := renders.takes rfl plain quiet (Form.flows_even_node _)
    cases opened.symm.trans (takes _)
  · rintro ⟨node, reaches, doubles⟩
    exact renders.opens rfl plain (Form.reaches_node_iff.2 reaches) doubles
      (Form.flows_even_node _) false _

section Samples

/-- The numbers of the rows that satisfy a predicate. -/
def Select.numbersWhere (predicate : Expr) : Select where
  projection := .server (.column ⟨0⟩ "A" .int32)
  table := some (.base ⟨0⟩ "dbo" "T" "t")
  predicate := some predicate
  grouping := none
  ordering := none
  offset := none
  limit := none
  distinct := false

theorem Select.numbersWhere_hasPlainWords {predicate : Expr}
    (words : (Part.expr predicate).HasPlainWords) :
    (Part.select (.numbersWhere predicate)).HasPlainWords := by
  have column : (Part.expr (.column ⟨0⟩ "A" .int32)).HasPlainWords :=
    Part.hasPlainWords_expr.2 ⟨rfl, nofun⟩
  have projection : (Part.projection (.server (.column ⟨0⟩ "A" .int32))).HasPlainWords :=
    Part.hasPlainWords_iff.2 ⟨nofun, List.forall_mem_singleton.2 column⟩
  have table : (Part.table (.base ⟨0⟩ "dbo" "T" "t")).HasPlainWords :=
    Part.hasPlainWords_iff.2 ⟨nofun, nofun⟩
  refine Part.hasPlainWords_iff.2 ⟨nofun, ?_⟩
  exact List.forall_mem_cons.2 ⟨projection, List.forall_mem_cons.2 ⟨table,
    List.forall_mem_singleton.2 words⟩⟩

/-- Two dashes in a name and in a literal, a subtraction of a negative number and a negation of a
difference: nothing of this opens a comment. -/
theorem Select.opensComment_differences :
    let difference := Expr.binary .subtract (.column ⟨0⟩ "A--B" .int32)
      (.constant (.int (-1)) .int32)
    let select := Select.numbersWhere (.binary .equal (.unary .negate difference)
      (.function "LEN" [.constant (.string "--'--") .string] .int32))
    let text := "SELECT [t].[A]\nFROM [dbo].[T] AS [t]\nWHERE -([t].[A--B] - -1) = LEN(N'--''--')"
    ∃ lowered, select.lower .sqlServer 4 = .ok lowered ∧ lowered.recipe.written = text ∧
      (Part.select select).HasPlainWords ∧
      ¬∃ node, (Node.select true select).Reaches ⟨.sqlServer, select.declarations⟩ node ∧
        node.doublesMinus = true := by
  intro difference select text
  have words : (Part.select select).HasPlainWords := by
    have call : ('-' ∉ "LEN".toList && Text.isClosed "LEN") = true := by decide
    refine Select.numbersWhere_hasPlainWords ?_
    simpa [difference, Expr.children, Expr.hasPlainWords] using call
  obtain ⟨lowered, lower, written⟩ : ∃ lowered, select.lower .sqlServer 4 = .ok lowered ∧
      lowered.recipe.written = text := ⟨_, rfl, by decide +kernel⟩
  refine ⟨lowered, lower, written, words, ?_⟩
  rw [← Select.opensComment_iff lower words, written]
  decide

/-- A negation in front of a negation, and one in front of a negative number, open a comment. So
does a literal, if the name of a function opens one and does not close it. -/
theorem Select.opensComment_doubledMinus :
    let negated := Expr.unary .negate (.column ⟨0⟩ "A" .int32)
    let number := Expr.constant (.int (-1)) .int32
    let call := Expr.function "f'" [.constant (.string "--") .string] .int32
    let whereEqual (left : Expr) : Select :=
      .numbersWhere (.binary .equal left (.column ⟨0⟩ "B" .int32))
    (∃ lowered, (whereEqual (.unary .negate negated)).lower .sqlServer 4 = .ok lowered ∧
      lowered.recipe.written =
        "SELECT [t].[A]\nFROM [dbo].[T] AS [t]\nWHERE --[t].[A] = [t].[B]" ∧
      Text.opensComment lowered.recipe.written = true) ∧
    (∃ lowered, (whereEqual (.unary .negate number)).lower .sqlServer 4 = .ok lowered ∧
      lowered.recipe.written = "SELECT [t].[A]\nFROM [dbo].[T] AS [t]\nWHERE --1 = [t].[B]" ∧
      Text.opensComment lowered.recipe.written = true) ∧
    ∃ lowered, (whereEqual call).lower .sqlServer 4 = .ok lowered ∧
      lowered.recipe.written =
        "SELECT [t].[A]\nFROM [dbo].[T] AS [t]\nWHERE f'(N'--') = [t].[B]" ∧
      Text.opensComment lowered.recipe.written = true := by
  exact ⟨⟨_, rfl, by decide +kernel, by decide +kernel⟩,
    ⟨_, rfl, by decide +kernel, by decide +kernel⟩,
    ⟨_, rfl, by decide +kernel, by decide +kernel⟩⟩

end Samples

end SqlLowering
