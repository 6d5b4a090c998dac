import SqlLowering.Proofs.Unambiguity
import SqlLowering.Script.Select

/-!
# What the text of joins says about their tree

Joins are written one after the other, without parentheses. A join on a condition ends with its
condition, so the text shows which joins are inside its inner side. A join without a condition ends
where its inner side ends: the joins inside of that are written as if they came after it.

So the text determines a tree of joins up to regrouping (`Table.written_eq_iff_regroups`): a join
without a condition, of whichever kind, changes places with the join on its inner side. Each tree
can be regrouped into a first table with a chain of links (`Table.Joins.exists_chain`), and a chain
is read back from its text link by link (`Link.decodes_all`).
-/

namespace SqlLowering

/-! ## Trees of joins and their spelling -/

/-- The state after a table has been written. -/
def Table.writeTo (ctx : RenderContext) (below : Below) (state : Script.State) (table : Table) :
    Except LowerError Script.State := do
  return (← table.render ctx below).run ctx.dialect state

/-- Trees of joins over tables that have an alias, on conditions that are operator trees. -/
inductive Table.Joins (tables : TableId → Prop) : Table → Prop
  | base {id : TableId} (schema name preferred : String) :
    tables id → Table.Joins tables (.base id schema name preferred)
  | join {outer inner : Table} {predicate : Expr} (kind : JoinKind) :
    outer.Joins tables → inner.Joins tables → predicate.BuiltBy .written tables →
    Table.Joins tables (.join kind outer inner predicate)
  | cross {outer inner : Table} (kind : CrossKind) :
    outer.Joins tables → inner.Joins tables → Table.Joins tables (.cross kind outer inner)

/-- The text of a base table under its alias. -/
def spellBase (dialect : Dialect) (names : TableNames) (id : TableId) (schema name : String) :
    String :=
  (if schema.isEmpty then "" else dialect.quoteIdentifier schema ++ ".") ++
    dialect.quoteIdentifier name ++ " AS " ++ dialect.quoteIdentifier (names.chosen id)

/-- The text of a tree of joins, with a line break in front of each join. -/
def Table.spelling (dialect : Dialect) (names : TableNames) (lineBreak : String) : Table → String
  | .base id schema name _ => spellBase dialect names id schema name
  | .join kind outer inner predicate =>
    outer.spelling dialect names lineBreak ++ lineBreak ++ (kind.keyword ++ " ") ++
      inner.spelling dialect names lineBreak ++ " ON " ++ predicate.spelling dialect names .whole
  | .cross kind outer inner =>
    outer.spelling dialect names lineBreak ++ lineBreak ++ (kind.keyword ++ " ") ++
      inner.spelling dialect names lineBreak
  | _ => ""

namespace Script

/-- The script adds a text to every state with the aliases `names` and the line break, and nothing
else. -/
def AddsLines (dialect : Dialect) (names : TableNames) (lineBreak : String) (script : Script)
    (text : String) : Prop :=
  ∀ draft, draft.lineBreak = lineBreak →
    script.run dialect ⟨names, draft⟩ = ⟨names, draft.append text⟩

theorem adds_nil (dialect : Dialect) (names : TableNames) : Adds dialect names [] "" := by
  intro draft
  rw [Draft.append, String.append_empty]
  rfl

variable {dialect : Dialect} {names : TableNames} {lineBreak : String}

theorem Adds.lines {script : Script} {text : String} (adds : script.Adds dialect names text) :
    script.AddsLines dialect names lineBreak text :=
  fun draft _ => adds draft

theorem addsLines_newline : newline.AddsLines dialect names lineBreak lineBreak := by
  intro draft broken
  subst broken
  rfl

theorem AddsLines.append {first second : Script} {text text' : String}
    (adds : first.AddsLines dialect names lineBreak text)
    (adds' : second.AddsLines dialect names lineBreak text') :
    AddsLines dialect names lineBreak (first ++ second) (text ++ text') := by
  intro draft broken
  have split : run dialect (first ++ second) ⟨names, draft⟩ =
      second.run dialect (first.run dialect ⟨names, draft⟩) := List.foldl_append
  have kept : (draft.append text).lineBreak = lineBreak := broken
  rw [split, adds draft broken, adds' _ kept, Draft.append, Draft.append, Draft.append,
    String.append_assoc]

end Script

/-- A known base table has a script, and the script adds its text. -/
theorem Script.State.Knows.exists_adds {ctx : RenderContext} {state : Script.State} {id : TableId}
    (known : state.Knows ctx id) (below : Below) (schema name preferred : String) :
    ∃ script, (Table.base id schema name preferred).render ctx below = .ok script ∧
      script.Adds ctx.dialect state.names (spellBase ctx.dialect state.names id schema name) := by
  obtain ⟨⟨declaredAs, declared⟩, chosen, named⟩ := known
  have sql := Script.adds_text ctx.dialect state.names
  have qualifier : Script.Adds ctx.dialect state.names
      (if schema.isEmpty then [] else ctx.identifier schema ++ Script.text ".")
      (if schema.isEmpty then "" else ctx.dialect.quoteIdentifier schema ++ ".") := by
    split
    · exact Script.adds_nil _ _
    · exact (sql _).append (sql ".")
  refine ⟨_, by rw [Table.render, RenderContext.aliased, RenderContext.tableName, declared]; rfl,
    ?_⟩
  rw [spellBase, TableNames.chosen, named, Option.getD_some]
  exact ((qualifier.append (sql _)).append (sql " AS ")).append
    (Script.adds_tableName ctx.dialect named declaredAs)

/-- A tree of joins over known tables has a script, and the script adds its spelling. -/
theorem Table.Joins.exists_addsLines {ctx : RenderContext} {state : Script.State} {table : Table}
    (joins : table.Joins (state.Knows ctx)) (below : Below) (lineBreak : String) :
    ∃ script, table.render ctx below = .ok script ∧
      script.AddsLines ctx.dialect state.names lineBreak
        (table.spelling ctx.dialect state.names lineBreak) := by
  have sql : ∀ text, (Script.text text).AddsLines ctx.dialect state.names lineBreak text :=
    fun text => (Script.adds_text ctx.dialect state.names text).lines
  induction joins with
  | @base id schema name preferred known =>
    obtain ⟨script, rendered, adds⟩ := known.exists_adds below schema name preferred
    exact ⟨script, rendered, adds.lines⟩
  | @join outer inner predicate kind _ _ tree outerAdds innerAdds =>
    obtain ⟨first, outerRendered, addsFirst⟩ := outerAdds
    obtain ⟨second, innerRendered, addsSecond⟩ := innerAdds
    obtain ⟨condition, rendered, addsCondition⟩ :=
      tree.exists_adds (fun _ written => written) below .whole
    refine ⟨first ++ Script.newline ++ Script.text (kind.keyword ++ " ") ++ second ++
      Script.text " ON " ++ condition, ?_, ?_⟩
    · rw [Table.render, outerRendered, innerRendered, rendered]
      rfl
    · exact ((((addsFirst.append Script.addsLines_newline).append (sql _)).append
        addsSecond).append (sql " ON ")).append addsCondition.lines
  | @cross outer inner kind _ _ outerAdds innerAdds =>
    obtain ⟨first, outerRendered, addsFirst⟩ := outerAdds
    obtain ⟨second, innerRendered, addsSecond⟩ := innerAdds
    refine ⟨first ++ Script.newline ++ Script.text (kind.keyword ++ " ") ++ second, ?_, ?_⟩
    · rw [Table.render, outerRendered, innerRendered]
      rfl
    · exact ((addsFirst.append Script.addsLines_newline).append (sql _)).append addsSecond

theorem Table.Joins.mono {tables tables' : TableId → Prop} {table : Table}
    (joins : table.Joins tables) (kept : ∀ id, tables id → tables' id) : table.Joins tables' := by
  induction joins with
  | base schema name preferred known => exact .base schema name preferred (kept _ known)
  | join kind _ _ tree outer inner => exact .join kind outer inner (tree.mono kept)
  | cross kind _ _ outer inner => exact .cross kind outer inner

/-! ## Regrouping -/

/-- Which joins without a condition may change places with which joins on their inner side. -/
structure Regrouping where
  cross : CrossKind → CrossKind → Bool
  join : CrossKind → JoinKind → Bool

/-- All of them. -/
def Regrouping.any : Regrouping :=
  ⟨fun _ _ => true, fun _ _ => true⟩

/-- Products of tables among themselves. -/
def Regrouping.products : Regrouping :=
  ⟨fun kind inner => kind = .crossJoin && inner = .crossJoin, fun _ _ => false⟩

/-- Equality of trees of joins up to regrouping, the types of columns and the aliases that base
tables prefer. -/
inductive Table.Regroups (allowed : Regrouping) : Table → Table → Prop
  | refl (table : Table) : Table.Regroups allowed table table
  | symm {table table' : Table} : table.Regroups allowed table' → table'.Regroups allowed table
  | trans {table table' table'' : Table} :
    table.Regroups allowed table' → table'.Regroups allowed table'' →
    table.Regroups allowed table''
  | base (id : TableId) (schema name preferred preferred' : String) :
    Table.Regroups allowed (.base id schema name preferred) (.base id schema name preferred')
  | join {outer outer' inner inner' : Table} {predicate predicate' : Expr} (kind : JoinKind) :
    outer.Regroups allowed outer' → inner.Regroups allowed inner' →
    predicate.SameTree predicate' →
    Table.Regroups allowed (.join kind outer inner predicate) (.join kind outer' inner' predicate')
  | cross {outer outer' inner inner' : Table} (kind : CrossKind) :
    outer.Regroups allowed outer' → inner.Regroups allowed inner' →
    Table.Regroups allowed (.cross kind outer inner) (.cross kind outer' inner')
  | rotateCross {kind kind' : CrossKind} (outer middle inner : Table) :
    allowed.cross kind kind' = true →
    Table.Regroups allowed (.cross kind outer (.cross kind' middle inner))
      (.cross kind' (.cross kind outer middle) inner)
  | rotateJoin {kind : CrossKind} {kind' : JoinKind} (outer middle inner : Table)
      (predicate : Expr) :
    allowed.join kind kind' = true →
    Table.Regroups allowed (.cross kind outer (.join kind' middle inner predicate))
      (.join kind' (.cross kind outer middle) inner predicate)

/-- Regrouping changes nothing about the text. -/
theorem Table.Regroups.spelling_eq {allowed : Regrouping} {table table' : Table}
    (regroups : table.Regroups allowed table') (dialect : Dialect) (names : TableNames)
    (lineBreak : String) :
    table.spelling dialect names lineBreak = table'.spelling dialect names lineBreak := by
  induction regroups with
  | refl table => rfl
  | symm _ same => exact same.symm
  | trans _ _ same same' => exact same.trans same'
  | base id schema name preferred preferred' => rfl
  | join kind _ _ tree outer inner =>
    rw [Table.spelling, Table.spelling, outer, inner, tree.spelling_eq]
  | cross kind _ _ outer inner => rw [Table.spelling, Table.spelling, outer, inner]
  | rotateCross outer middle inner _ => simp only [Table.spelling, String.append_assoc]
  | rotateJoin outer middle inner predicate _ => simp only [Table.spelling, String.append_assoc]

/-! ## Chains of joins -/

/-- A base table that has an alias. -/
structure NamedTable (names : TableNames) where
  id : TableId
  schema : String
  name : String
  named : names.Has id

/-- A join with the table that it begins at. What else is on the inner side of a join on a condition
is a chain of its own. -/
inductive Link (names : TableNames) where
  | cross (kind : CrossKind) (table : NamedTable names)
  | on (kind : JoinKind) (table : NamedTable names) (links : List (Link names))
      (predicate : Subtype (Expr.IsTree names))

section Chains

variable {names : TableNames}

/-- The table itself. -/
def NamedTable.table (base : NamedTable names) : Table :=
  .base base.id base.schema base.name ""

mutual

/-- A table joined by a link. -/
def Link.attach (table : Table) : Link names → Table
  | .cross kind base => .cross kind table base.table
  | .on kind base links predicate =>
    .join kind table (Link.attachAll base.table links) predicate.val

/-- A table joined by a chain of links, from the first on. -/
def Link.attachAll (table : Table) : List (Link names) → Table
  | [] => table
  | link :: rest => Link.attachAll (link.attach table) rest

end

theorem Link.attachAll_append (table : Table) (links links' : List (Link names)) :
    Link.attachAll table (links ++ links') =
      Link.attachAll (Link.attachAll table links) links' := by
  induction links generalizing table with
  | nil => rfl
  | cons link rest ih => exact ih (link.attach table)

theorem Expr.BuiltBy.sameTree_self {expr : Expr} (tree : expr.IsTree names) :
    expr.SameTree expr := by
  induction tree with
  | column name type _ => exact .column _ name type type
  | binary _ _ _ left right => exact .binary _ left right
  | unary allowed _ _ => cases allowed
  | conditional _ _ _ _ test ifTrue ifFalse => exact .conditional test ifTrue ifFalse

theorem Link.regroups_attach {allowed : Regrouping} {table table' : Table}
    (regroups : table.Regroups allowed table') (link : Link names) :
    (link.attach table).Regroups allowed (link.attach table') := by
  cases link with
  | cross kind base => exact .cross kind regroups (.refl _)
  | on kind base links predicate =>
    exact .join kind regroups (.refl _) predicate.property.sameTree_self

theorem Link.regroups_attachAll {allowed : Regrouping} {table table' : Table}
    (regroups : table.Regroups allowed table') (links : List (Link names)) :
    (Link.attachAll table links).Regroups allowed (Link.attachAll table' links) := by
  induction links generalizing table table' with
  | nil => exact regroups
  | cons link rest ih => exact ih (link.regroups_attach regroups)

/-- A join without a condition goes in front of the links on its inner side, one after the other. -/
theorem Link.regroups_cross_attachAll (kind : CrossKind) (outer inner : Table)
    (links : List (Link names)) :
    (Table.cross kind outer (Link.attachAll inner links)).Regroups .any
      (Link.attachAll (.cross kind outer inner) links) := by
  induction links generalizing inner with
  | nil => exact .refl _
  | cons link rest ih =>
    refine (ih (link.attach inner)).trans (Link.regroups_attachAll ?_ rest)
    cases link with
    | cross kind' base => exact .rotateCross outer inner base.table rfl
    | on kind' base links predicate => exact .rotateJoin outer inner _ predicate.val rfl

/-- Every tree of joins can be regrouped into a chain. -/
theorem Table.Joins.exists_chain {table : Table} (joins : table.Joins names.Has) :
    ∃ (base : NamedTable names) (links : List (Link names)),
      table.Regroups .any (Link.attachAll base.table links) := by
  induction joins with
  | @base id schema name preferred named =>
    exact ⟨⟨id, schema, name, named⟩, [], .base id schema name preferred ""⟩
  | @join outer inner predicate kind _ _ tree outerChain innerChain =>
    obtain ⟨first, before, outerRegroups⟩ := outerChain
    obtain ⟨base, inside, innerRegroups⟩ := innerChain
    refine ⟨first, before ++ [.on kind base inside ⟨predicate, tree⟩], ?_⟩
    rw [Link.attachAll_append]
    exact .join kind outerRegroups innerRegroups tree.sameTree_self
  | @cross outer inner kind _ _ outerChain innerChain =>
    obtain ⟨first, before, outerRegroups⟩ := outerChain
    obtain ⟨base, behind, innerRegroups⟩ := innerChain
    refine ⟨first, before ++ .cross kind base :: behind, ?_⟩
    rw [Link.attachAll_append]
    exact (Table.Regroups.cross kind outerRegroups innerRegroups).trans
      (Link.regroups_cross_attachAll kind _ base.table behind)

end Chains

/-! ## Reading chains back -/

section Reading

variable {names : TableNames} {lineBreak : String}

/-- The characters of a base table. -/
def NamedTable.chars (base : NamedTable names) : List Char :=
  (spellBase .sqlServer names base.id base.schema base.name).toList

mutual

/-- The characters of a link. -/
def Link.chars (lineBreak : String) : Link names → List Char
  | .cross kind base => lineBreak.toList ++ (kind.keyword ++ " ").toList ++ base.chars
  | .on kind base links predicate =>
    lineBreak.toList ++ (kind.keyword ++ " ").toList ++ base.chars ++
      Link.charsAll lineBreak links ++ " ON ".toList ++ predicate.val.chars names .whole

/-- The characters of a chain of links. -/
def Link.charsAll (lineBreak : String) : List (Link names) → List Char
  | [] => []
  | link :: rest => link.chars lineBreak ++ Link.charsAll lineBreak rest

end

mutual

theorem Link.spelling_attach (table : Table) : ∀ link : Link names,
    ((link.attach table).spelling .sqlServer names lineBreak).toList =
      (table.spelling .sqlServer names lineBreak).toList ++ link.chars lineBreak
  | .cross kind base => by
    simp only [Link.attach, Table.spelling, Link.chars, NamedTable.table, NamedTable.chars,
      String.toList_append, List.append_assoc]
  | .on kind base links predicate => by
    have inside := Link.spelling_attachAll base.table links
    simp only [Link.attach, Table.spelling, Link.chars, String.toList_append, inside,
      List.append_assoc]
    rfl

theorem Link.spelling_attachAll (table : Table) : ∀ links : List (Link names),
    ((Link.attachAll table links).spelling .sqlServer names lineBreak).toList =
      (table.spelling .sqlServer names lineBreak).toList ++ Link.charsAll lineBreak links
  | [] => (List.append_nil _).symm
  | link :: rest => by
    rw [Link.attachAll, Link.spelling_attachAll (link.attach table) rest,
      Link.spelling_attach table link, Link.charsAll, List.append_assoc]

end

theorem NamedTable.chars_unqualified {base : NamedTable names} (unqualified : base.schema = "") :
    base.chars = (Dialect.sqlServer.quoteIdentifier base.name).toList ++
      (" AS ".toList ++ (Dialect.sqlServer.quoteIdentifier (names.chosen base.id)).toList) := by
  rw [NamedTable.chars, spellBase, if_pos (String.isEmpty_iff.2 unqualified)]
  simp only [String.toList_append, String.toList_empty, List.nil_append, List.append_assoc]

theorem NamedTable.chars_qualified {base : NamedTable names} (qualified : base.schema ≠ "") :
    base.chars = (Dialect.sqlServer.quoteIdentifier base.schema).toList ++
      '.' :: ((Dialect.sqlServer.quoteIdentifier base.name).toList ++
        (" AS ".toList ++ (Dialect.sqlServer.quoteIdentifier (names.chosen base.id)).toList)) := by
  have point : ".".toList = ['.'] := rfl
  rw [NamedTable.chars, spellBase, if_neg (mt String.isEmpty_iff.1 qualified)]
  simp only [String.toList_append, point, List.append_assoc, List.cons_append, List.nil_append]

/-- A base table ends behind its alias, which tells which table it is. -/
theorem NamedTable.decodes (consistent : names.Consistent) {base base' : NamedTable names}
    {rest rest' : List Char} (ends : rest.head? ≠ some ']') (ends' : rest'.head? ≠ some ']')
    (same : base.chars ++ rest = base'.chars ++ rest') :
    base.table = base'.table ∧ rest = rest' := by
  -- The name and the alias, once nothing is in front of them.
  have named : (Dialect.sqlServer.quoteIdentifier base.name).toList ++ (" AS ".toList ++
        ((Dialect.sqlServer.quoteIdentifier (names.chosen base.id)).toList ++ rest)) =
      (Dialect.sqlServer.quoteIdentifier base'.name).toList ++ (" AS ".toList ++
        ((Dialect.sqlServer.quoteIdentifier (names.chosen base'.id)).toList ++ rest')) →
      base.name = base'.name ∧ base.id = base'.id ∧ rest = rest' := by
    intro same
    obtain ⟨sameName, same⟩ := quoteIdentifier_append_inj (by simp) (by simp) same
    obtain ⟨aliases, rests⟩ := quoteIdentifier_append_inj ends ends' (List.append_cancel_left same)
    exact ⟨sameName, consistent.chosen_inj base.named base'.named aliases, rests⟩
  by_cases unqualified : base.schema = "" <;> by_cases unqualified' : base'.schema = ""
  · rw [chars_unqualified unqualified, chars_unqualified unqualified'] at same
    simp only [List.append_assoc] at same
    obtain ⟨sameName, sameId, rests⟩ := named same
    rw [table, table, sameName, sameId, unqualified, unqualified']
    exact ⟨rfl, rests⟩
  · rw [chars_unqualified unqualified, chars_qualified unqualified'] at same
    simp only [List.append_assoc, List.cons_append] at same
    obtain ⟨-, point⟩ := quoteIdentifier_append_inj (by simp) (by simp) same
    cases point
  · rw [chars_qualified unqualified, chars_unqualified unqualified'] at same
    simp only [List.append_assoc, List.cons_append] at same
    obtain ⟨-, point⟩ := quoteIdentifier_append_inj (by simp) (by simp) same
    cases point
  · rw [chars_qualified unqualified, chars_qualified unqualified'] at same
    simp only [List.append_assoc, List.cons_append] at same
    obtain ⟨sameSchema, same⟩ := quoteIdentifier_append_inj (by simp) (by simp) same
    obtain ⟨sameName, sameId, rests⟩ := named (List.cons.inj same).2
    rw [table, table, sameSchema, sameName, sameId]
    exact ⟨rfl, rests⟩

theorem CrossKind.keyword_append_inj {kind kind' : CrossKind} {rest rest' : List Char}
    (same : (kind.keyword ++ " ").toList ++ rest = (kind'.keyword ++ " ").toList ++ rest') :
    kind = kind' ∧ rest = rest' := by
  revert same
  cases kind <;> cases kind' <;> simp [keyword]

theorem JoinKind.keyword_append_inj {kind kind' : JoinKind} {rest rest' : List Char}
    (same : (kind.keyword ++ " ").toList ++ rest = (kind'.keyword ++ " ").toList ++ rest') :
    kind = kind' ∧ rest = rest' := by
  revert same
  cases kind <;> cases kind' <;> simp [keyword]

theorem CrossKind.keyword_append_ne (kind : CrossKind) (kind' : JoinKind) (rest rest' : List Char) :
    (kind.keyword ++ " ").toList ++ rest ≠ (kind'.keyword ++ " ").toList ++ rest' := by
  cases kind <;> cases kind' <;> simp [keyword, JoinKind.keyword]

/-- What follows a chain of joins goes on neither with a condition nor with another join. -/
structure EndsJoins (rest : List Char) : Prop where
  tree : EndsTree rest
  line : rest.head? ≠ some '\n'

theorem endsJoins_nil : EndsJoins [] :=
  ⟨endsTree_nil, by simp⟩

theorem endsJoins_on (rest : List Char) : EndsJoins (" ON ".toList ++ rest) := by
  refine ⟨⟨by simp, ?_⟩, by simp⟩
  intro op sign signed later same
  cases op <;> cases signed <;> simp at same

theorem endsTree_newline (rest : List Char) : EndsTree ('\n' :: rest) :=
  ⟨by simp, by simp⟩

variable {blanks : List Char}

theorem Link.exists_chars (breaks : lineBreak.toList = '\n' :: blanks) (link : Link names) :
    ∃ others, link.chars lineBreak = '\n' :: others := by
  cases link with
  | cross kind base =>
    rw [Link.chars, breaks]
    exact ⟨_, rfl⟩
  | on kind base links predicate =>
    rw [Link.chars, breaks]
    exact ⟨_, rfl⟩

/-- A chain goes on with a line break, or is over. -/
theorem EndsJoins.endsTree_charsAll {rest : List Char} (ends : EndsJoins rest)
    (breaks : lineBreak.toList = '\n' :: blanks) (links : List (Link names)) :
    EndsTree (Link.charsAll lineBreak links ++ rest) := by
  cases links with
  | nil => exact ends.tree
  | cons link others =>
    obtain ⟨later, opens⟩ := link.exists_chars breaks
    rw [Link.charsAll, opens]
    exact endsTree_newline _

/-- The link can be told from every other, whatever follows either of them: links with the same text
join alike. -/
def Link.Decodes (lineBreak : String) (link : Link names) : Prop :=
  ∀ (link' : Link names) (rest rest' : List Char), EndsTree rest → EndsTree rest' →
    link.chars lineBreak ++ rest = link'.chars lineBreak ++ rest' →
    (∀ table table' : Table, table.Regroups .any table' →
      (link.attach table).Regroups .any (link'.attach table')) ∧ rest = rest'

/-- The chain can be told from every other. -/
def Link.DecodesAll (lineBreak : String) (links : List (Link names)) : Prop :=
  ∀ (links' : List (Link names)) (rest rest' : List Char), EndsJoins rest → EndsJoins rest' →
    Link.charsAll lineBreak links ++ rest = Link.charsAll lineBreak links' ++ rest' →
    (∀ table table' : Table, table.Regroups .any table' →
      (Link.attachAll table links).Regroups .any (Link.attachAll table' links')) ∧ rest = rest'

theorem Link.decodes_cross (consistent : names.Consistent) (kind : CrossKind)
    (base : NamedTable names) : (Link.cross kind base).Decodes lineBreak := by
  intro link' rest rest' ends ends' same
  cases link' with
  | cross kind' base' =>
    simp only [Link.chars, List.append_assoc] at same
    obtain ⟨rfl, later⟩ := CrossKind.keyword_append_inj (List.append_cancel_left same)
    obtain ⟨bases, rests⟩ := NamedTable.decodes consistent ends.bracket ends'.bracket later
    refine ⟨fun table table' regroups => ?_, rests⟩
    rw [Link.attach, Link.attach, bases]
    exact .cross kind regroups (.refl _)
  | on kind' base' links' predicate' =>
    simp only [Link.chars, List.append_assoc] at same
    exact absurd (List.append_cancel_left same) (CrossKind.keyword_append_ne kind kind' _ _)

/-- A link with a condition can be told from every other if the chain inside of it can. -/
theorem Link.decodes_on (consistent : names.Consistent)
    (breaks : lineBreak.toList = '\n' :: blanks) (kind : JoinKind) (base : NamedTable names)
    {links : List (Link names)} (decodes : Link.DecodesAll lineBreak links)
    (predicate : Subtype (Expr.IsTree names)) :
    (Link.on kind base links predicate).Decodes lineBreak := by
  intro link' rest rest' ends ends' same
  cases link' with
  | cross kind' base' =>
    simp only [Link.chars, List.append_assoc] at same
    exact absurd (List.append_cancel_left same).symm (CrossKind.keyword_append_ne kind' kind _ _)
  | on kind' base' links' predicate' =>
    simp only [Link.chars, List.append_assoc] at same
    obtain ⟨rfl, later⟩ := JoinKind.keyword_append_inj (List.append_cancel_left same)
    -- The inner side is a chain up to the word in front of the condition.
    obtain ⟨bases, later⟩ := NamedTable.decodes consistent
      ((endsJoins_on _).endsTree_charsAll breaks links).bracket
      ((endsJoins_on _).endsTree_charsAll breaks links').bracket later
    obtain ⟨inside, later⟩ := decodes links' _ _ (endsJoins_on _) (endsJoins_on _) later
    obtain ⟨trees, rests⟩ := predicate.property.decodes consistent .whole _ _ _ predicate'.property
      ends ends' (List.append_cancel_left later)
    refine ⟨fun table table' regroups => ?_, rests⟩
    rw [Link.attach, Link.attach, bases]
    exact .join kind regroups (inside _ _ (.refl _)) trees

theorem Link.charsAll_cons_ne (breaks : lineBreak.toList = '\n' :: blanks) (link : Link names)
    (others : List (Link names)) {rest : List Char} (ends : EndsJoins rest) (later : List Char) :
    rest ≠ Link.charsAll lineBreak (link :: others) ++ later := by
  obtain ⟨behind, opens⟩ := link.exists_chars breaks
  rintro rfl
  refine ends.line ?_
  rw [Link.charsAll, opens]
  rfl

theorem Link.decodesAll_nil (breaks : lineBreak.toList = '\n' :: blanks) :
    Link.DecodesAll lineBreak ([] : List (Link names)) := by
  intro links' rest rest' ends ends' same
  cases links' with
  | nil => exact ⟨fun _ _ => id, same⟩
  | cons link' others' => exact absurd same (Link.charsAll_cons_ne breaks link' others' ends rest')

theorem Link.decodesAll_cons (breaks : lineBreak.toList = '\n' :: blanks) {link : Link names}
    {others : List (Link names)} (decodes : link.Decodes lineBreak)
    (decodesOthers : Link.DecodesAll lineBreak others) :
    Link.DecodesAll lineBreak (link :: others) := by
  intro links' rest rest' ends ends' same
  cases links' with
  | nil => exact absurd same.symm (Link.charsAll_cons_ne breaks link others ends' rest)
  | cons link' others' =>
    rw [Link.charsAll, Link.charsAll, List.append_assoc, List.append_assoc] at same
    obtain ⟨first, same⟩ := decodes link' _ _ (ends.endsTree_charsAll breaks others)
      (ends'.endsTree_charsAll breaks others') same
    obtain ⟨behind, rests⟩ := decodesOthers others' _ _ ends ends' same
    exact ⟨fun table table' regroups => behind _ _ (first table table' regroups), rests⟩

mutual

theorem Link.decodes (consistent : names.Consistent) (breaks : lineBreak.toList = '\n' :: blanks) :
    ∀ link : Link names, link.Decodes lineBreak
  | .cross kind base => Link.decodes_cross consistent kind base
  | .on kind base links predicate =>
    Link.decodes_on consistent breaks kind base (Link.decodes_all consistent breaks links) predicate

/-- Every chain can be read back, link by link. -/
theorem Link.decodes_all (consistent : names.Consistent)
    (breaks : lineBreak.toList = '\n' :: blanks) :
    ∀ links : List (Link names), Link.DecodesAll lineBreak links
  | [] => Link.decodesAll_nil breaks
  | link :: others =>
    Link.decodesAll_cons breaks (Link.decodes consistent breaks link)
      (Link.decodes_all consistent breaks others)

end

/-- Trees of joins are spelled alike exactly when one can be regrouped into the other. -/
theorem Table.Joins.spelling_eq_iff (consistent : names.Consistent)
    (breaks : lineBreak.toList = '\n' :: blanks) {table table' : Table}
    (joins : table.Joins names.Has) (joins' : table'.Joins names.Has) :
    table.spelling .sqlServer names lineBreak = table'.spelling .sqlServer names lineBreak ↔
      table.Regroups .any table' := by
  constructor
  · intro same
    obtain ⟨base, links, chain⟩ := joins.exists_chain
    obtain ⟨base', links', chain'⟩ := joins'.exists_chain
    rw [chain.spelling_eq, chain'.spelling_eq] at same
    have chars := congrArg (fun text => text.toList ++ []) same
    simp only [Link.spelling_attachAll, List.append_assoc] at chars
    obtain ⟨bases, chars⟩ := NamedTable.decodes consistent
      (endsJoins_nil.endsTree_charsAll breaks links).bracket
      (endsJoins_nil.endsTree_charsAll breaks links').bracket chars
    obtain ⟨regroups, -⟩ :=
      Link.decodes_all consistent breaks links links' [] [] endsJoins_nil endsJoins_nil chars
    rw [bases] at chain
    exact chain.trans ((regroups _ _ (.refl _)).trans chain'.symm)
  · intro regroups
    exact regroups.spelling_eq .sqlServer names lineBreak

end Reading

theorem Draft.toList_lineBreak (draft : Draft) :
    draft.lineBreak.toList = '\n' :: List.replicate (draft.indent * draft.indentWidth) ' ' := by
  simp [lineBreak]

/-- What is written for a tree of joins determines it up to regrouping, the types of columns and the
aliases that base tables prefer: two trees over tables that have their aliases are both written, and
the texts are the same exactly when the joins without a condition can change places with the joins
on their inner sides until the trees are the same. -/
theorem Table.written_eq_iff_regroups {ctx : RenderContext} (dialect : ctx.dialect = .sqlServer)
    {state : Script.State} (reachable : state.Reachable ctx) {table table' : Table}
    (joins : table.Joins state.names.Has) (joins' : table'.Joins state.names.Has) (below : Below) :
    ∃ after after', table.writeTo ctx below state = .ok after ∧
      table'.writeTo ctx below state = .ok after' ∧
      (after.draft.written = after'.draft.written ↔ table.Regroups .any table') := by
  have known : ∀ id, state.names.Has id → state.Knows ctx id := by
    rintro id ⟨chosen, named⟩
    exact reachable.knows named
  obtain ⟨script, rendered, adds⟩ :=
    (joins.mono known).exists_addsLines below state.draft.lineBreak
  obtain ⟨script', rendered', adds'⟩ :=
    (joins'.mono known).exists_addsLines below state.draft.lineBreak
  refine ⟨script.run ctx.dialect state, script'.run ctx.dialect state,
    by rw [Table.writeTo, rendered]; rfl, by rw [Table.writeTo, rendered']; rfl, ?_⟩
  rw [adds state.draft rfl, adds' state.draft rfl, Draft.written_append, Draft.written_append,
    String.append_right_inj, dialect]
  exact joins.spelling_eq_iff reachable.consistent state.draft.toList_lineBreak joins'

/-! ## Three tables -/

/-- Three tables that a query declares. -/
def RenderContext.three : RenderContext :=
  ⟨.sqlServer, [(⟨0⟩, "a"), (⟨1⟩, "b"), (⟨2⟩, "c")]⟩

/-- A state in which the three tables have their aliases. -/
def Script.State.three : Script.State :=
  (Script.tableName ⟨0⟩ "a" ++ Script.tableName ⟨1⟩ "b" ++ Script.tableName ⟨2⟩ "c").run .sqlServer
    ⟨.empty, .start 4⟩

theorem Script.State.reachable_three : Script.State.three.Reachable .three := by
  refine ⟨4, _, ?_, rfl⟩
  intro request member
  simp only [Script.tableName, Script.requests, List.cons_append, List.nil_append,
    List.filterMap_cons, List.filterMap_nil, List.mem_cons, List.not_mem_nil, or_false] at member
  rcases member with rfl | rfl | rfl <;> rfl

/-- The first of the three tables. -/
def Table.dboA : Table :=
  .base ⟨0⟩ "dbo" "A" ""

/-- The second of the three tables. -/
def Table.dboB : Table :=
  .base ⟨1⟩ "dbo" "B" ""

/-- The third of the three tables. -/
def Table.dboC : Table :=
  .base ⟨2⟩ "dbo" "C" ""

theorem Table.joins_three :
    Table.dboA.Joins Script.State.three.names.Has ∧ Table.dboB.Joins Script.State.three.names.Has ∧
      Table.dboC.Joins Script.State.three.names.Has :=
  ⟨.base _ _ _ ⟨"a", rfl⟩, .base _ _ _ ⟨"b", rfl⟩, .base _ _ _ ⟨"c", rfl⟩⟩

/-- A condition on two tables. -/
def Expr.sameIds (left right : TableId) (type : DataType) : Expr :=
  .binary .equal (.column left "Id" type) (.column right "Id" type)

/-- An application goes in front of the join on its inner side, whichever kinds they are of, while
joins on conditions are told apart by where their conditions stand. -/
theorem Table.regroups_three :
    let applied := Table.cross .outerApply .dboA (.join .left .dboB .dboC (.sameIds ⟨1⟩ ⟨2⟩ .int32))
    let regrouped := Table.join .left (.cross .outerApply .dboA .dboB) .dboC
      (.sameIds ⟨1⟩ ⟨2⟩ .int64)
    let inside := Table.join .left .dboA (.join .inner .dboB .dboC (.sameIds ⟨1⟩ ⟨2⟩ .int32))
      (.sameIds ⟨0⟩ ⟨1⟩ .int32)
    let behind := Table.join .inner (.join .left .dboA .dboB (.sameIds ⟨0⟩ ⟨1⟩ .int32)) .dboC
      (.sameIds ⟨1⟩ ⟨2⟩ .int32)
    (∃ after after', applied.writeTo .three .none .three = .ok after ∧
      regrouped.writeTo .three .none .three = .ok after' ∧
      after.draft.written = after'.draft.written) ∧ ¬inside.Regroups .any behind := by
  intro applied regrouped inside behind
  obtain ⟨a, b, c⟩ := Table.joins_three
  have first : ∀ type, (Expr.sameIds ⟨0⟩ ⟨1⟩ type).IsTree Script.State.three.names := fun type =>
    .binary rfl (.column _ type ⟨"a", rfl⟩) (.column _ type ⟨"b", rfl⟩)
  have second : ∀ type, (Expr.sameIds ⟨1⟩ ⟨2⟩ type).IsTree Script.State.three.names := fun type =>
    .binary rfl (.column _ type ⟨"b", rfl⟩) (.column _ type ⟨"c", rfl⟩)
  constructor
  · obtain ⟨after, after', writes, writes', same⟩ := Table.written_eq_iff_regroups rfl
      Script.State.reachable_three
      (Table.Joins.cross .outerApply a (.join .left b c (second .int32)))
      (Table.Joins.join .left (.cross .outerApply a b) c (second .int64)) .none
    refine ⟨after, after', writes, writes', same.2 ?_⟩
    refine .trans (.rotateJoin .dboA .dboB .dboC _ rfl) (.join .left (.refl _) (.refl _) ?_)
    exact .binary .equal (.column _ _ _ _) (.column _ _ _ _)
  · obtain ⟨after, after', writes, writes', same⟩ := Table.written_eq_iff_regroups rfl
      Script.State.reachable_three
      (Table.Joins.join .left a (.join .inner b c (second .int32)) (first .int32))
      (Table.Joins.join .inner (.join .left a b (first .int32)) c (second .int32)) .none
    rw [← same]
    cases writes
    cases writes'
    decide

/-- The kind of the outermost join, if it has no condition. -/
def Table.crossKind? : Table → Option CrossKind
  | .cross kind _ _ => some kind
  | _ => none

theorem Table.Regroups.crossKind?_eq {table table' : Table}
    (regroups : table.Regroups .products table') : table.crossKind? = table'.crossKind? := by
  induction regroups with
  | refl table => rfl
  | symm _ same => exact same.symm
  | trans _ _ same same' => exact same.trans same'
  | base id schema name preferred preferred' => rfl
  | join kind _ _ _ _ _ => rfl
  | cross kind _ _ _ _ => rfl
  | @rotateCross kind kind' outer middle inner allowed =>
    rw [Regrouping.products, Bool.and_eq_true, decide_eq_true_eq, decide_eq_true_eq] at allowed
    rw [crossKind?, crossKind?, allowed.1, allowed.2]
  | rotateJoin outer middle inner predicate allowed => cases allowed

/-- An application of a product and a product with an application have the same text, and are not
the same up to regrouping products: with no rows in the last table, the first of them keeps the rows
of the first table and the second one has none. -/
theorem Table.written_eq_of_applied_product :
    let applied := Table.cross .outerApply .dboA (.cross .crossJoin .dboB .dboC)
    let product := Table.cross .crossJoin (.cross .outerApply .dboA .dboB) .dboC
    Script.State.three.Reachable .three ∧
    applied.Joins Script.State.three.names.Has ∧ product.Joins Script.State.three.names.Has ∧
    (∃ after after', applied.writeTo .three .none .three = .ok after ∧
      product.writeTo .three .none .three = .ok after' ∧
      after.draft.written = after'.draft.written) ∧ ¬applied.Regroups .products product := by
  intro applied product
  obtain ⟨a, b, c⟩ := Table.joins_three
  refine ⟨Script.State.reachable_three, .cross _ a (.cross _ b c), .cross _ (.cross _ a b) c,
    ⟨_, _, rfl, rfl, by decide⟩, ?_⟩
  intro regroups
  cases regroups.crossKind?_eq

end SqlLowering
