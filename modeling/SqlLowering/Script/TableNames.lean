import SqlLowering.Query.Basic

/-!
Aliases of tables in a command. The first table to need an alias gets the one it likes; a later one
that likes the same gets it with the first free number behind it.
-/

namespace SqlLowering

/-- The aliases assigned so far, and the names that are taken by them. -/
structure TableNames where
  assigned : List (TableId × String)
  taken : List String

namespace TableNames

/-- No alias assigned. -/
def empty : TableNames :=
  ⟨[], []⟩

/-- The first of `name` with the numbers from `suffix` on behind it that is not taken. One more
number than there are taken names is always enough. Numbers have no upper bound here; with fewer than
2^31 names taken, the one that is found is also a signed number of 32 bits. -/
def firstFreeNumber (taken : List String) (name : String) : Nat → Nat → String
  | 0, suffix => name ++ toString suffix
  | fuel + 1, suffix =>
    let candidate := name ++ toString suffix
    if candidate ∈ taken then firstFreeNumber taken name fuel (suffix + 1) else candidate

/-- The first of `name`, `name0`, `name1`, … that is not taken. -/
def firstFree (taken : List String) (name : String) : String :=
  if name ∈ taken then firstFreeNumber taken name taken.length 0 else name

/-- The alias of a table. A table that has none yet gets the first free one. -/
def nameFor (names : TableNames) (id : TableId) (preferred : String) : String × TableNames :=
  match names.assigned.lookup id with
  | some chosen => (chosen, names)
  | none =>
    let chosen := firstFree names.taken preferred
    (chosen, ⟨(id, chosen) :: names.assigned, chosen :: names.taken⟩)

end TableNames

end SqlLowering
