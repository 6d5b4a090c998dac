/-!
Finite maps from names, kept as lists in increasing order of the names. A map has one such list, so
equal maps are equal lists.
-/

namespace SqlLowering

/-- Entries with a name set to a value, at the place that keeps the names in order. -/
def putEntry {α : Type} (name : String) (value : α) :
    List (String × α) → List (String × α)
  | [] => [(name, value)]
  | (other, old) :: rest =>
    if name < other then (name, value) :: (other, old) :: rest
    else if name = other then (name, value) :: rest
    else (other, old) :: putEntry name value rest

/-- Every entry after a put is the new one or was there before. -/
theorem mem_putEntry {α : Type} {name : String} {value : α} {entries : List (String × α)}
    {entry : String × α} (h : entry ∈ putEntry name value entries) :
    entry = (name, value) ∨ entry ∈ entries := by
  induction entries with
  | nil => simpa [putEntry] using h
  | cons head rest ih =>
    rw [putEntry] at h
    split at h
    · rcases List.mem_cons.1 h with rfl | h
      · exact Or.inl rfl
      · exact Or.inr h
    · split at h
      · rcases List.mem_cons.1 h with rfl | h
        · exact Or.inl rfl
        · exact Or.inr (List.mem_cons_of_mem _ h)
      · rcases List.mem_cons.1 h with rfl | h
        · exact Or.inr List.mem_cons_self
        · rcases ih h with h | h
          · exact Or.inl h
          · exact Or.inr (List.mem_cons_of_mem _ h)

/-- A put keeps the names in increasing order. -/
theorem pairwise_putEntry {α : Type} (name : String) (value : α) {entries : List (String × α)}
    (sorted : entries.Pairwise fun a b => a.1 < b.1) :
    (putEntry name value entries).Pairwise fun a b => a.1 < b.1 := by
  induction entries with
  | nil => simp [putEntry]
  | cons head rest ih =>
    obtain ⟨below, tail⟩ := List.pairwise_cons.1 sorted
    rw [putEntry]
    split
    · next before =>
      refine List.pairwise_cons.2 ⟨fun entry h => ?_, sorted⟩
      rcases List.mem_cons.1 h with rfl | h
      · exact before
      · exact String.lt_trans before (below entry h)
    · next notBefore =>
      split
      · next same =>
        refine List.pairwise_cons.2 ⟨fun entry h => ?_, tail⟩
        exact same ▸ below entry h
      · next other =>
        refine List.pairwise_cons.2 ⟨fun entry h => ?_, ih tail⟩
        rcases mem_putEntry h with rfl | h
        · exact String.not_le.1 fun le => other (String.le_antisymm le (String.not_lt.1 notBefore))
        · exact below entry h

/-- A finite map from names, in increasing order of the names. -/
structure NameMap (α : Type) where
  entries : List (String × α)
  sorted : entries.Pairwise fun a b => a.1 < b.1

namespace NameMap

variable {α : Type}

/-- The map without entries. -/
def empty : NameMap α :=
  ⟨[], .nil⟩

/-- The map with a name set to a value. -/
def insert (map : NameMap α) (name : String) (value : α) : NameMap α :=
  ⟨putEntry name value map.entries, pairwise_putEntry name value map.sorted⟩

/-- The value of a name. -/
def get? (map : NameMap α) (name : String) : Option α :=
  map.entries.lookup name

/-- The number of names. -/
def size (map : NameMap α) : Nat :=
  map.entries.length

/-- The map of a list of entries; of a repeated name the last entry counts. -/
def ofList (entries : List (String × α)) : NameMap α :=
  entries.foldl (fun map entry => map.insert entry.1 entry.2) empty

end NameMap

end SqlLowering
