import Mathlib.Data.List.Nodup
import Mathlib.Data.List.Perm.Subperm
import SqlLowering.Proofs.Placeholders

/-!
# Aliases of tables over whole runs

A table asks for its alias as often as it is mentioned, each time with the alias that it would like.
`TableNames.answers` are the aliases that a sequence of such requests is answered with, from the
first request on.

The search for a free name tries the candidates of a table in order: the name that it likes, then
that name with the numbers from zero on behind it. Candidates never repeat, so only as many of them
can be refused as there are names taken, and the bound that the search has never cuts it short
(`TableNames.firstFree_spec`). Over a run, the names taken are exactly the aliases assigned and no
two of them are the same (`TableNames.Consistent`), which makes the assignment injective.
-/

namespace SqlLowering

namespace TableNames

/-! ## Candidates and the search among them -/

/-- The names that are tried for a table, in order. -/
def candidate (preferred : String) : Nat → String
  | 0 => preferred
  | number + 1 => preferred ++ toString number

theorem toList_candidate_succ (preferred : String) (number : Nat) :
    (candidate preferred (number + 1)).toList = preferred.toList ++ Nat.toDigits 10 number := by
  simp [candidate]

/-- No name is tried twice for a table. -/
theorem candidate_inj {preferred : String} {m n : Nat}
    (same : candidate preferred m = candidate preferred n) : m = n := by
  have chars := congrArg String.toList same
  -- A number has at least one digit, so the name alone is none of the others.
  have digits : ∀ number, Nat.toDigits 10 number ≠ [] := fun number => Nat.toDigits_ne_nil
  cases m with
  | zero =>
    cases n with
    | zero => rfl
    | succ n =>
      rw [toList_candidate_succ, candidate] at chars
      exact absurd (List.self_eq_append_right.1 chars) (digits n)
  | succ m =>
    cases n with
    | zero =>
      rw [toList_candidate_succ, candidate] at chars
      exact absurd (List.append_right_eq_self.1 chars) (digits m)
    | succ n =>
      rw [toList_candidate_succ, toList_candidate_succ] at chars
      rw [toDigits_inj (List.append_cancel_left chars)]

/-- As many candidates can be refused as there are names taken, and no more. -/
theorem lt_length_of_refused {taken : List String} {preferred : String} {n : Nat}
    (refused : ∀ m ≤ n, candidate preferred m ∈ taken) : n < taken.length := by
  have distinct : ((List.range (n + 1)).map (candidate preferred)).Nodup :=
    List.Pairwise.map _ (fun _ _ different same => different (candidate_inj same)) List.nodup_range
  have kept : (List.range (n + 1)).map (candidate preferred) ⊆ taken := by
    intro name member
    obtain ⟨m, inRange, rfl⟩ := List.mem_map.1 member
    exact refused m (Nat.le_of_lt_succ (List.mem_range.1 inRange))
  have lengths := (distinct.subperm kept).length_le
  rw [List.length_map, List.length_range] at lengths
  exact lengths

/-- The search from a number on refuses only what is taken, and stops at a free name unless its
bound stops it. -/
theorem firstFreeNumber_spec (taken : List String) (preferred : String) (fuel number : Nat) :
    ∃ k ≤ fuel, firstFreeNumber taken preferred fuel number = candidate preferred (number + k + 1) ∧
      (∀ m < k, candidate preferred (number + m + 1) ∈ taken) ∧
      (k < fuel → candidate preferred (number + k + 1) ∉ taken) := by
  induction fuel generalizing number with
  | zero => exact ⟨0, Nat.le_refl 0, rfl, by simp, by simp⟩
  | succ fuel ih =>
    rw [firstFreeNumber]
    split
    next refused =>
      obtain ⟨k, bound, found, before, free⟩ := ih (number + 1)
      have shift : ∀ m, number + 1 + m + 1 = number + (m + 1) + 1 := by
        intro m
        omega
      refine ⟨k + 1, by omega, ?_, ?_, ?_⟩
      · rw [found, shift]
      · intro m below
        cases m with
        | zero => exact refused
        | succ m =>
          rw [← shift]
          exact before m (by omega)
      · intro below
        rw [← shift]
        exact free (by omega)
    next free => exact ⟨0, Nat.zero_le _, rfl, by simp, fun _ => free⟩

/-- The search finds the first candidate that is not taken. -/
theorem firstFree_spec (taken : List String) (preferred : String) :
    ∃ n ≤ taken.length, firstFree taken preferred = candidate preferred n ∧
      candidate preferred n ∉ taken ∧ ∀ m < n, candidate preferred m ∈ taken := by
  unfold firstFree
  split
  next liked =>
    obtain ⟨k, bound, found, before, free⟩ := firstFreeNumber_spec taken preferred taken.length 0
    rw [Nat.zero_add] at found free
    have refused : ∀ m ≤ k, candidate preferred m ∈ taken := by
      intro m below
      cases m with
      | zero => exact liked
      | succ m =>
        have inTaken := before m (by omega)
        rwa [Nat.zero_add] at inTaken
    have short : k < taken.length := lt_length_of_refused refused
    exact ⟨k + 1, short, found, free short, fun m below => refused m (by omega)⟩
  next free => exact ⟨0, Nat.zero_le _, rfl, free, by simp⟩

/-! ## One request -/

/-- What a request does: it finds the alias that the table has, or assigns the first free one. -/
theorem nameFor_cases (names : TableNames) (id : TableId) (preferred : String) :
    (∃ chosen, names.assigned.lookup id = some chosen ∧
      names.nameFor id preferred = (chosen, names)) ∨
    (names.assigned.lookup id = none ∧
      names.nameFor id preferred =
        (firstFree names.taken preferred,
          ⟨(id, firstFree names.taken preferred) :: names.assigned,
            firstFree names.taken preferred :: names.taken⟩)) := by
  unfold nameFor
  cases names.assigned.lookup id with
  | some chosen => exact .inl ⟨chosen, rfl, rfl⟩
  | none => exact .inr ⟨rfl, rfl⟩

theorem lookup_nameFor_self (names : TableNames) (id : TableId) (preferred : String) :
    (names.nameFor id preferred).2.assigned.lookup id = some (names.nameFor id preferred).1 := by
  rcases names.nameFor_cases id preferred with ⟨chosen, found, result⟩ | ⟨-, result⟩
  · rw [result]
    exact found
  · rw [result]
    simp

theorem lookup_nameFor_of_ne (names : TableNames) {id other : TableId} (different : other ≠ id)
    (preferred : String) :
    (names.nameFor id preferred).2.assigned.lookup other = names.assigned.lookup other := by
  rcases names.nameFor_cases id preferred with ⟨chosen, -, result⟩ | ⟨-, result⟩
  · rw [result]
  · rw [result, List.lookup_cons, beq_false_of_ne different]

theorem lookup_nameFor_of_some {names : TableNames} {other : TableId} {chosen : String}
    (found : names.assigned.lookup other = some chosen) (id : TableId) (preferred : String) :
    (names.nameFor id preferred).2.assigned.lookup other = some chosen := by
  by_cases same : other = id
  · subst same
    rcases names.nameFor_cases other preferred with ⟨_, -, result⟩ | ⟨missing, -⟩
    · rw [result]
      exact found
    · rw [missing] at found
      cases found
  · rw [lookup_nameFor_of_ne names same, found]

/-- The names taken are the aliases assigned, and no two of them are the same. -/
structure Consistent (names : TableNames) : Prop where
  taken : names.taken = names.assigned.map Prod.snd
  distinct : names.taken.Nodup

theorem consistent_empty : empty.Consistent :=
  ⟨rfl, List.nodup_nil⟩

theorem Consistent.nameFor {names : TableNames} (consistent : names.Consistent) (id : TableId)
    (preferred : String) : (names.nameFor id preferred).2.Consistent := by
  rcases names.nameFor_cases id preferred with ⟨_, -, result⟩ | ⟨-, result⟩
  · rw [result]
    exact consistent
  · obtain ⟨n, -, found, free, -⟩ := firstFree_spec names.taken preferred
    rw [result]
    refine ⟨?_, ?_⟩
    · simp [consistent.taken]
    · rw [found]
      exact List.nodup_cons.2 ⟨free, consistent.distinct⟩

theorem mem_of_lookup {assigned : List (TableId × String)} {id : TableId} {chosen : String}
    (found : assigned.lookup id = some chosen) : (id, chosen) ∈ assigned := by
  obtain ⟨before, later, rfl, -⟩ := List.lookup_eq_some_iff.1 found
  exact List.mem_append_right before List.mem_cons_self

theorem Consistent.mem_taken {names : TableNames} (consistent : names.Consistent) {id : TableId}
    {chosen : String} (found : names.assigned.lookup id = some chosen) :
    chosen ∈ names.taken := by
  rw [consistent.taken]
  exact List.mem_map_of_mem (f := Prod.snd) (mem_of_lookup found)

/-- Two tables never have the same alias. -/
theorem Consistent.id_eq {names : TableNames} (consistent : names.Consistent)
    {id other : TableId} {chosen : String} (found : names.assigned.lookup id = some chosen)
    (foundOther : names.assigned.lookup other = some chosen) : id = other := by
  have distinct := consistent.distinct
  rw [consistent.taken] at distinct
  have same := List.inj_on_of_nodup_map distinct (mem_of_lookup found)
    (mem_of_lookup foundOther) rfl
  exact congrArg Prod.fst same

/-! ## Runs of requests -/

/-- The aliases after requests. -/
def after (names : TableNames) : List (TableId × String) → TableNames
  | [] => names
  | (id, preferred) :: rest => after (names.nameFor id preferred).2 rest

/-- What requests are answered with, from the first on. -/
def answers (names : TableNames) : List (TableId × String) → List String
  | [] => []
  | (id, preferred) :: rest =>
    (names.nameFor id preferred).1 :: answers (names.nameFor id preferred).2 rest

theorem Consistent.after {names : TableNames} (consistent : names.Consistent)
    (requests : List (TableId × String)) : (names.after requests).Consistent := by
  induction requests generalizing names with
  | nil => exact consistent
  | cons request rest ih => exact ih (consistent.nameFor request.1 request.2)

theorem lookup_after_of_some {names : TableNames} {id : TableId} {chosen : String}
    (found : names.assigned.lookup id = some chosen) (requests : List (TableId × String)) :
    (names.after requests).assigned.lookup id = some chosen := by
  induction requests generalizing names with
  | nil => exact found
  | cons request rest ih => exact ih (lookup_nameFor_of_some found request.1 request.2)

/-- A table that has no alias and asks for none has none afterwards. -/
theorem lookup_after_of_none {names : TableNames} {id : TableId}
    (missing : names.assigned.lookup id = none) {requests : List (TableId × String)}
    (silent : ∀ request ∈ requests, request.1 ≠ id) :
    (names.after requests).assigned.lookup id = none := by
  induction requests generalizing names with
  | nil => exact missing
  | cons request rest ih =>
    refine ih ?_ fun other member => silent other (List.mem_cons_of_mem _ member)
    have different := silent request List.mem_cons_self
    rw [lookup_nameFor_of_ne names different.symm, missing]

@[simp]
theorem length_answers (names : TableNames) (requests : List (TableId × String)) :
    (names.answers requests).length = requests.length := by
  induction requests generalizing names with
  | nil => rfl
  | cons request rest ih => rw [answers, List.length_cons, List.length_cons, ih]

/-- An answer is the alias that the table still has at the end of the run. -/
theorem lookup_after_of_answer (names : TableNames) {requests : List (TableId × String)} {i : Nat}
    {id : TableId} {preferred : String} (asked : requests[i]? = some (id, preferred)) :
    ∃ chosen, (names.answers requests)[i]? = some chosen ∧
      (names.after requests).assigned.lookup id = some chosen := by
  induction requests generalizing names i with
  | nil => cases asked
  | cons request rest ih =>
    cases i with
    | zero =>
      cases asked
      exact ⟨_, rfl, lookup_after_of_some (names.lookup_nameFor_self id preferred) rest⟩
    | succ i =>
      rw [List.getElem?_cons_succ] at asked
      exact ih (names.nameFor request.1 request.2).2 asked

/-- A request is answered by what has been assigned for the requests before it. -/
theorem answers_getElem? {names : TableNames} {requests : List (TableId × String)} {i : Nat}
    {id : TableId} {preferred : String} (asked : requests[i]? = some (id, preferred)) :
    (names.answers requests)[i]? =
      some ((names.after (requests.take i)).nameFor id preferred).1 := by
  induction requests generalizing names i with
  | nil => cases asked
  | cons request rest ih =>
    cases i with
    | zero =>
      cases asked
      rfl
    | succ i =>
      rw [List.getElem?_cons_succ] at asked
      exact ih asked

/-- The names taken at the end of a run are those that were taken and the answers. -/
theorem Consistent.mem_taken_after {names : TableNames} (consistent : names.Consistent)
    (requests : List (TableId × String)) (name : String) :
    name ∈ (names.after requests).taken ↔ name ∈ names.taken ∨ name ∈ names.answers requests := by
  induction requests generalizing names with
  | nil => simp [TableNames.after, answers]
  | cons request rest ih =>
    obtain ⟨id, preferred⟩ := request
    rw [TableNames.after, answers, ih (consistent.nameFor id preferred), List.mem_cons]
    rcases names.nameFor_cases id preferred with ⟨chosen, found, result⟩ | ⟨-, result⟩
    · rw [result]
      have known := consistent.mem_taken found
      constructor
      · rintro (old | new)
        · exact .inl old
        · exact .inr (.inr new)
      · rintro (old | rfl | new)
        · exact .inl old
        · exact .inl known
        · exact .inr new
    · rw [result, List.mem_cons]
      tauto

/-- Every request takes one more name at most. -/
theorem length_taken_after (names : TableNames) (requests : List (TableId × String)) :
    (names.after requests).taken.length ≤ names.taken.length + requests.length := by
  induction requests generalizing names with
  | nil => exact Nat.le_refl _
  | cons request rest ih =>
    obtain ⟨id, preferred⟩ := request
    have later := ih (names.nameFor id preferred).2
    have one : (names.nameFor id preferred).2.taken.length ≤ names.taken.length + 1 := by
      rcases names.nameFor_cases id preferred with ⟨_, -, result⟩ | ⟨-, result⟩
      · rw [result]
        exact Nat.le_succ _
      · rw [result]
        exact Nat.le_refl _
    rw [TableNames.after, List.length_cons]
    omega

theorem answers_take (names : TableNames) (requests : List (TableId × String)) (i : Nat) :
    names.answers (requests.take i) = (names.answers requests).take i := by
  induction requests generalizing names i with
  | nil => simp [answers]
  | cons request rest ih =>
    cases i with
    | zero => rfl
    | succ i => rw [List.take_succ_cons, answers, answers, List.take_succ_cons, ih]

/-- The first answer to a table is its first candidate that is none of the answers before. -/
theorem first_answer {requests : List (TableId × String)} {i : Nat} {id : TableId}
    {preferred : String} (asked : requests[i]? = some (id, preferred))
    (first : ∀ request ∈ requests.take i, request.1 ≠ id) :
    ∃ n ≤ i, (empty.answers requests)[i]? = some (candidate preferred n) ∧
      candidate preferred n ∉ (empty.answers requests).take i ∧
      ∀ m < n, candidate preferred m ∈ (empty.answers requests).take i := by
  have unnamed : (empty.after (requests.take i)).assigned.lookup id = none :=
    lookup_after_of_none rfl first
  have held : ∀ name, name ∈ (empty.after (requests.take i)).taken ↔
      name ∈ (empty.answers requests).take i := by
    intro name
    rw [consistent_empty.mem_taken_after, answers_take]
    simp [empty]
  obtain ⟨n, bound, found, free, before⟩ :=
    firstFree_spec (empty.after (requests.take i)).taken preferred
  refine ⟨n, ?_, ?_, ?_, ?_⟩
  · have few := length_taken_after empty (requests.take i)
    have nothing : empty.taken.length = 0 := rfl
    rw [nothing, List.length_take] at few
    omega
  · rw [answers_getElem? asked]
    rcases (empty.after (requests.take i)).nameFor_cases id preferred with
      ⟨chosen, known, -⟩ | ⟨-, result⟩
    · rw [unnamed] at known
      cases known
    · rw [result, found]
  · rwa [← held]
  · intro m below
    rw [← held]
    exact before m below

/-- Over any run of requests, a table always gets the same alias, two tables never get the same, and
the alias that a table first gets is the first of its candidates that no table before it has. The
search for it ends after at most as many refused names as there were requests before. -/
theorem answers_eq_iff_and_first_free (requests : List (TableId × String)) :
    (empty.answers requests).length = requests.length ∧
    (∀ i j, i < requests.length → j < requests.length →
      ((empty.answers requests)[i]? = (empty.answers requests)[j]? ↔
        requests[i]?.map Prod.fst = requests[j]?.map Prod.fst)) ∧
    ∀ i id preferred, requests[i]? = some (id, preferred) →
      (∀ j < i, requests[j]?.map Prod.fst ≠ some id) →
      ∃ n ≤ i, (empty.answers requests)[i]? = some (candidate preferred n) ∧
        candidate preferred n ∉ (empty.answers requests).take i ∧
        ∀ m < n, candidate preferred m ∈ (empty.answers requests).take i := by
  refine ⟨length_answers empty requests, ?_, ?_⟩
  · intro i j inRange inRange'
    obtain ⟨⟨id, preferred⟩, asked⟩ : ∃ request, requests[i]? = some request :=
      ⟨_, List.getElem?_eq_getElem inRange⟩
    obtain ⟨⟨other, preferred'⟩, asked'⟩ : ∃ request, requests[j]? = some request :=
      ⟨_, List.getElem?_eq_getElem inRange'⟩
    obtain ⟨chosen, answered, named⟩ := lookup_after_of_answer empty asked
    obtain ⟨chosen', answered', named'⟩ := lookup_after_of_answer empty asked'
    rw [answered, answered', asked, asked', Option.some.injEq, Option.map_some, Option.map_some,
      Option.some.injEq]
    constructor
    · rintro rfl
      exact (consistent_empty.after requests).id_eq named named'
    · intro same
      have same : id = other := same
      rw [same, named', Option.some.injEq] at named
      exact named.symm
  · intro i id preferred asked first
    refine first_answer asked fun request member => ?_
    obtain ⟨j, inTake, rfl⟩ := List.getElem_of_mem member
    rw [List.length_take] at inTake
    have earlier : requests[j]? = some (requests.take i)[j] := by
      rw [List.getElem_take]
      exact List.getElem?_eq_getElem (by omega)
    intro same
    exact first j (by omega) (by rw [earlier, Option.map_some, same])

end TableNames

/-! ## Aliases in scripts -/

/-- The requests for aliases that a script makes, in order. -/
def Script.requests (script : Script) : List (TableId × String) :=
  script.filterMap fun
    | .edit _ => none
    | .tableName id preferred => some (id, preferred)

/-- A script leaves the aliases that its requests lead to. -/
theorem Script.names_run (dialect : Dialect) (script : Script) (state : State) :
    (script.run dialect state).names = state.names.after script.requests := by
  induction script generalizing state with
  | nil => rfl
  | cons piece rest ih =>
    cases piece with
    | edit e => exact ih (state.step dialect (.edit e))
    | tableName id preferred => exact ih (state.step dialect (.tableName id preferred))

end SqlLowering
