import FederatedSearch.Sorting.BothEnds

/-! Sorting by runs. A list is cut into runs, those that are in order as they stand and others whose
sorting is put off, and neighbouring runs are joined in pairs. Where each pair stands in the tree of
all joins depends on where in the list the two runs meet, so that the tree is nearly balanced. -/

namespace FederatedSearch

variable {α : Type}

structure Run (α : Type) where
  elements : List α
  sorted : Bool

def Run.inOrder (sort : List α → Option (List α)) (run : Run α) : Option (List α) :=
  if run.sorted then some run.elements else sort run.elements

def risingLength (before : α → α → Bool) (last : α) : List α → Nat
  | [] => 0
  | next :: rest => if before next last then 0 else risingLength before next rest + 1

def fallingLength (before : α → α → Bool) (last : α) : List α → Nat
  | [] => 0
  | next :: rest => if before next last then fallingLength before next rest + 1 else 0

def startingRun (before : α → α → Bool) (elements : List α) : List α × List α :=
  match elements with
  | first :: second :: rest =>
    if before second first then
      let length := fallingLength before second rest + 2
      ((elements.take length).reverse, elements.drop length)
    else
      let length := risingLength before second rest + 2
      (elements.take length, elements.drop length)
  | _ => (elements, [])

def shortLength : Nat :=
  32

def roughRoot (n : Nat) : Nat :=
  let half := (1 + n.log2) / 2
  (1 <<< half + n >>> half) / 2

def runLength (n : Nat) : Nat :=
  if n ≤ 4096 then min (n - n / 2) 64 else roughRoot n

/-- The first run of the elements and the rest of them. A start that is in order is a run if it has
the given length. Otherwise a short run is sorted at once if the sorting is eager, and one of the
given length is left to be sorted if it is not. -/
def nextRun (before : α → α → Bool) (eager : Bool) (length : Nat) (elements : List α) :
    Option (Run α × List α) :=
  let (start, rest) := startingRun before elements
  if length ≤ elements.length && length ≤ start.length then some (⟨start, true⟩, rest)
  else if eager then
    (sortShort before (elements.take shortLength)).map fun sorted =>
      (⟨sorted, true⟩, elements.drop shortLength)
  else some (⟨elements.take length, false⟩, elements.drop length)

def mergeRuns (before : α → α → Bool) (firsts seconds : List α) : List α :=
  if firsts.length ≤ seconds.length then
    firsts.merge seconds fun first second => !before second first
  else
    (seconds.reverse.merge firsts.reverse fun second first => !before second first).reverse

def joinRuns (before : α → α → Bool) (sort : List α → Option (List α)) (first second : Run α) :
    Option (Run α) :=
  if first.sorted || second.sorted then do
    let firsts ← first.inOrder sort
    let seconds ← second.inOrder sort
    return ⟨mergeRuns before firsts seconds, true⟩
  else some ⟨first.elements ++ second.elements, false⟩

/-- The depth in the tree of joins, in a list of length `n`, of the join of what lies between
`start` and `middle` with what lies between `middle` and `stop`: the number of leading binary digits
that the centres of the two parts have in common, as 63-digit fractions of the list. -/
def joinDepth (n start middle stop : Nat) : Nat :=
  let scale := (1 <<< 62 + n - 1) / n
  let difference := (scale * (start + middle)) ^^^ (scale * (middle + stop))
  if difference = 0 then 64 else 63 - difference.log2

def joinDown (before : α → α → Bool) (sort : List α → Option (List α)) (depth : Nat) :
    List (Run α × Nat) → Run α → Option (List (Run α × Nat) × Run α)
  | [], run => some ([], run)
  | (previous, joint) :: earlier, run =>
    if depth ≤ joint then do
      joinDown before sort depth earlier (← joinRuns before sort previous run)
    else some ((previous, joint) :: earlier, run)

def joinAll (before : α → α → Bool) (sort : List α → Option (List α)) (eager : Bool) (n : Nat) :
    Nat → List (Run α × Nat) → Run α → Nat → List α → Option (Run α)
  | _, earlier, run, _, [] => (joinDown before sort 0 earlier run).map (·.2)
  | 0, _, _, _, _ :: _ => none
  | fuel + 1, earlier, run, position, rest => do
    let (next, rest) ← nextRun before eager (runLength n) rest
    let depth := joinDepth n (position - run.elements.length) position
      (position + next.elements.length)
    let (earlier, run) ← joinDown before sort depth earlier run
    joinAll before sort eager n fuel ((run, depth) :: earlier) next
      (position + next.elements.length) rest

def sortByRuns (before : α → α → Bool) (sort : List α → Option (List α)) (eager : Bool)
    (elements : List α) : Option (List α) := do
  let n := elements.length
  let (first, rest) ← nextRun before eager (runLength n) elements
  let whole ← joinAll before sort eager n n [] first first.elements.length rest
  whole.inOrder sort

theorem startingRun_perm {before : α → α → Bool} {elements start rest : List α}
    (found : startingRun before elements = (start, rest)) : (start ++ rest).Perm elements := by
  unfold startingRun at found
  split at found
  · split at found
    · cases found
      exact ((List.reverse_perm _).append_right _).trans (by rw [List.take_append_drop])
    · cases found
      rw [List.take_append_drop]
  · cases found
    rw [List.append_nil]

theorem nextRun_perm {before : α → α → Bool} {eager : Bool} {length : Nat}
    {elements rest : List α} {run : Run α}
    (found : nextRun before eager length elements = some (run, rest)) :
    (run.elements ++ rest).Perm elements := by
  rcases started : startingRun before elements with ⟨start, after⟩
  simp only [nextRun, started] at found
  split at found
  · cases found
    exact startingRun_perm started
  · split at found
    · obtain ⟨sorted, sortedEq, whole⟩ := Option.map_eq_some_iff.mp found
      cases whole
      exact ((sortShort_perm sortedEq).append_right _).trans (by rw [List.take_append_drop])
    · cases found
      rw [List.take_append_drop]

theorem mergeRuns_perm (before : α → α → Bool) (firsts seconds : List α) :
    (mergeRuns before firsts seconds).Perm (firsts ++ seconds) := by
  unfold mergeRuns
  split
  · exact List.merge_perm_append _
  · refine (List.reverse_perm _).trans ((List.merge_perm_append _).trans ?_)
    rw [← List.reverse_append]
    exact List.reverse_perm _

theorem joinDown_zero {before : α → α → Bool} {sort : List α → Option (List α)}
    {earlier remaining : List (Run α × Nat)} {run joined : Run α}
    (found : joinDown before sort 0 earlier run = some (remaining, joined)) : remaining = [] := by
  induction earlier generalizing run with
  | nil =>
    cases found
    rfl
  | cons entry earlier ih =>
    obtain ⟨previous, joint⟩ := entry
    unfold joinDown at found
    simp only [Nat.zero_le, ↓reduceIte, Option.bind_eq_bind, Option.bind_eq_some_iff] at found
    obtain ⟨both, -, rest⟩ := found
    exact ih rest

section

variable {before : α → α → Bool} {sort : List α → Option (List α)}
  (rearranges : ∀ elements sorted, sort elements = some sorted → sorted.Perm elements)

include rearranges

theorem inOrder_perm {run : Run α} {sorted : List α} (found : run.inOrder sort = some sorted) :
    sorted.Perm run.elements := by
  unfold Run.inOrder at found
  split at found
  · rw [Option.some.inj found]
  · exact rearranges _ _ found

theorem joinRuns_perm {first second whole : Run α} (found : joinRuns before sort first second = some whole) :
    whole.elements.Perm (first.elements ++ second.elements) := by
  unfold joinRuns at found
  split at found
  · simp only [Option.bind_eq_bind, Option.bind_eq_some_iff, Option.pure_def] at found
    obtain ⟨firsts, firstsEq, seconds, secondsEq, wholeEq⟩ := found
    rw [← Option.some.inj wholeEq]
    exact (mergeRuns_perm before firsts seconds).trans
      ((inOrder_perm rearranges firstsEq).append (inOrder_perm rearranges secondsEq))
  · rw [← Option.some.inj found]

theorem joinDown_perm {depth : Nat} {earlier remaining : List (Run α × Nat)} {run joined : Run α}
    (found : joinDown before sort depth earlier run = some (remaining, joined)) :
    (joined.elements ++ remaining.flatMap (·.1.elements)).Perm
      (run.elements ++ earlier.flatMap (·.1.elements)) := by
  induction earlier generalizing run with
  | nil =>
    cases found
    exact List.Perm.refl _
  | cons entry earlier ih =>
    obtain ⟨previous, joint⟩ := entry
    unfold joinDown at found
    split at found
    · simp only [Option.bind_eq_bind, Option.bind_eq_some_iff] at found
      obtain ⟨both, bothEq, rest⟩ := found
      refine (ih rest).trans ?_
      rw [List.flatMap_cons, ← List.append_assoc]
      exact ((joinRuns_perm rearranges bothEq).trans List.perm_append_comm).append_right _
    · cases found
      exact List.Perm.refl _

theorem joinDown_zero_perm {earlier : List (Run α × Nat)} {run whole : Run α}
    (found : (joinDown before sort 0 earlier run).map (·.2) = some whole) :
    whole.elements.Perm (run.elements ++ earlier.flatMap (·.1.elements)) := by
  obtain ⟨⟨remaining, joined⟩, joinedEq, wholeEq⟩ := Option.map_eq_some_iff.mp found
  have joinedPerm := joinDown_perm rearranges joinedEq
  rw [joinDown_zero joinedEq, List.flatMap_nil, List.append_nil] at joinedPerm
  rw [← wholeEq]
  exact joinedPerm

theorem joinAll_perm {eager : Bool} {n fuel position : Nat} {earlier : List (Run α × Nat)}
    {run whole : Run α} {rest : List α}
    (found : joinAll before sort eager n fuel earlier run position rest = some whole) :
    whole.elements.Perm (run.elements ++ rest ++ earlier.flatMap (·.1.elements)) := by
  induction fuel generalizing earlier run position rest with
  | zero =>
    cases rest with
    | nil =>
      unfold joinAll at found
      simpa using joinDown_zero_perm rearranges found
    | cons => cases found
  | succ fuel ih =>
    cases rest with
    | nil =>
      unfold joinAll at found
      simpa using joinDown_zero_perm rearranges found
    | cons head rest =>
      unfold joinAll at found
      simp only [Option.bind_eq_bind, Option.bind_eq_some_iff] at found
      obtain ⟨⟨next, after⟩, nextEq, ⟨remaining, joined⟩, joinedEq, wholeEq⟩ := found
      have nextPerm := nextRun_perm nextEq
      have joinedPerm := joinDown_perm rearranges joinedEq
      have wholePerm := ih wholeEq
      classical
      refine List.perm_iff_count.mpr fun element => ?_
      have nextCount := nextPerm.count_eq element
      have joinedCount := joinedPerm.count_eq element
      have wholeCount := wholePerm.count_eq element
      simp only [List.flatMap_cons, List.count_append] at *
      omega

theorem sortByRuns_perm {eager : Bool} {elements sorted : List α}
    (found : sortByRuns before sort eager elements = some sorted) : sorted.Perm elements := by
  simp only [sortByRuns, Option.bind_eq_bind, Option.bind_eq_some_iff] at found
  obtain ⟨⟨first, rest⟩, firstEq, whole, wholeEq, found⟩ := found
  have wholePerm := joinAll_perm rearranges wholeEq
  rw [List.flatMap_nil, List.append_nil] at wholePerm
  exact (inOrder_perm rearranges found).trans (wholePerm.trans (nextRun_perm firstEq))

end

end FederatedSearch
