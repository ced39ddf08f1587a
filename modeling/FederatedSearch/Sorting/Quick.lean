import FederatedSearch.Sorting.Runs

/-! Sorting by parting a list around one of its elements, and the sorting of long lists, by runs
and by parting. By a consistent order it is one of the ways to the only stable result; what becomes
of a list whose order contradicts itself depends on the way. -/

namespace FederatedSearch

variable {α : Type}

def middlePlace (before : α → α → Bool) (elementAt : Nat → α) (one two three : Nat) : Nat :=
  let rises := before (elementAt one) (elementAt two)
  if before (elementAt one) (elementAt three) = rises then
    if before (elementAt two) (elementAt three) = rises then two else three
  else one

/-- The place of the middle element of three, each of which is, as long as the places from which it
may be taken are eight or more, found likewise among three in that reach. -/
def deepMiddlePlace (before : α → α → Bool) (elementAt : Nat → α) (reach one two three : Nat) :
    Nat :=
  if 8 ≤ reach then
    let step := reach / 8
    let inner (start : Nat) : Nat :=
      deepMiddlePlace before elementAt step start (start + 4 * step) (start + 7 * step)
    middlePlace before elementAt (inner one) (inner two) (inner three)
  else middlePlace before elementAt one two three
termination_by reach
decreasing_by all_goals omega

def pivotPlace (before : α → α → Bool) (elementAt : Nat → α) (length : Nat) : Nat :=
  let step := length / 8
  deepMiddlePlace before elementAt step 0 (4 * step) (7 * step)

def partAround (goesLeft : α → Bool) (place : Nat) (placeGoesLeft : Bool) (elements : List α) :
    List α × List α :=
  let (left, right) := elements.zipIdx.partition fun (element, index) =>
    if index = place then placeGoesLeft else goesLeft element
  (left.map (·.1), right.map (·.1))

/-- The elements in order, parted again and again around one of them, at most `limit` times in a
row. `floor` is an element that none of them comes before; if the one to part around is level with
it, those level with it are parted from the greater ones and are in order already. -/
def sortByParting (before : α → α → Bool) : Nat → Option α → List α → Option (List α)
  | _, _, [] => some []
  | 0, _, elements =>
    if elements.length ≤ shortLength then sortShort before elements
    else sortByRuns before some true elements
  | limit + 1, floor, head :: rest =>
    let elements := head :: rest
    if elements.length ≤ shortLength then sortShort before elements
    else
      let place := pivotPlace before (elements.getD · head) elements.length
      let pivot := elements.getD place head
      let (less, others) := partAround (before · pivot) place false elements
      if floor.any (!before · pivot) || less.isEmpty then
        let (level, greater) := partAround (!before pivot ·) place true elements
        (sortByParting before limit none greater).map (level ++ ·)
      else do
        let others ← sortByParting before limit (some pivot) others
        let less ← sortByParting before limit floor less
        return less ++ others

def quickSort (before : α → α → Bool) (elements : List α) : Option (List α) :=
  sortByParting before (2 * elements.length.log2) none elements

def sortLong (before : α → α → Bool) (elements : List α) : Option (List α) :=
  sortByRuns before (quickSort before) (elements.length ≤ 2 * shortLength) elements

def insertionLength : Nat :=
  20

def sortOrBreak (before : α → α → Bool) (elements : List α) : Option (List α) :=
  if elements.length ≤ insertionLength then some (stableSort before elements)
  else sortLong before elements

theorem partAround_perm (goesLeft : α → Bool) (place : Nat) (placeGoesLeft : Bool)
    (elements : List α) :
    ((partAround goesLeft place placeGoesLeft elements).1 ++
      (partAround goesLeft place placeGoesLeft elements).2).Perm elements := by
  simp only [partAround, List.partition_eq_filter_filter]
  rw [← List.map_append]
  exact ((List.filter_append_perm _ _).map _).trans (by simp)

theorem sortByParting_perm {before : α → α → Bool} {limit : Nat} {floor : Option α}
    {elements sorted : List α}
    (found : sortByParting before limit floor elements = some sorted) : sorted.Perm elements := by
  induction limit generalizing floor elements sorted with
  | zero =>
    cases elements with
    | nil =>
      cases found
      exact List.Perm.refl _
    | cons head rest =>
      unfold sortByParting at found
      split at found
      · exact sortShort_perm found
      · refine sortByRuns_perm ?_ found
        intro elements sorted same
        rw [Option.some.inj same]
  | succ limit ih =>
    cases elements with
    | nil =>
      cases found
      exact List.Perm.refl _
    | cons head rest =>
      unfold sortByParting at found
      dsimp only at found
      split at found
      · exact sortShort_perm found
      · split at found
        · obtain ⟨greater, greaterEq, whole⟩ := Option.map_eq_some_iff.mp found
          rw [← whole]
          exact ((ih greaterEq).append_left _).trans (partAround_perm _ _ _ _)
        · simp only [Option.bind_eq_bind, Option.bind_eq_some_iff, Option.pure_def] at found
          obtain ⟨others, othersEq, less, lessEq, whole⟩ := found
          rw [← Option.some.inj whole]
          exact ((ih lessEq).append (ih othersEq)).trans (partAround_perm _ _ _ _)

theorem quickSort_perm {before : α → α → Bool} {elements sorted : List α}
    (found : quickSort before elements = some sorted) : sorted.Perm elements :=
  sortByParting_perm found

theorem sortLong_perm {before : α → α → Bool} {elements sorted : List α}
    (found : sortLong before elements = some sorted) : sorted.Perm elements :=
  sortByRuns_perm (fun _ _ => quickSort_perm) found

theorem sortOrBreak_perm {before : α → α → Bool} {elements sorted : List α}
    (found : sortOrBreak before elements = some sorted) : sorted.Perm elements := by
  unfold sortOrBreak at found
  split at found
  · rw [← Option.some.inj found]
    exact stableSort_perm before elements
  · exact sortLong_perm found

end FederatedSearch
