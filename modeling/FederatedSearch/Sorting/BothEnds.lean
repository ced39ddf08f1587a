import FederatedSearch.Sorting.Insertion

/-! Merging two sorted lists from both ends at once, and sorting short lists by it. Taken from the
front and from the back, the elements of each list meet at one point if the order is consistent. If
they would have to be taken twice, or not at all, the order contradicts itself and there is no
merged list. -/

namespace FederatedSearch

variable {α : Type}

def mergeFront (before : α → α → Bool) : Nat → List α → List α → List α × List α × List α
  | count + 1, first :: firsts, second :: seconds =>
    if before second first then
      let (taken, left) := mergeFront before count (first :: firsts) seconds
      (second :: taken, left)
    else
      let (taken, left) := mergeFront before count firsts (second :: seconds)
      (first :: taken, left)
  | _, firsts, seconds => ([], firsts, seconds)

def mergeBothEnds (before : α → α → Bool) (firsts seconds : List α) : Option (List α) :=
  let count := firsts.length
  let (front, firstsAfter, secondsAfter) := mergeFront before count firsts seconds
  let (back, secondsBefore, firstsBefore) :=
    mergeFront (fun second first => before first second) count seconds.reverse firsts.reverse
  if firsts.length ≤ firstsAfter.length + firstsBefore.length ∧
      seconds.length ≤ secondsAfter.length + secondsBefore.length then
    let middle :=
      firstsAfter.take (firstsAfter.length + firstsBefore.length - firsts.length) ++
        secondsAfter.take (secondsAfter.length + secondsBefore.length - seconds.length)
    some (front ++ middle ++ back.reverse)
  else none

def sortFour (before : α → α → Bool) (one two three four : α) : List α :=
  let (low, high) := if before two one then (two, one) else (one, two)
  let (lower, higher) := if before four three then (four, three) else (three, four)
  let second := before lower low
  let first := before higher high
  let least := if second then lower else low
  let greatest := if first then high else higher
  let left := if second then low else if first then lower else high
  let right := if first then higher else if second then high else lower
  if before right left then [least, right, left, greatest] else [least, left, right, greatest]

def sortStart (before : α → α → Bool) (length : Nat) (half : List α) :
    Option (List α × List α) :=
  match half with
  | one :: two :: three :: four :: rest =>
    if length < 8 then some ([one], two :: three :: four :: rest)
    else
      match rest with
      | five :: six :: seven :: eight :: rest' =>
        if length < 16 then some (sortFour before one two three four, rest)
        else
          (mergeBothEnds before (sortFour before one two three four)
            (sortFour before five six seven eight)).map (·, rest')
      | _ => some (sortFour before one two three four, rest)
  | _ => some (half.take 1, half.drop 1)

def sortHalf (before : α → α → Bool) (length : Nat) (half : List α) : Option (List α) := do
  let (sorted, rest) ← sortStart before length half
  return insertAll before sorted rest

def sortShort (before : α → α → Bool) (elements : List α) : Option (List α) :=
  if elements.length < 2 then some elements
  else do
    let half := elements.length / 2
    let firsts ← sortHalf before elements.length (elements.take half)
    let seconds ← sortHalf before elements.length (elements.drop half)
    mergeBothEnds before firsts seconds

theorem mergeFront_parts {before : α → α → Bool} {count : Nat}
    {firsts seconds merged firstsLeft secondsLeft : List α}
    (parted : mergeFront before count firsts seconds = (merged, firstsLeft, secondsLeft)) :
    ∃ firstsTaken secondsTaken, firstsTaken ++ firstsLeft = firsts ∧
      secondsTaken ++ secondsLeft = seconds ∧ merged.Perm (firstsTaken ++ secondsTaken) := by
  fun_induction mergeFront before count firsts seconds generalizing merged with
  | case1 count first firsts second seconds less taken left result ih =>
    cases parted
    obtain ⟨firstsTaken, secondsTaken, whole, whole', same⟩ := ih result
    refine ⟨firstsTaken, second :: secondsTaken, whole, by simp [whole'], ?_⟩
    exact (same.cons second).trans List.perm_middle.symm
  | case2 count first firsts second seconds notLess taken left result ih =>
    cases parted
    obtain ⟨firstsTaken, secondsTaken, whole, whole', same⟩ := ih result
    exact ⟨first :: firstsTaken, secondsTaken, by simp [whole], whole', same.cons first⟩
  | case3 =>
    cases parted
    exact ⟨[], [], rfl, rfl, List.Perm.refl _⟩

theorem append_middle {elements taken left before takenBack : List α}
    (front : taken ++ left = elements) (back : before ++ takenBack = elements)
    (room : elements.length ≤ left.length + before.length) :
    taken ++ left.take (left.length + before.length - elements.length) ++ takenBack =
      elements := by
  have lengths := congrArg List.length front
  have lengths' := congrArg List.length back
  simp only [List.length_append] at lengths lengths'
  have cut : elements.drop before.length = left.drop (before.length - taken.length) := by
    rw [← front, List.drop_append, List.drop_eq_nil_of_le (show taken.length ≤ before.length by omega),
      List.nil_append]
  have rest : elements.drop before.length = takenBack := by simp [← back]
  have same : left.length + before.length - elements.length = before.length - taken.length := by
    omega
  rw [same, ← rest, cut, List.append_assoc, List.take_append_drop, front]

theorem mergeBothEnds_perm {before : α → α → Bool} {firsts seconds merged : List α}
    (found : mergeBothEnds before firsts seconds = some merged) :
    merged.Perm (firsts ++ seconds) := by
  rcases frontParted : mergeFront before firsts.length firsts seconds with
    ⟨front, firstsAfter, secondsAfter⟩
  rcases backParted : mergeFront (fun second first => before first second) firsts.length
    seconds.reverse firsts.reverse with ⟨back, secondsBefore, firstsBefore⟩
  simp only [mergeBothEnds, frontParted, backParted] at found
  split at found
  · rename_i room
    obtain ⟨firstsFront, secondsFront, wholeFirsts, wholeSeconds, frontPerm⟩ :=
      mergeFront_parts frontParted
    obtain ⟨secondsBack, firstsBack, backSeconds, backFirsts, backPerm⟩ :=
      mergeFront_parts backParted
    have middle := append_middle wholeFirsts
      (by rw [← List.reverse_append, backFirsts, List.reverse_reverse])
      (by simpa using room.1)
    have middle' := append_middle wholeSeconds
      (by rw [← List.reverse_append, backSeconds, List.reverse_reverse])
      (by simpa using room.2)
    rw [List.length_reverse] at middle middle'
    classical
    refine List.perm_iff_count.mpr fun element => ?_
    have frontCount := frontPerm.count_eq element
    have backCount := backPerm.count_eq element
    have firstsCount := congrArg (List.count element) middle
    have secondsCount := congrArg (List.count element) middle'
    rw [← Option.some.inj found]
    simp only [List.count_append, List.count_reverse] at *
    omega
  · cases found

theorem sortFour_perm (before : α → α → Bool) (one two three four : α) :
    (sortFour before one two three four).Perm [one, two, three, four] := by
  classical
  refine List.perm_iff_count.mpr fun element => ?_
  unfold sortFour
  cases before two one <;> cases before four three <;>
    simp only [Bool.false_eq_true, ↓reduceIte] <;> (repeat' split) <;>
    simp only [List.count_cons, List.count_nil] <;> omega

theorem sortStart_perm {before : α → α → Bool} {length : Nat} {half sorted rest : List α}
    (found : sortStart before length half = some (sorted, rest)) :
    (sorted ++ rest).Perm half := by
  unfold sortStart at found
  split at found
  · split at found
    · cases found
      exact List.Perm.refl _
    · split at found
      · split at found
        · cases found
          exact (sortFour_perm before _ _ _ _).append_right _
        · obtain ⟨merged, mergedEq, whole⟩ := Option.map_eq_some_iff.mp found
          cases whole
          exact ((mergeBothEnds_perm mergedEq).trans
            ((sortFour_perm before _ _ _ _).append (sortFour_perm before _ _ _ _))).append_right _
      · cases found
        exact (sortFour_perm before _ _ _ _).append_right _
  · cases found
    rw [List.take_append_drop]

theorem sortHalf_perm {before : α → α → Bool} {length : Nat} {half sorted : List α}
    (found : sortHalf before length half = some sorted) : sorted.Perm half := by
  simp only [sortHalf, Option.bind_eq_bind, Option.bind_eq_some_iff, Option.pure_def] at found
  obtain ⟨⟨start, rest⟩, started, inserted⟩ := found
  rw [← Option.some.inj inserted]
  exact (insertAll_perm before start rest).trans (sortStart_perm started)

theorem sortShort_perm {before : α → α → Bool} {elements sorted : List α}
    (found : sortShort before elements = some sorted) : sorted.Perm elements := by
  simp only [sortShort] at found
  split at found
  · rw [Option.some.inj found]
  · simp only [Option.bind_eq_bind, Option.bind_eq_some_iff] at found
    obtain ⟨firsts, sortedFirsts, seconds, sortedSeconds, merged⟩ := found
    have halves := (sortHalf_perm sortedFirsts).append (sortHalf_perm sortedSeconds)
    rw [List.take_append_drop] at halves
    exact (mergeBothEnds_perm merged).trans halves

end FederatedSearch
