import FederatedSearch.Federation.Execution

/-! The key sets of the first phase: those of joins one by one, those of unites as one. With one
join at most it does not matter in which order the cores are asked. -/

namespace FederatedSearch

theorem mem_keysFor {purpose : Purpose} {collected : List PurposedKeys} {keys : SortedSet String} :
    keys ∈ keysFor purpose collected ↔ (purpose, keys) ∈ collected := by
  unfold keysFor
  rw [List.mem_filterMap]
  constructor
  · rintro ⟨⟨other, otherKeys⟩, member, kept⟩
    by_cases same : other = purpose
    · simp only [same, if_true, Option.some.injEq] at kept
      rw [← same, ← kept]
      exact member
    · simp [same] at kept
  · intro member
    exact ⟨(purpose, keys), member, by simp⟩

def unionOf (sets : List (SortedSet String)) : SortedSet String :=
  sets.foldl SortedSet.union SortedSet.empty

theorem contains_foldl_union {sets : List (SortedSet String)} {start : SortedSet String}
    {key : String} : (sets.foldl SortedSet.union start).contains key = true ↔
      start.contains key = true ∨ ∃ set ∈ sets, set.contains key = true := by
  induction sets generalizing start with
  | nil => simp
  | cons head rest ih =>
      rw [List.foldl_cons, ih, SortedSet.contains_union, or_assoc]
      simp

theorem contains_unionOf {sets : List (SortedSet String)} {key : String} :
    (unionOf sets).contains key = true ↔ ∃ set ∈ sets, set.contains key = true := by
  unfold unionOf
  rw [contains_foldl_union]
  simp

theorem combineKeys_eq (collected : List PurposedKeys) :
    combineKeys collected = keysFor .join collected ++
      if (keysFor .unite collected).isEmpty then [] else [unionOf (keysFor .unite collected)] := by
  unfold combineKeys
  cases found : keysFor .unite collected with
  | nil => simp
  | cons first others =>
      have started : SortedSet.empty.union first = first := by
        refine SortedSet.ext_contains fun key => ?_
        rw [Bool.eq_iff_iff, SortedSet.contains_union]
        simp
      simp [unionOf, started]

end FederatedSearch
