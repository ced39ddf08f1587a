/-! Comparisons that are consistent on some values: they rank the values on a line, some of them
perhaps level. -/

namespace FederatedSearch

variable {α : Type}

def IsPreorderOn (compare : α → α → Ordering) (values : List α) : Prop :=
  (∀ first ∈ values, ∀ second ∈ values, compare first second = (compare second first).swap) ∧
    ∀ first ∈ values, ∀ second ∈ values, ∀ third ∈ values, compare first second ≠ .gt →
      compare second third ≠ .gt → compare first third ≠ .gt

def countBelow (compare : α → α → Ordering) (values : List α) (value : α) : Nat :=
  values.countP fun other => compare other value == .lt

def comparesByCount (compare : α → α → Ordering) (values : List α) : Bool :=
  let counted := values.map fun value => (value, countBelow compare values value)
  counted.all fun (first, below) =>
    counted.all fun (second, below') => compare first second == Ord.compare below below'

namespace IsPreorderOn

variable {compare : α → α → Ordering} {values : List α} {first second third : α}

theorem refl (consistent : IsPreorderOn compare values) (inFirst : first ∈ values) :
    compare first first = .eq := by
  have same := consistent.1 first inFirst first inFirst
  cases found : compare first first with
  | eq => rfl
  | lt =>
    rw [found] at same
    exact absurd same (by decide)
  | gt =>
    rw [found] at same
    exact absurd same (by decide)

theorem lt_of_lt_of_ne_gt (consistent : IsPreorderOn compare values) (inFirst : first ∈ values)
    (inSecond : second ∈ values) (inThird : third ∈ values) (below : compare first second = .lt)
    (notAbove : compare second third ≠ .gt) : compare first third = .lt := by
  have reached := consistent.2 first inFirst second inSecond third inThird (by simp [below]) notAbove
  cases found : compare first third with
  | lt => rfl
  | gt => exact absurd found reached
  | eq =>
    have back : compare third first ≠ .gt := by
      rw [consistent.1 third inThird first inFirst, found]
      simp
    have round := consistent.2 second inSecond third inThird first inFirst notAbove back
    rw [consistent.1 second inSecond first inFirst, below] at round
    exact absurd rfl round

end IsPreorderOn

theorem countP_lt_countP {holds holds' : α → Bool} {values : List α} {value : α}
    (inValues : value ∈ values) (implied : ∀ other ∈ values, holds other → holds' other)
    (not : holds value = false) (does : holds' value = true) :
    values.countP holds < values.countP holds' := by
  induction values with
  | nil => cases inValues
  | cons head rest ih =>
    have remaining : rest.countP holds ≤ rest.countP holds' :=
      List.countP_mono_left fun other inRest => implied other (List.mem_cons_of_mem head inRest)
    rcases List.mem_cons.mp inValues with same | inRest
    · subst same
      simp only [List.countP_cons, not, does]
      simp; omega
    · have fewer := ih inRest fun other inRest => implied other (List.mem_cons_of_mem head inRest)
      have step := implied head List.mem_cons_self
      simp only [List.countP_cons]
      cases headHolds : holds head
      · simp; omega
      · simp [step headHolds]; omega

theorem countBelow_lt {compare : α → α → Ordering} {values : List α} {first second : α}
    (consistent : IsPreorderOn compare values) (inFirst : first ∈ values)
    (inSecond : second ∈ values) (below : compare first second = .lt) :
    countBelow compare values first < countBelow compare values second :=
  countP_lt_countP inFirst
    (fun other inOther belowFirst => beq_iff_eq.mpr
      (consistent.lt_of_lt_of_ne_gt inOther inFirst inSecond (eq_of_beq belowFirst)
        (by simp [below])))
    (by simp [consistent.refl inFirst]) (by simp [below])

theorem countBelow_le {compare : α → α → Ordering} {values : List α} {first second : α}
    (consistent : IsPreorderOn compare values) (inFirst : first ∈ values)
    (inSecond : second ∈ values) (notAbove : compare first second ≠ .gt) :
    countBelow compare values first ≤ countBelow compare values second :=
  List.countP_mono_left fun _ inOther belowFirst => beq_iff_eq.mpr
    (consistent.lt_of_lt_of_ne_gt inOther inFirst inSecond (eq_of_beq belowFirst) notAbove)

/-- Values compare as their counts do exactly where the comparison is consistent. -/
theorem comparesByCount_iff (compare : α → α → Ordering) (values : List α) :
    comparesByCount compare values = true ↔ IsPreorderOn compare values := by
  simp only [comparesByCount, List.all_map, List.all_eq_true, Function.comp_apply, beq_iff_eq]
  constructor
  · intro counted
    refine ⟨?_, ?_⟩
    · intro first inFirst second inSecond
      rw [counted first inFirst second inSecond, counted second inSecond first inFirst]
      exact (Nat.compare_swap _ _).symm
    · intro first inFirst second inSecond third inThird
      rw [counted first inFirst second inSecond, counted second inSecond third inThird,
        counted first inFirst third inThird]
      simp only [ne_eq, Nat.compare_eq_gt]
      omega
  · intro consistent first inFirst second inSecond
    have back := consistent.1 second inSecond first inFirst
    cases found : compare first second with
    | lt => exact (Nat.compare_eq_lt.mpr (countBelow_lt consistent inFirst inSecond found)).symm
    | gt =>
      rw [found] at back
      exact (Nat.compare_eq_gt.mpr (countBelow_lt consistent inSecond inFirst back)).symm
    | eq =>
      rw [found] at back
      have upper := countBelow_le consistent inFirst inSecond (by simp [found])
      have lower := countBelow_le consistent inSecond inFirst (by simp [back])
      exact (Nat.compare_eq_eq.mpr (Nat.le_antisymm upper lower)).symm

end FederatedSearch
