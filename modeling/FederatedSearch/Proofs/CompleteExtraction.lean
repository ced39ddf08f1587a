import FederatedSearch.Proofs.PartedQueries

/-! What is left of a query once the operands that other cores own are taken out of it. The operands
are taken out as they stand, and what is kept is put together with the operands of each "all of"
among it. So an operand may come to light that a core owns, where one of several owners was kept. -/

namespace FederatedSearch

namespace Expression

/-! Operands that are all there is to take out of a query -/

theorem sum_sizeOf_lt (queries : List Expression) :
    (queries.map sizeOf).sum < sizeOf queries := by
  induction queries with
  | nil => simp
  | cons query queries ih =>
      rw [List.map_cons, List.sum_cons, List.cons.sizeOf_spec]
      omega

theorem sum_sizeOf_conjuncts_lt {query : Expression} (isAll : query.isAll = true) :
    (query.conjuncts.map sizeOf).sum < sizeOf query := by
  cases query with
  | all operands =>
      have smaller := sum_sizeOf_lt operands
      rw [conjuncts, all.sizeOf_spec]
      omega
  | clause leaf => cases isAll
  | any operands => cases isAll
  | not operand => cases isAll

/-- Taking out operands makes the queries smaller by each "all of" that is opened. -/
theorem sum_sizeOf_flatMap_le (queries : List Expression) :
    ((queries.flatMap conjuncts).map sizeOf).sum + (queries.filter isAll).length ≤
      (queries.map sizeOf).sum := by
  induction queries with
  | nil => simp
  | cons query queries ih =>
      rw [List.flatMap_cons, List.map_append, List.sum_append, List.map_cons, List.sum_cons]
      by_cases isAll : query.isAll = true
      · have smaller := sum_sizeOf_conjuncts_lt isAll
        rw [List.filter_cons_of_pos isAll, List.length_cons]
        omega
      · have itself := conjuncts_of_isAll (Bool.eq_false_of_not_eq_true isAll)
        rw [List.filter_cons_of_neg isAll, itself, List.map_singleton, List.sum_singleton]
        omega

theorem flatMap_conjuncts_eq_self_iff {queries : List Expression} :
    queries.flatMap conjuncts = queries ↔ ∀ query ∈ queries, query.isAll = false := by
  constructor
  · intro same query member
    have smaller := sum_sizeOf_flatMap_le queries
    rw [same] at smaller
    have none : queries.filter isAll = [] := List.length_eq_zero_iff.mp (by omega)
    exact Bool.eq_false_of_not_eq_true (List.filter_eq_nil_iff.mp none query member)
  · intro flat
    exact flatMap_of_flat fun query member => conjuncts_of_isAll (flat query member)

theorem allOf_cases {queries : List Expression} {whole : Expression}
    (found : allOf queries = some whole) : queries.flatMap conjuncts = [whole] ∨
      2 ≤ (queries.flatMap conjuncts).length ∧ whole = .all (queries.flatMap conjuncts) := by
  unfold allOf at found
  split at found
  next => cases found
  next only listed => exact Or.inl (Option.some.inj found ▸ listed)
  next empty single =>
      refine Or.inr ⟨?_, (Option.some.inj found).symm⟩
      match listed : queries.flatMap conjuncts with
      | [] => exact absurd listed empty
      | [only] => exact absurd listed (single only)
      | _ :: _ :: _ => simp

def IsFlat (query : Expression) : Prop :=
  query.isAll = true →
    2 ≤ query.conjuncts.length ∧ ∀ operand ∈ query.conjuncts, operand.isAll = false

theorem isFlat_of_isAll {query : Expression} (other : query.isAll = false) : query.IsFlat := by
  intro isAll
  rw [other] at isAll
  cases isAll

theorem allOf_conjuncts_iff {query : Expression} :
    allOf query.conjuncts = some query ↔ query.IsFlat := by
  cases isAll : query.isAll with
  | false =>
      have itself := conjuncts_of_isAll isAll
      have whole : allOf query.conjuncts = some query := by
        simp [allOf, itself]
      exact iff_of_true whole (isFlat_of_isAll isAll)
  | true =>
      obtain ⟨operands, rfl⟩ : ∃ operands, query = .all operands := by
        cases query with
        | all operands => exact ⟨operands, rfl⟩
        | clause leaf => cases isAll
        | any operands => cases isAll
        | not operand => cases isAll
      constructor
      · intro found _
        rcases allOf_cases found with single | ⟨several, whole⟩
        · have smaller := sum_sizeOf_flatMap_le operands
          have within := sum_sizeOf_lt operands
          rw [conjuncts] at single
          rw [single, List.map_singleton, List.sum_singleton, all.sizeOf_spec] at smaller
          omega
        · rw [conjuncts, all.injEq] at whole
          rw [conjuncts, ← whole] at several
          exact ⟨several, flatMap_conjuncts_eq_self_iff.mp whole.symm⟩
      · intro flat
        obtain ⟨several, each⟩ := flat rfl
        have same := flatMap_conjuncts_eq_self_iff.mpr each
        rw [conjuncts] at several same ⊢
        have nonempty : operands.flatMap conjuncts ≠ [] := by
          rw [same]
          exact List.length_pos_iff.mp (by omega)
        rw [allOf_eq_some nonempty, conjunction_eq, joined_of_several (by rwa [same]), same]

/-- What is put together of some queries has their operands, or those of the only one there is. -/
theorem conjuncts_of_allOf {queries : List Expression} {whole : Expression}
    (found : allOf queries = some whole) : whole.conjuncts = queries.flatMap conjuncts ∨
      ∃ operands, queries.flatMap conjuncts = [.all operands] ∧ whole = .all operands := by
  rcases allOf_cases found with single | ⟨-, rfl⟩
  · cases whole with
    | all operands => exact Or.inr ⟨operands, single, rfl⟩
    | clause leaf => exact Or.inl single.symm
    | any operands => exact Or.inl single.symm
    | not operand => exact Or.inl single.symm
  · exact Or.inl rfl

theorem exists_owned_conjunct {cores : SortedSet String} {resultsCore core : String}
    {query : Expression} (owned : query.owner? cores resultsCore = some core) :
    ∃ operand ∈ query.conjuncts, operand.owner? cores resultsCore = some core := by
  obtain ⟨⟨isOther, isKnown, nonempty, each⟩, plain⟩ := owner?_eq_some_iff.mp owned
  rw [← flatMap_clauses_conjuncts] at nonempty each
  obtain ⟨leaf, member⟩ := List.exists_mem_of_ne_nil _ nonempty
  obtain ⟨operand, inQuery, inOperand⟩ := List.mem_flatMap.mp member
  refine ⟨operand, inQuery, owner?_eq_some_iff.mpr ⟨⟨isOther, isKnown, ?_, ?_⟩, plain⟩⟩
  · exact List.ne_nil_of_mem inOperand
  · intro other inOperand
    exact each other (List.mem_flatMap.mpr ⟨operand, inQuery, inOperand⟩)

end Expression

namespace Extraction

open Expression

variable {cores : SortedSet String} {resultsCore : String} {query : Expression}

def IsComplete (cores : SortedSet String) (resultsCore : String) (extraction : Extraction) : Prop :=
  ∀ rest ∈ extraction.query, ∀ operand ∈ rest.conjuncts, operand.owner? cores resultsCore = none

/-- No core owns an operand of an operand that is kept. If all that is kept is one operand of one
operand, that is opened as well. -/
def HidesNone (cores : SortedSet String) (resultsCore : String) (kept : List Expression) : Prop :=
  (∀ operand ∈ kept, ∀ inner ∈ operand.conjuncts, inner.owner? cores resultsCore = none) ∧
    ∀ inners, kept.flatMap conjuncts = [.all inners] →
      ∀ inner ∈ inners, inner.owner? cores resultsCore = none

theorem isComplete_iff : (ofQuery cores resultsCore query).IsComplete cores resultsCore ↔
    HidesNone cores resultsCore (operandsKept cores resultsCore query.conjuncts) := by
  change (∀ rest ∈ allOf (operandsKept cores resultsCore query.conjuncts), _) ↔ _
  generalize operandsKept cores resultsCore query.conjuncts = kept
  constructor
  · intro complete
    have ofParts : ∀ inner ∈ kept.flatMap conjuncts, inner.owner? cores resultsCore = none := by
      intro inner member
      have found := allOf_eq_some (List.ne_nil_of_mem member)
      rcases conjuncts_of_allOf found with same | ⟨operands, single, whole⟩
      · exact complete _ found inner (same ▸ member)
      · rw [single] at member
        obtain rfl := List.mem_singleton.mp member
        by_contra owned
        obtain ⟨core, isOwner⟩ := Option.ne_none_iff_exists'.mp owned
        obtain ⟨operand, inQuery, ofOperand⟩ := exists_owned_conjunct isOwner
        rw [← whole] at inQuery
        rw [complete _ found operand inQuery] at ofOperand
        cases ofOperand
    refine ⟨fun operand inKept inner inOperand =>
      ofParts inner (List.mem_flatMap.mpr ⟨operand, inKept, inOperand⟩), ?_⟩
    intro inners single inner member
    have found : allOf kept = some (.all inners) := by
      simp [allOf, single]
    exact complete _ found inner member
  · rintro ⟨ofParts, ofInners⟩ rest found operand member
    rcases conjuncts_of_allOf found with same | ⟨operands, single, rfl⟩
    · rw [same] at member
      obtain ⟨outer, inKept, inOuter⟩ := List.mem_flatMap.mp member
      exact ofParts outer inKept operand inOuter
    · exact ofInners operands single operand member

/-! Taking out once more -/

theorem filters_eq_empty_iff : (ofQuery cores resultsCore query).filters = SortedMap.empty ↔
    ∀ operand ∈ query.conjuncts, operand.owner? cores resultsCore = none := by
  change filtersOf cores resultsCore query.conjuncts = SortedMap.empty ↔ _
  constructor
  · intro none operand member
    by_contra owned
    obtain ⟨core, isOwner⟩ := Option.ne_none_iff_exists'.mp owned
    have moved := map_getD_filtersOf cores resultsCore query.conjuncts core
    rw [none] at moved
    have found : operand ∈ query.conjuncts.filter fun operand =>
        operand.owner? cores resultsCore = some core :=
      List.mem_filter.mpr ⟨member, by simpa using isOwner⟩
    rw [← moved] at found
    cases found
  · intro unowned
    have nothing : (query.conjuncts.filterMap fun operand =>
        (operand.owner? cores resultsCore).map fun core =>
          (core, operand.mapIndexes (unqualifiedIndex core))) = [] := by
      rw [List.filterMap_eq_nil_iff]
      intro operand member
      rw [unowned operand member, Option.map_none]
    rw [Translator.filtersOf_eq_grouped, nothing]
    rfl

theorem ofQuery_eq_self_iff :
    ofQuery cores resultsCore query = ⟨some query, SortedMap.empty⟩ ↔
      (∀ operand ∈ query.conjuncts, operand.owner? cores resultsCore = none) ∧ query.IsFlat := by
  have asKept (unowned : ∀ operand ∈ query.conjuncts, operand.owner? cores resultsCore = none) :
      operandsKept cores resultsCore query.conjuncts = query.conjuncts := by
    rw [operandsKept, List.filter_eq_self]
    intro operand member
    rw [unowned operand member, Option.isNone_none]
  constructor
  · intro same
    have unowned := filters_eq_empty_iff.mp (congrArg Extraction.filters same)
    have whole := congrArg Extraction.query same
    change allOf (operandsKept cores resultsCore query.conjuncts) = some query at whole
    rw [asKept unowned] at whole
    exact ⟨unowned, allOf_conjuncts_iff.mp whole⟩
  · rintro ⟨unowned, flat⟩
    have none := filters_eq_empty_iff.mpr unowned
    change filtersOf cores resultsCore query.conjuncts = SortedMap.empty at none
    rw [ofQuery, asKept unowned, allOf_conjuncts_iff.mpr flat, none]

section Flat

variable (flat : ∀ operand ∈ query.conjuncts, operand.isAll = false)

include flat

theorem flatMap_operandsKept :
    (operandsKept cores resultsCore query.conjuncts).flatMap conjuncts =
      operandsKept cores resultsCore query.conjuncts :=
  flatMap_conjuncts_eq_self_iff.mpr fun operand member =>
    flat operand (List.mem_of_mem_filter member)

theorem isComplete_of_flat : (ofQuery cores resultsCore query).IsComplete cores resultsCore := by
  rw [isComplete_iff]
  constructor
  · intro operand member inner inOperand
    obtain ⟨inQuery, unowned⟩ := List.mem_filter.mp member
    rw [conjuncts_of_isAll (flat operand inQuery), List.mem_singleton] at inOperand
    rw [inOperand]
    exact Option.isNone_iff_eq_none.mp unowned
  · intro inners single
    rw [flatMap_operandsKept flat] at single
    have isOperand : Expression.all inners ∈ query.conjuncts := by
      have inKept : Expression.all inners ∈ operandsKept cores resultsCore query.conjuncts := by
        rw [single]
        exact List.mem_singleton_self _
      exact List.mem_of_mem_filter inKept
    have other := flat _ isOperand
    cases other

theorem isFlat_of_flat : ∀ rest ∈ (ofQuery cores resultsCore query).query, rest.IsFlat := by
  intro rest found
  have kept : ∀ operand ∈ operandsKept cores resultsCore query.conjuncts,
      operand.isAll = false := fun operand member => flat operand (List.mem_of_mem_filter member)
  rcases allOf_cases found with single | ⟨several, rfl⟩
  · rw [flatMap_operandsKept flat] at single
    refine isFlat_of_isAll (kept rest ?_)
    rw [single]
    exact List.mem_singleton_self rest
  · rw [flatMap_operandsKept flat] at several ⊢
    intro _
    exact ⟨several, kept⟩

end Flat

/-- Nothing that a core owns is left at the top of the query exactly if none was hidden in what is
kept. Exactly then taking out once more finds nothing; it also gives the same query exactly if
that is flat besides. Both hold if no operand of the query is an "all of", as in all that is read. -/
theorem complete_iff (cores : SortedSet String) (resultsCore : String) (query : Expression) :
    let extraction := ofQuery cores resultsCore query
    (extraction.IsComplete cores resultsCore ↔
      HidesNone cores resultsCore (operandsKept cores resultsCore query.conjuncts)) ∧
    (extraction.IsComplete cores resultsCore ↔
      ∀ rest ∈ extraction.query, (ofQuery cores resultsCore rest).filters = SortedMap.empty) ∧
    (∀ rest ∈ extraction.query,
      (ofQuery cores resultsCore rest = ⟨some rest, SortedMap.empty⟩ ↔
        extraction.IsComplete cores resultsCore ∧ rest.IsFlat)) ∧
    ((∃ text, parse text = .ok query) → ∀ operand ∈ query.conjuncts, operand.isAll = false) ∧
    ((∀ operand ∈ query.conjuncts, operand.isAll = false) →
      extraction.IsComplete cores resultsCore ∧
      ∀ rest ∈ extraction.query,
        ofQuery cores resultsCore rest = ⟨some rest, SortedMap.empty⟩) := by
  intro extraction
  have ofRest (rest : Expression) (isRest : rest ∈ extraction.query) :
      extraction.IsComplete cores resultsCore ↔
        ∀ operand ∈ rest.conjuncts, operand.owner? cores resultsCore = none := by
    constructor
    · intro complete
      exact complete rest isRest
    · intro unowned other isOther
      obtain rfl := Option.some.inj (isRest.symm.trans isOther)
      exact unowned
  refine ⟨isComplete_iff, ?again, ?same, ?read, ?flat⟩
  case again =>
      constructor
      · intro complete rest isRest
        exact filters_eq_empty_iff.mpr (complete rest isRest)
      · intro again rest isRest
        exact filters_eq_empty_iff.mp (again rest isRest)
  case same =>
      intro rest isRest
      rw [ofQuery_eq_self_iff, ofRest rest isRest]
  case read =>
      rintro ⟨text, parsed⟩
      obtain ⟨first, others, listed, -, flat, -⟩ := (isCanonical_of_parse parsed).conjuncts
      rwa [listed]
  case flat =>
      intro flat
      have complete : extraction.IsComplete cores resultsCore := isComplete_of_flat flat
      refine ⟨complete, ?_⟩
      intro rest isRest
      exact ofQuery_eq_self_iff.mpr ⟨complete rest isRest, isFlat_of_flat flat rest isRest⟩

def nestedOwners : Expression :=
  .all [.all [.ofField "B.x" "1", .ofField "C.y" "2"], .ofTerm "d"]

/-- The operand of two owners is kept, since no core owns it. Put together with the rest it is two
operands that cores own. -/
theorem nestedOwners_left :
    let cores := SortedSet.ofList ["A", "B", "C"]
    let rest : Expression := .all [.ofField "B.x" "1", .ofField "C.y" "2", .ofTerm "d"]
    ofQuery cores "A" nestedOwners = ⟨some rest, SortedMap.empty⟩ ∧
      ¬ (ofQuery cores "A" nestedOwners).IsComplete cores "A" ∧
      ofQuery cores "A" rest = ⟨some (.ofTerm "d"),
        SortedMap.ofList [("B", [.ofField "x" "1"]), ("C", [.ofField "y" "2"])]⟩ := by
  intro cores rest
  have left : ofQuery cores "A" nestedOwners = ⟨some rest, SortedMap.empty⟩ := by rfl
  refine ⟨left, ?_, by rfl⟩
  intro complete
  have unowned := complete rest (by rw [left]; rfl) (.ofField "B.x" "1") (by simp [rest, conjuncts])
  have owned : (Expression.ofField "B.x" "1").owner? cores "A" = some "B" := by rfl
  rw [owned] at unowned
  cases unowned

end Extraction

end FederatedSearch
