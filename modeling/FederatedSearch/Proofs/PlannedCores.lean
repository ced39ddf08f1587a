import FederatedSearch.Codec.Composed
import FederatedSearch.Codec.Expression
import FederatedSearch.Proofs.Counterparts
import Mathlib.Data.Finset.Card

/-! Which cores a plan names: the results core and every other core that is asked for anything. A
core with a bundle is matched with the results core, or there is no plan. Nothing of the kind holds
of the cores of unites, and how many cores there are is counted in bundles. -/

namespace FederatedSearch

variable {Q : Type} {query : ComposedQuery Q} {plan : JoinPlan}

namespace ComposedQuery

def Asks (query : ComposedQuery Q) (core : String) : Prop :=
  query.constrains core = true ∨ query.facetsFor core ≠ [] ∨ ∃ unite ∈ query.unites, unite.core = core

def IsMatched (query : ComposedQuery Q) (core other : String) : Prop :=
  (query.keyNames? core other).isSome = true

theorem mem_others {results core : String} (isSet : query.resultsCore = some results) :
    core ∈ query.cores.drop 1 ↔ core ∈ query.outline.registered ∧ core ≠ results := by
  rw [cores_of_resultsCore isSet, List.drop_one, List.tail_cons, List.mem_filter, decide_eq_true_iff]

end ComposedQuery

namespace JoinPlan

theorem registered_of_coreHas {property : Bundle Q → Bool} {core : String}
    (has : coreHas query property core = true) : core ∈ query.outline.registered := by
  unfold coreHas at has
  cases found : query.bundle? core with
  | none =>
      rw [found] at has
      cases has
  | some bundle =>
      have isCore : bundle.core = core := by simpa using List.find?_some found
      rw [← isCore]
      exact List.mem_map_of_mem (List.mem_of_find?_eq_some found)

theorem joinKeys_matched {results : String} {before after : SortedMap String String}
    {others : List String} (found : joinKeys query results before others = .ok after) :
    ∀ core ∈ others, query.IsMatched results core := by
  induction others generalizing before with
  | nil => simp
  | cons head rest ih =>
      unfold joinKeys at found
      split at found
      · cases found
      next keyNames =>
        have matched : query.IsMatched results head := by simp [ComposedQuery.IsMatched, keyNames]
        exact List.forall_mem_cons.mpr ⟨matched, ih found⟩

theorem nodup_foldl_addCore {cores added : List String} (distinct : cores.Nodup) :
    (added.foldl addCore cores).Nodup := by
  induction added generalizing cores with
  | nil => exact distinct
  | cons core rest ih => exact ih (Outline.nodup_addCore distinct core)

theorem nodup_cores (plan : JoinPlan) : plan.cores.Nodup :=
  nodup_foldl_addCore (by simp)

/-- A core other than that of the results is in the plan just if something is asked of it. -/
theorem mem_cores_iff_asks (planned : ofQuery query = .ok plan) {core : String}
    (other : core ≠ plan.resultsCore) : core ∈ plan.cores ↔ query.Asks core := by
  obtain ⟨results, keys, isSet, -, rfl⟩ := ofQuery_ok planned
  rw [mem_cores, ComposedQuery.Asks, ← coreHas_isConstrained]
  have facets : query.facetsFor core ≠ [] ↔ coreHas query (!·.facets.isEmpty) core = true := by
    rw [coreHas_facets]
    simp
  rw [facets]
  simp only [List.mem_filter, ComposedQuery.mem_others isSet, List.mem_map]
  constructor
  · rintro (same | ⟨_, has⟩ | ⟨_, has⟩ | united)
    · exact absurd same other
    · exact Or.inl has
    · exact Or.inr (Or.inl has)
    · exact Or.inr (Or.inr united)
  · rintro (has | has | united)
    · exact Or.inr (Or.inl ⟨⟨registered_of_coreHas has, other⟩, has⟩)
    · exact Or.inr (Or.inr (Or.inl ⟨⟨registered_of_coreHas has, other⟩, has⟩))
    · exact Or.inr (Or.inr (Or.inr united))

theorem other_or_united (planned : ofQuery query = .ok plan) {core : String}
    (member : core ∈ plan.cores) (apart : core ≠ plan.resultsCore) :
    core ∈ query.cores.drop 1 ∨ ∃ unite ∈ query.unites, unite.core = core := by
  obtain ⟨results, keys, isSet, -, rfl⟩ := ofQuery_ok planned
  rcases mem_cores.mp member with same | joined | counted | united
  · exact absurd same apart
  · exact Or.inl (List.mem_filter.mp joined).1
  · exact Or.inl (List.mem_filter.mp counted).1
  · exact Or.inr (List.mem_map.mp united)

theorem matched_of_other (planned : ofQuery query = .ok plan) {core : String}
    (other : core ∈ query.cores.drop 1) : query.IsMatched plan.resultsCore core := by
  obtain ⟨results, keys, isSet, keyed, rfl⟩ := ofQuery_ok planned
  exact joinKeys_matched keyed core other

end JoinPlan

theorem length_le_two_iff {first : String} {names : List String} (distinct : names.Nodup)
    (member : first ∈ names) : names.length ≤ 2 ↔
      ∀ one ∈ names, ∀ other ∈ names, one ≠ first → other ≠ first → one = other := by
  have counted : names.length ≤ 2 ↔ (names.toFinset.erase first).card ≤ 1 := by
    rw [Finset.card_erase_of_mem (List.mem_toFinset.mpr member),
      List.toFinset_card_of_nodup distinct]
    omega
  rw [counted, Finset.card_le_one]
  simp only [Finset.mem_erase, List.mem_toFinset]
  constructor
  · intro same one inNames other otherIn oneApart otherApart
    exact same one ⟨oneApart, inNames⟩ other ⟨otherApart, otherIn⟩
  · rintro same one ⟨oneApart, inNames⟩ other ⟨otherApart, otherIn⟩
    exact same one inNames other otherIn oneApart otherApart

def JoinPlan.IsMatchedPair (plan : JoinPlan) (query : ComposedQuery Q) : Prop :=
  plan.cores.length ≤ maxCores ∧
    ∀ core ∈ plan.cores, core ≠ plan.resultsCore → query.IsMatched plan.resultsCore core

theorem JoinPlan.isMatchedPair_of_asks (planned : JoinPlan.ofQuery query = .ok plan) :
    plan.IsMatchedPair query ↔
      (∀ core other, query.Asks core → query.Asks other → core ≠ plan.resultsCore →
        other ≠ plan.resultsCore → core = other) ∧
      ∀ unite ∈ query.unites, unite.core ≠ plan.resultsCore →
        query.IsMatched plan.resultsCore unite.core := by
  have mem_iff {core : String} (other : core ≠ plan.resultsCore) :=
    mem_cores_iff_asks planned other
  unfold IsMatchedPair
  rw [show maxCores = 2 from rfl, length_le_two_iff plan.nodup_cores plan.resultsCore_mem_cores]
  constructor
  · rintro ⟨same, matched⟩
    refine ⟨?_, ?_⟩
    · intro core other asked otherAsked apart otherApart
      exact same core ((mem_iff apart).mpr asked) other ((mem_iff otherApart).mpr otherAsked) apart
        otherApart
    · intro unite member apart
      have asked : query.Asks unite.core := Or.inr (Or.inr ⟨unite, member, rfl⟩)
      exact matched unite.core ((mem_iff apart).mpr asked) apart
  · rintro ⟨same, united⟩
    refine ⟨?_, ?_⟩
    · intro core member other otherMember apart otherApart
      exact same core other ((mem_iff apart).mp member) ((mem_iff otherApart).mp otherMember) apart
        otherApart
    · intro core member apart
      rcases other_or_united planned member apart with other | ⟨unite, inUnites, rfl⟩
      · exact matched_of_other planned other
      · exact united unite inUnites apart

theorem JoinPlan.isMatchedPair_of_built (built : query.Built) (valid : query.validate = .ok ())
    (planned : JoinPlan.ofQuery query = .ok plan) : plan.IsMatchedPair query := by
  obtain ⟨results, keys, isSet, -, isPlan⟩ := ofQuery_ok planned
  have resultsCore : plan.resultsCore = results := by rw [isPlan]
  rw [isMatchedPair_of_asks planned, resultsCore]
  have asked {core : String} (asks : query.Asks core) (apart : core ≠ results) :
      core ∈ query.cores.drop 1 ∨ ∃ unite ∈ query.unites, unite.core = core := by
    rw [← resultsCore] at apart
    exact other_or_united planned ((mem_cores_iff_asks planned apart).mpr asks) apart
  rcases ComposedQuery.single_or_paired built valid isSet with single | ⟨other, paired⟩
  · rw [single.cores, single.noUnites] at asked
    simp only [List.drop_one, List.tail_cons, List.not_mem_nil, false_or, false_and,
      exists_false] at asked
    exact ⟨fun core _ asks _ apart _ => (asked asks apart).elim, by simp [single.noUnites]⟩
  · have isOther {core : String} (asks : query.Asks core) (apart : core ≠ results) :
        core = other.core := by
      rcases asked asks apart with inOthers | ⟨unite, member, rfl⟩
      · rw [paired.cores] at inOthers
        exact List.mem_singleton.mp inOthers
      · exact (paired.unites unite member).resolve_left apart
    refine ⟨?_, ?_⟩
    · intro core another asks anotherAsks apart anotherApart
      rw [isOther asks apart, isOther anotherAsks anotherApart]
    · intro unite member apart
      rw [isOther (Or.inr (Or.inr ⟨unite, member, rfl⟩)) apart]
      simp [ComposedQuery.IsMatched, paired.keyNames]

/-- The plan of a valid query is for one core or two that are matched just if the query asks
something of one other core at most, and its unites are for cores that are matched with the results
core. That is so for every query that is built by operations, but not for all decoded ones. -/
theorem isMatchedPair_iff (valid : query.validate = .ok ())
    (planned : JoinPlan.ofQuery query = .ok plan) :
    (plan.IsMatchedPair query ↔
      (∀ core other, query.Asks core → query.Asks other → core ≠ plan.resultsCore →
        other ≠ plan.resultsCore → core = other) ∧
      ∀ unite ∈ query.unites, unite.core ≠ plan.resultsCore →
        query.IsMatched plan.resultsCore unite.core) ∧
    (query.Built → plan.IsMatchedPair query) :=
  ⟨JoinPlan.isMatchedPair_of_asks planned,
    fun built => JoinPlan.isMatchedPair_of_built built valid planned⟩

def dutchAuthors : ComposedQuery String :=
  ({} : ComposedQuery String).edited [.setResultsCore "books",
    .addMatch [("books", "author"), ("authors", "name")], .addFilter "authors" "Dutch"]

theorem dutchAuthors_isMatchedPair : ∃ plan, dutchAuthors.validate = .ok () ∧
    JoinPlan.ofQuery dutchAuthors = .ok plan ∧ plan.cores = ["books", "authors"] ∧
    plan.IsMatchedPair dutchAuthors := by
  have built : dutchAuthors.Built := ComposedQuery.Built.empty.edited _
  exact ⟨_, rfl, rfl, rfl, (isMatchedPair_iff rfl rfl).2 built⟩

def unmatchedUnite : Value :=
  .object [("coreQueries", .list [.object [("core", .text "B"),
      ("query", .object [("term", .object [("term", .text "b")])])]]),
    ("matches", .object [("A->B", .list [.text "k", .text "j"])]), ("resultsFrom", .text "A"),
    ("unites", .list [.object [("core", .text "C"), ("keyName", .text "i"),
      ("query", .object [("term", .object [("term", .text "c")])])]])]

def unmatchedUniteQuery : ComposedQuery Expression where
  resultsCore := some "A"
  bundles := [{ core := "B", query := some (.ofTerm "b") }]
  matchings := Matchings.declare SortedMap.empty ("A", "k") ("B", "j")
  unites := [⟨"C", "i", .ofTerm "c"⟩]

theorem unmatchedUnite_planned :
    ComposedQuery.decode Expression.decode unmatchedUnite = .ok unmatchedUniteQuery ∧
    unmatchedUniteQuery.validate = .ok () ∧
    ∃ plan, JoinPlan.ofQuery unmatchedUniteQuery = .ok plan ∧ plan.cores = ["A", "B", "C"] ∧
      maxCores < plan.cores.length ∧ ¬unmatchedUniteQuery.IsMatched "A" "C" :=
  ⟨rfl, rfl, _, rfl, rfl, by decide +kernel, Bool.false_ne_true⟩

end FederatedSearch
