import FederatedSearch.Proofs.TextRequests

/-! Composed queries that ask alike. Two of them that name the same cores are valid alike and have
the same plan if they constrain the same of these cores, whatever the queries for each core are; and
if those accept the same documents, the two have the same outcome on stores. -/

namespace FederatedSearch

variable {Q R : Type}

theorem eq_of_perm_of_length_le_one {α : Type} {elements others : List α}
    (perm : elements.Perm others) (few : elements.length ≤ 1) : elements = others := by
  match elements, few with
  | [], _ => exact (List.nil_perm.mp perm).symm
  | [_], _ => exact List.singleton_perm.mp perm

theorem length_filter_ne {cores : List String} {results : String} (distinct : cores.Nodup)
    (member : results ∈ cores) : (cores.filter (· ≠ results)).length + 1 = cores.length := by
  have erased := List.length_erase_add_one member
  rw [distinct.erase_eq_filter] at erased
  simpa [bne, beq_eq_decide] using erased

namespace ComposedQuery

structure SameCores (first : ComposedQuery Q) (second : ComposedQuery R) : Prop where
  resultsCore : first.resultsCore = second.resultsCore
  matchings : first.matchings = second.matchings
  count : first.numberOfCores = second.numberOfCores
  cores : first.numberOfCores ≤ maxCores → first.cores = second.cores

variable {first : ComposedQuery Q} {second : ComposedQuery R}

theorem numberOfCores_eq (query : ComposedQuery Q) :
    query.numberOfCores = query.outline.registered.length := by
  simp [numberOfCores, outline]

theorem SameCores.of_outline (same : first.outline = second.outline) :
    first.SameCores second := by
  have registered : first.bundles.map (·.core) = second.bundles.map (·.core) :=
    congrArg Outline.registered same
  have resultsCore : first.resultsCore = second.resultsCore := congrArg Outline.resultsCore same
  refine ⟨resultsCore, congrArg Outline.matchings same, ?_, fun _ => ?_⟩
  · rw [numberOfCores_eq, numberOfCores_eq, same]
  · unfold ComposedQuery.cores
    rw [registered, resultsCore]

/-- The order in which cores were registered does not matter. -/
theorem SameCores.of_registered {results : String} (firstSet : first.resultsCore = some results)
    (secondSet : second.resultsCore = some results) (matchings : first.matchings = second.matchings)
    (perm : first.outline.registered.Perm second.outline.registered)
    (distinct : first.outline.registered.Nodup) (registered : results ∈ first.outline.registered) :
    first.SameCores second := by
  have count : first.numberOfCores = second.numberOfCores := by
    rw [numberOfCores_eq, numberOfCores_eq, perm.length_eq]
  refine ⟨firstSet.trans secondSet.symm, matchings, count, fun few => ?_⟩
  have others : (first.outline.registered.filter (· ≠ results)).length ≤ 1 := by
    have counted := length_filter_ne distinct registered
    rw [numberOfCores_eq] at few
    unfold maxCores at few
    omega
  rw [cores_of_resultsCore firstSet, cores_of_resultsCore secondSet,
    eq_of_perm_of_length_le_one (perm.filter _) others]

namespace SameCores

variable (same : first.SameCores second)

include same

theorem keyNames? (one other : String) :
    first.keyNames? one other = second.keyNames? one other := by
  unfold ComposedQuery.keyNames?
  rw [same.matchings]

theorem validate : first.validate = second.validate := by
  unfold ComposedQuery.validate
  dsimp only
  rw [← same.resultsCore, ← same.matchings, ← same.count]
  by_cases few : first.numberOfCores ≤ maxCores
  · rw [← same.cores few]
    simp only [same.keyNames?]
  · have many : (first.numberOfCores < 1 || maxCores < first.numberOfCores) = true := by
      simp only [Bool.or_eq_true, decide_eq_true_iff]
      exact Or.inr (Nat.lt_of_not_le few)
    rw [if_pos many, if_pos many]

end SameCores

theorem few_of_valid {query : ComposedQuery Q} (valid : query.validate = .ok ()) :
    query.numberOfCores ≤ maxCores := by
  rw [numberOfCores_eq]
  unfold maxCores
  rcases validate_ok valid with one | ⟨two, -⟩ <;> omega

end ComposedQuery

/-! Plans -/

namespace JoinPlan

variable {first : ComposedQuery Q} {second : ComposedQuery R}

theorem joinKeys_congr
    (keyNames : ∀ one other, first.keyNames? one other = second.keyNames? one other)
    (results : String) (keys : SortedMap String String) (others : List String) :
    joinKeys first results keys others = joinKeys second results keys others := by
  induction others generalizing keys with
  | nil => rfl
  | cons core rest ih =>
      unfold joinKeys
      rw [keyNames]
      cases second.keyNames? results core with
      | none => rfl
      | some found => exact ih _

theorem ofQuery_congr (same : first.SameCores second) (cores : first.cores = second.cores)
    (constrains : ∀ core ∈ first.cores.drop 1, first.constrains core = second.constrains core)
    (facets : ∀ core ∈ first.cores.drop 1, first.facetsFor core = second.facetsFor core)
    (unites : first.unites.map (·.core) = second.unites.map (·.core)) :
    ofQuery first = ofQuery second := by
  unfold ofQuery
  rw [← same.resultsCore, ← cores, ← unites]
  cases first.resultsCore with
  | none => rfl
  | some results =>
      have joined : (first.cores.drop 1).filter (coreHas first (·.isConstrained)) =
          (first.cores.drop 1).filter (coreHas second (·.isConstrained)) := by
        refine List.filter_congr fun core member => ?_
        rw [coreHas_isConstrained, coreHas_isConstrained, constrains core member]
      have counted : (first.cores.drop 1).filter (coreHas first (!·.facets.isEmpty)) =
          (first.cores.drop 1).filter (coreHas second (!·.facets.isEmpty)) := by
        refine List.filter_congr fun core member => ?_
        rw [coreHas_facets, coreHas_facets, facets core member]
      simp only [joinKeys_congr same.keyNames?, joined, counted]

end JoinPlan

theorem Federator.planFor_congr {first : ComposedQuery Q} {second : ComposedQuery R}
    (federator : Federator) (validate : first.validate = second.validate)
    (planned : first.validate = .ok () → JoinPlan.ofQuery first = JoinPlan.ofQuery second) :
    federator.planFor first = federator.planFor second := by
  unfold planFor
  rw [← validate]
  cases valid : first.validate with
  | error failure => rfl
  | ok _ => rw [planned valid]

/-! Requests to stores -/

/-- The two requests ask alike, with the results core `results`. How hits are to be grouped is left
open, which stores do not do. -/
structure ComposedQuery.AsksAlike (first second : ComposedQuery Expression) (results : String) :
    Prop where
  isSet : first.resultsCore = some results
  sameCores : first.SameCores second
  satisfied : ∀ core document, first.Satisfied core document ↔ second.Satisfied core document
  constrains : ∀ core, core ≠ results → first.constrains core = second.constrains core
  facetsFor : ∀ core, first.facetsFor core = second.facetsFor core
  rankQueryFor : ∀ core, first.rankQueryFor core = second.rankQueryFor core
  unites : first.unites = second.unites
  options : ∃ groupingField, second.options = { first.options with groupingField }

namespace ComposedQuery.AsksAlike

variable {first second : ComposedQuery Expression} {results : String}
  (alike : first.AsksAlike second results)

include alike

theorem ne_of_other {core : String} (member : core ∈ first.cores.drop 1) : core ≠ results := by
  rw [cores_of_resultsCore alike.isSet] at member
  simpa using (List.mem_filter.mp member).2

theorem planFor (federator : Federator) : federator.planFor first = federator.planFor second := by
  refine federator.planFor_congr alike.sameCores.validate fun valid => ?_
  have cores := alike.sameCores.cores (few_of_valid valid)
  refine JoinPlan.ofQuery_congr alike.sameCores cores ?_ ?_ ?_
  · exact fun core member => alike.constrains core (alike.ne_of_other member)
  · exact fun core _ => alike.facetsFor core
  · rw [alike.unites]

variable {stores : String → Store} (cores : first.cores = second.cores)

include cores

theorem counterpart? : first.counterpart? = second.counterpart? := by
  unfold ComposedQuery.counterpart?
  simp only [cores, alike.sameCores.keyNames?]

omit cores in
theorem isOther {other : Counterpart} (isCounterpart : first.counterpart? = some other) :
    other.core ≠ results := by
  refine alike.ne_of_other ?_
  unfold ComposedQuery.counterpart? at isCounterpart
  split at isCounterpart
  next one another listed =>
    obtain ⟨_, _, rfl⟩ := Option.map_eq_some_iff.mp isCounterpart
    simp [listed]
  next => cases isCounterpart

theorem joined : first.joined stores results = second.joined stores results := by
  refine List.filter_congr fun document _ => ?_
  rw [decide_eq_decide]
  unfold Joined
  rw [← alike.counterpart? cores, ← alike.unites]
  refine and_congr (alike.satisfied results document) (and_congr ?_ Iff.rfl)
  refine forall₂_congr fun other isCounterpart => ?_
  rw [alike.constrains other.core (alike.isOther isCounterpart)]
  simp only [alike.satisfied]

theorem facetBlocks : first.facetBlocks stores results = second.facetBlocks stores results := by
  have joinedAt (other : Counterpart) :
      first.joinedAt stores results other = second.joinedAt stores results other := by
    unfold ComposedQuery.joinedAt
    simp only [alike.satisfied, alike.joined cores]
  unfold ComposedQuery.facetBlocks
  rw [alike.counterpart? cores, alike.joined cores]
  simp only [alike.facetsFor, joinedAt]

theorem joinedOutcome :
    joinedOutcome first stores results = joinedOutcome second stores results := by
  obtain ⟨groupingField, options⟩ := alike.options
  have ranked : first.rankedHits stores results = second.rankedHits stores results := by
    unfold ComposedQuery.rankedHits
    rw [alike.joined cores, alike.rankQueryFor, options]
    rfl
  unfold FederatedSearch.joinedOutcome joinedResponse
  rw [ranked, alike.facetBlocks cores, options]
  rfl

omit cores in
/-- Requests that ask alike have the same outcome on stores. -/
theorem run_execute {backends : Backends Expression} {config : FederatorConfig}
    (areStores : backends.AreStores stores) (firstBuilt : first.Built) (secondBuilt : second.Built)
    (firstSupported : first.Supported) (secondSupported : second.Supported) :
    (((backends.federator config).execute first).run backends.answer).2 =
      (((backends.federator config).execute second).run backends.answer).2 := by
  have secondSet : second.resultsCore = some results := by
    rw [← alike.sameCores.resultsCore, alike.isSet]
  rw [run_execute_stores areStores firstBuilt alike.isSet firstSupported,
    run_execute_stores areStores secondBuilt secondSet secondSupported,
    ← alike.planFor (backends.federator config)]
  cases planned : (backends.federator config).planFor first with
  | error failure => rfl
  | ok plan =>
      have valid := (Federator.planFor_ok planned).1
      exact alike.joinedOutcome (alike.sameCores.cores (few_of_valid valid))

end ComposedQuery.AsksAlike

end FederatedSearch
