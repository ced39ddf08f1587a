import FederatedSearch.Proofs.AddedFacets
import FederatedSearch.Proofs.CoreHistories

/-! What a response is made of: the answer to the search of the results core, and behind its facets
those that were counted on other cores. Nothing else of what the cores answered gets into it, so
facets that are counted elsewhere leave the rest of it alone. -/

namespace FederatedSearch

variable {Q : Type}

def CoreResponse.blocksOn (response : CoreResponse) (core : String) : List FacetBlock :=
  (response.facets.getD []).map (·.tagged core)

def SearchResponse.blocksOn (response : SearchResponse) (core : String) : List FacetBlock :=
  (response.facets.getD []).filter (·.core = some core)

theorem FacetCount.blocks_eq (count : FacetCount) :
    count.blocks = count.answer.blocksOn count.core := by
  unfold FacetCount.blocks CoreResponse.blocksOn CoreResponse.tagged
  cases count.answer.facets <;> rfl

structure SearchResponse.Merges (response : SearchResponse) (results : String)
    (primary : CoreResponse) (counts : List FacetCount) : Prop where
  total : response.total = primary.total
  hits : response.hits = primary.hits
  suggestions : response.suggestions = primary.suggestions
  blocks : response.facets.getD [] = primary.blocksOn results ++
    counts.flatMap fun count => count.answer.blocksOn count.core
  noFacets : response.facets = none ↔ primary.facets = none ∧ counts = []

section Merges

variable {results : String} {primary : CoreResponse} {counts : List FacetCount}

theorem merges_ofCore (results : String) (primary : CoreResponse) :
    (SearchResponse.ofCore (primary.tagged results)).Merges results primary [] := by
  unfold SearchResponse.ofCore CoreResponse.tagged
  refine ⟨rfl, rfl, rfl, ?_, ?_⟩
  · unfold CoreResponse.blocksOn
    cases primary.facets <;> simp
  · simp

theorem merges_mergeFacets {plan : JoinPlan} (counted : counts.map (·.core) = plan.facetCores)
    (results : String) (primary : CoreResponse) :
    (mergeFacets plan (primary.tagged results) (counts.flatMap FacetCount.blocks)).Merges results
      primary counts := by
  have blocks : counts.flatMap FacetCount.blocks =
      counts.flatMap fun count => count.answer.blocksOn count.core :=
    List.flatMap_congr fun count _ => count.blocks_eq
  unfold mergeFacets CoreResponse.tagged
  rw [← counted, blocks]
  refine ⟨rfl, rfl, rfl, ?_, ?_⟩
  · unfold CoreResponse.blocksOn
    cases counts <;> cases primary.facets <;> simp
  · cases counts <;> simp

theorem SearchResponse.Merges.blocksOn {response : SearchResponse}
    (merges : response.Merges results primary counts)
    (elsewhere : ∀ count ∈ counts, count.core ≠ results) :
    response.blocksOn results = primary.blocksOn results := by
  have own : (primary.blocksOn results).filter (·.core = some results) =
      primary.blocksOn results := by
    rw [List.filter_eq_self]
    intro block member
    obtain ⟨_, _, rfl⟩ := List.mem_map.mp member
    simp [FacetBlock.tagged]
  have others : (counts.flatMap fun count => count.answer.blocksOn count.core).filter
      (·.core = some results) = [] := by
    rw [List.filter_eq_nil_iff]
    intro block member
    obtain ⟨count, inCounts, ofCount⟩ := List.mem_flatMap.mp member
    obtain ⟨_, _, rfl⟩ := List.mem_map.mp ofCount
    simpa [FacetBlock.tagged] using elsewhere count inCounts
  unfold SearchResponse.blocksOn
  rw [merges.blocks, List.filter_append, own, others, List.append_nil]

end Merges

/-! Executions that give a response -/

def ComposedQuery.primarySearch (query : ComposedQuery Q) (results : String)
    (collected : List PurposedKeys) : CoreSearch Q :=
  { resultsSearch query results with
    keyFilters := query.keyFiltersOf (combineKeys collected) }

theorem ComposedQuery.primarySearch_nil (query : ComposedQuery Q) (results : String) :
    query.primarySearch results [] = resultsSearch query results := by
  have noFilters : query.keyFiltersOf (combineKeys []) = [] := by
    simp [ComposedQuery.keyFiltersOf, combineKeys, keysFor]
  unfold ComposedQuery.primarySearch
  rw [noFilters]
  rfl

structure JoinRun.Gives (run : JoinRun Q) (query : ComposedQuery Q) (results : String)
    (calls : List (Call Q × Outcome)) (response : SearchResponse) : Prop where
  isSet : query.resultsCore = some results
  spans : query.Single results ∨ ∃ other, query.Paired results other
  asked : run.exchanges.map Exchange.asked = ungroup (SortedMap.grouped query.keyPhase).entries
  counted : run.counts.map (·.core) =
    (query.cores.drop 1).filter fun core => !(query.facetsFor core).isEmpty
  calls : ∃ collectKeys, calls = run.exchanges.map Exchange.call ++
    (⟨results, { query.primarySearch results run.collected with collectKeys }⟩,
        .answered run.answer) ::
      run.counts.map (FacetCount.call query run.answer.keys)
  merges : response.Merges results run.answer run.counts

section Gives

variable {query : ComposedQuery Q} {results : String} {plan : JoinPlan} {other : Counterpart}
  {response : SearchResponse}

theorem gives_alone (isSet : query.resultsCore = some results)
    (spans : query.Single results ∨ ∃ other, query.Paired results other)
    (noKeys : query.keyPhase = []) (noFacets : ∀ core ∈ query.cores.drop 1, query.facetsFor core = [])
    (answer : CoreResponse) :
    JoinRun.Gives ⟨"", [], [], answer, []⟩ query results
      [(⟨results, resultsSearch query results⟩, .answered answer)]
      (SearchResponse.ofCore (answer.tagged results)) := by
  refine ⟨isSet, spans, ?_, ?_, ⟨none, ?_⟩, merges_ofCore results answer⟩
  · rw [noKeys]
    rfl
  · symm
    rw [List.map_nil, List.filter_eq_nil_iff]
    intro core member
    simp [noFacets core member]
  · change _ = [((⟨results, { query.primarySearch results [] with collectKeys := none }⟩ : Call Q),
      Outcome.answered answer)]
    rw [ComposedQuery.primarySearch_nil]
    rfl

theorem JoinRun.Follows.gives {run : JoinRun Q} (isSet : query.resultsCore = some results)
    (paired : query.Paired results other) (joins : plan.Joins query results other)
    (follows : run.Follows query plan) :
    run.Gives query results (run.calls query plan) (run.response plan) := by
  have joinKeys : run.joinKeys = query.joinedBy := by
    rw [joinKeys_eq joins follows]
    unfold ComposedQuery.joinedBy
    rw [paired.isCounterpart]
    cases constrained : query.constrains other.core <;> simp [constrained]
  refine ⟨isSet, Or.inr ⟨other, paired⟩, ?asked, ?counted,
    ⟨if plan.facetCores.isEmpty then none else some other.resultsKey, ?calls⟩, ?merges⟩
  case asked =>
      unfold ComposedQuery.keyPhase
      rw [follows.asked, joinKeys]
  case counted =>
      rw [follows.facetCores, joins.facetCores, paired.cores]
      cases none : (query.facetsFor other.core).isEmpty <;> simp [none]
  case calls =>
      unfold JoinRun.calls JoinRun.primary FederatedSearch.primarySearch
        ComposedQuery.primarySearch ComposedQuery.keyFiltersOf
      rw [joins.resultsCore, resultsKey_eq joins follows, paired.isCounterpart]
      simp only [Option.toList_some, List.flatMap_singleton]
  case merges =>
      unfold JoinRun.response
      rw [joins.resultsCore]
      exact merges_mergeFacets follows.facetCores results run.answer

theorem Federator.execute_gives {federator : Federator} {calls : List (Call Q × Outcome)}
    (built : query.Built)
    (trace : Session.Trace (federator.execute query) calls (.ok response)) :
    ∃ results run, JoinRun.Gives run (federator.withDefaultCore query) results calls response := by
  obtain ⟨_, plan, _, rfl, first, rest⟩ := Attempt.trace_bind_ok.mp trace
  obtain ⟨rfl, found⟩ := Attempt.trace_settled.mp first
  obtain ⟨valid, planned, known⟩ := planFor_ok found.symm
  have builtAsked : (federator.withDefaultCore query).Built := built_withDefaultCore built
  generalize federator.withDefaultCore query = asked at *
  obtain ⟨results, _, isSet, -, isPlan⟩ := JoinPlan.ofQuery_ok planned
  have resultsCore : plan.resultsCore = results := by rw [isPlan]
  have knownResults := known _ plan.resultsCore_mem_cores
  have spans := ComposedQuery.single_or_paired builtAsked valid isSet
  refine ⟨results, ?_⟩
  rcases spans with single | ⟨other, paired⟩
  · have alone : plan.isPassThrough = true := by
      have onlyResults := Except.ok.inj (planned.symm.trans (JoinPlan.ofQuery_single isSet single))
      rw [onlyResults]
      rfl
    rw [if_pos alone] at rest
    obtain ⟨answer, rfl, rfl⟩ := executeAlone_ok knownResults rest
    rw [resultsCore]
    refine ⟨_, gives_alone isSet (Or.inl single) ?_ (by simp [single.cores]) answer⟩
    exact ComposedQuery.keyPhase_of_free single.noUnites (by simp [single.noCounterpart])
  · obtain ⟨_, samePlan, joins⟩ := JoinPlan.ofQuery_paired isSet paired
    obtain rfl := Except.ok.inj (planned.symm.trans samePlan)
    by_cases alone : plan.isPassThrough = true
    · obtain ⟨free, noFacets, noUnites⟩ := joins.isPassThrough_iff.mp alone
      rw [if_pos alone] at rest
      obtain ⟨answer, rfl, rfl⟩ := executeAlone_ok knownResults rest
      rw [resultsCore]
      refine ⟨_, gives_alone isSet (Or.inr ⟨other, paired⟩) ?_ (by simpa [paired.cores]) answer⟩
      exact ComposedQuery.keyPhase_of_free noUnites (by simpa [paired.isCounterpart])
    · rw [if_neg alone] at rest
      obtain ⟨run, follows, rfl, rfl⟩ := executeJoin_ok planned known rest
      exact ⟨run, follows.gives isSet paired joins⟩

namespace JoinRun.Gives

variable {run : JoinRun Q} {calls : List (Call Q × Outcome)}
  (gives : run.Gives query results calls response)

include gives

theorem mem_counted_iff (core : String) :
    core ∈ run.counts.map (·.core) ↔ core ≠ results ∧ query.facetsFor core ≠ [] := by
  rw [gives.counted, List.mem_filter, ComposedQuery.mem_others gives.isSet]
  constructor
  · rintro ⟨⟨-, different⟩, asked⟩
    exact ⟨different, by simpa using asked⟩
  · rintro ⟨different, asked⟩
    have has : JoinPlan.coreHas query (!·.facets.isEmpty) core = true := by
      rw [JoinPlan.coreHas_facets]
      simpa using asked
    exact ⟨⟨JoinPlan.registered_of_coreHas has, different⟩, by simpa using asked⟩

theorem nodup_counted (distinct : query.cores.Nodup) : (run.counts.map (·.core)).Nodup := by
  rw [gives.counted]
  exact distinct.drop.filter _

end JoinRun.Gives

end Gives

/-! The same request with more facets elsewhere -/

section Unchanged

variable {servers : Servers Q} {core results : String} {query changed : ComposedQuery Q}
  {run runChanged : JoinRun Q} {calls others : List (Call Q × Outcome)}
  {response responseChanged : SearchResponse}
  (gives : run.Gives query results calls response)
  (givesChanged : runChanged.Gives changed results others responseChanged)
  (served : servers.Serve calls) (servedChanged : servers.Serve others)

include gives givesChanged served servedChanged

end Unchanged

end FederatedSearch
