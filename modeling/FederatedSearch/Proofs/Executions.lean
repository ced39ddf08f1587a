import FederatedSearch.Proofs.RequestChecks

/-! What an execution that gives a response has done: the keys it collected, the answer of the
results core, and the facets it counted on other cores, as the calls it made and the response it
made of their answers. -/

namespace FederatedSearch

variable {Q α β : Type}

@[simp] theorem CoreResponse.keys_tagged (core : String) (answer : CoreResponse) :
    (answer.tagged core).keys = answer.keys :=
  rfl

structure FacetCount where
  core : String
  key : String
  answer : CoreResponse

namespace FacetCount

def call (query : ComposedQuery Q) (keys : SortedSet String) (count : FacetCount) :
    Call Q × Outcome :=
  (⟨count.core, facetSearch query count.core count.key keys⟩, .answered count.answer)

def blocks (count : FacetCount) : List FacetBlock :=
  (count.answer.tagged count.core).facets.getD []

end FacetCount

structure JoinRun (Q : Type) where
  resultsKey : String
  joinKeys : List (String × String)
  exchanges : List (Exchange Q)
  answer : CoreResponse
  counts : List FacetCount

namespace JoinRun

variable (query : ComposedQuery Q) (plan : JoinPlan)

def collected (run : JoinRun Q) : List PurposedKeys :=
  run.exchanges.map Exchange.keys

def primary (run : JoinRun Q) : CoreSearch Q :=
  primarySearch query plan run.resultsKey (combineKeys run.collected)

def calls (run : JoinRun Q) : List (Call Q × Outcome) :=
  run.exchanges.map Exchange.call ++
    (⟨plan.resultsCore, run.primary query plan⟩, .answered run.answer) ::
      run.counts.map (FacetCount.call query run.answer.keys)

def response (run : JoinRun Q) : SearchResponse :=
  mergeFacets plan (run.answer.tagged plan.resultsCore) (run.counts.flatMap FacetCount.blocks)

structure Follows (run : JoinRun Q) : Prop where
  resultsKey : plan.keyFor plan.resultsCore = .ok run.resultsKey
  joinCores : run.joinKeys.map (·.1) = plan.joinCores
  joinKeys : ∀ joinKey ∈ run.joinKeys, plan.keyFor joinKey.1 = .ok joinKey.2
  asked : run.exchanges.map Exchange.asked =
    ungroup (SortedMap.grouped (plannedSearches query run.joinKeys)).entries
  facetCores : run.counts.map (·.core) = plan.facetCores
  countKeys : ∀ count ∈ run.counts, plan.keyFor count.core = .ok count.key

end JoinRun

variable {calls : List (Call Q × Outcome)}

theorem startEach_awaited {prepare : α → Except RequestError (Attempt Q BackendError β)}
    {items : List α} {values : List β}
    (trace : Attempt.Trace (startEach prepare items) calls (.ok (values.map .ok))) :
    ∃ runs : List (List (Call Q × Outcome) × β),
      List.Forall₂ (fun item run => ∃ task, prepare item = .ok task ∧
        Attempt.Trace task run.1 (.ok run.2)) items runs ∧
      calls = runs.flatMap (·.1) ∧ values = runs.map (·.2) := by
  obtain ⟨runs, matched, rfl, ended⟩ := startEach_ok trace
  clear trace
  induction matched generalizing values with
  | nil =>
      have none : values = [] := by simpa using ended
      exact ⟨[], List.Forall₂.nil, rfl, none⟩
  | @cons item run items runs first _ ih =>
      cases values with
      | nil => simp at ended
      | cons value values =>
          obtain ⟨endedFirst, endedRest⟩ := List.cons.inj ended
          obtain ⟨task, prepared, inner⟩ := first
          obtain ⟨others, matched, sameCalls, rfl⟩ := ih endedRest
          have gives : run.2 = .ok value := endedFirst.symm
          rw [gives] at inner
          refine ⟨(run.1, value) :: others, List.Forall₂.cons ⟨task, prepared, inner⟩ matched, ?_, ?_⟩
          · simp [sameCalls]
          · simp

theorem collecting_awaited {federator : Federator}
    {groups : List (String × List (Purpose × CoreSearch Q))} {values : List (List PurposedKeys)}
    (known : ∀ group ∈ groups, federator.requireCore group.1 = .ok ())
    (trace : Attempt.Trace (startEach federator.collecting groups) calls (.ok (values.map .ok))) :
    ∃ exchanges : List (Exchange Q), exchanges.map Exchange.asked = ungroup groups ∧
      calls = exchanges.map Exchange.call ∧ values.flatten = exchanges.map Exchange.keys := by
  obtain ⟨runs, matched, rfl, rfl⟩ := startEach_awaited trace
  clear trace
  induction matched with
  | nil => exact ⟨[], rfl, rfl, rfl⟩
  | @cons group run groups runs first _ ih =>
      obtain ⟨task, prepared, inner⟩ := first
      obtain ⟨others, asked, calls, keys⟩ := ih fun other member =>
        known other (List.mem_cons_of_mem group member)
      rw [Federator.collecting_ok (known group List.mem_cons_self)] at prepared
      obtain rfl := Except.ok.inj prepared
      obtain ⟨exchanges, askedFirst, callsFirst, keysFirst⟩ := collectFrom_ok inner
      refine ⟨exchanges ++ others, ?_, ?_, ?_⟩
      · simp [ungroup, askedFirst, asked]
      · simp [callsFirst, calls]
      · simp [keysFirst, keys]

theorem countFrom_ok {core : String} {request : CoreSearch Q} {blocks : List FacetBlock}
    (trace : Attempt.Trace (countFrom core request) calls (.ok blocks)) :
    ∃ answer, calls = [(⟨core, request⟩, .answered answer)] ∧
      blocks = (answer.tagged core).facets.getD [] := by
  obtain ⟨before, answer, after, rfl, asked, ended⟩ := Attempt.trace_bind_ok.mp trace
  obtain ⟨outcome, rfl, answered⟩ := trace_searchApart.mp asked
  obtain ⟨rfl, found⟩ := Attempt.trace_pure.mp ended
  rw [eq_answered_of_apart answered.symm]
  exact ⟨answer, rfl, Except.ok.inj found⟩

theorem counting_awaited {federator : Federator} {query : ComposedQuery Q} {plan : JoinPlan}
    {keys : SortedSet String} {cores : List String} {values : List (List FacetBlock)}
    (known : ∀ core ∈ cores, federator.requireCore core = .ok ())
    (trace : Attempt.Trace (startEach (federator.counting query plan keys) cores) calls
      (.ok (values.map .ok))) :
    ∃ counts : List FacetCount, counts.map (·.core) = cores ∧
      (∀ count ∈ counts, plan.keyFor count.core = .ok count.key) ∧
      calls = counts.map (FacetCount.call query keys) ∧
      values.flatten = counts.flatMap FacetCount.blocks := by
  obtain ⟨runs, matched, rfl, rfl⟩ := startEach_awaited trace
  clear trace
  induction matched with
  | nil => exact ⟨[], rfl, by simp, rfl, rfl⟩
  | @cons core run cores runs first _ ih =>
      obtain ⟨task, prepared, inner⟩ := first
      obtain ⟨others, sameCores, keyed, calls, blocks⟩ := ih fun other member =>
        known other (List.mem_cons_of_mem core member)
      cases hasKey : plan.keyFor core with
      | error error =>
          unfold Federator.counting at prepared
          rw [hasKey] at prepared
          cases prepared
      | ok key =>
          rw [Federator.counting_ok hasKey (known core List.mem_cons_self)] at prepared
          obtain rfl := Except.ok.inj prepared
          obtain ⟨answer, callsFirst, blocksFirst⟩ := countFrom_ok inner
          refine ⟨⟨core, key, answer⟩ :: others, by simp [sameCores], ?_, ?_, ?_⟩
          · exact List.forall_mem_cons.mpr ⟨hasKey, keyed⟩
          · simp [FacetCount.call, callsFirst, calls]
          · simp [FacetCount.blocks, blocksFirst, blocks]

namespace Federator

variable {federator : Federator} {query : ComposedQuery Q} {plan : JoinPlan}
  {response : SearchResponse}

theorem executeAlone_ok {core : String} (known : federator.requireCore core = .ok ())
    (trace : Attempt.Trace (federator.executeAlone query core) calls (.ok response)) :
    ∃ answer, calls = [(⟨core, resultsSearch query core⟩, .answered answer)] ∧
      response = SearchResponse.ofCore (answer.tagged core) := by
  obtain ⟨before, answer, after, rfl, asked, ended⟩ := Attempt.trace_bind_ok.mp trace
  obtain ⟨outcome, rfl, answered⟩ := (trace_searchDirectly known).mp asked
  obtain ⟨rfl, found⟩ := Attempt.trace_pure.mp ended
  rw [eq_answered_of_direct answered.symm]
  exact ⟨answer, rfl, Except.ok.inj found⟩

theorem executeJoin_ok (planned : JoinPlan.ofQuery query = .ok plan)
    (known : ∀ core ∈ plan.cores, federator.requireCore core = .ok ())
    (trace : Attempt.Trace (federator.executeJoin query plan) calls (.ok response)) :
    ∃ run : JoinRun Q, run.Follows query plan ∧ calls = run.calls query plan ∧
      response = run.response plan := by
  obtain ⟨_, resultsKey, _, rfl, first, afterKey⟩ := Attempt.trace_bind_ok.mp trace
  obtain ⟨rfl, hasResultsKey⟩ := trace_requested_ok.mp first
  obtain ⟨_, searches, _, rfl, second, afterSearches⟩ := Attempt.trace_bind_ok.mp afterKey
  obtain ⟨rfl, found⟩ := trace_requested_ok.mp second
  obtain ⟨collecting, tasks, _, rfl, third, afterStart⟩ := Attempt.trace_bind_ok.mp afterSearches
  obtain ⟨_, collected, _, rfl, fourth, afterCollecting⟩ := Attempt.trace_bind_ok.mp afterStart
  obtain ⟨rfl, rfl⟩ := trace_awaitAll_ok.mp fourth
  have knownGroups : ∀ group ∈ searches.entries, federator.requireCore group.1 = .ok () :=
    fun group member => requireCore_of_mem_keySearches planned known found member
  obtain ⟨exchanges, asked, rfl, keys⟩ := collecting_awaited knownGroups third
  obtain ⟨joinKeys, joinCores, hasKeys, rfl⟩ := keySearches_ok found
  obtain ⟨_, answer, _, rfl, fifth, afterAnswer⟩ := Attempt.trace_bind_ok.mp afterCollecting
  have knownResults := known plan.resultsCore plan.resultsCore_mem_cores
  obtain ⟨outcome, rfl, answered⟩ := (trace_searchDirectly knownResults).mp fifth
  obtain rfl := eq_answered_of_direct answered.symm
  obtain ⟨counting, tasks, _, rfl, sixth, afterCounts⟩ := Attempt.trace_bind_ok.mp afterAnswer
  obtain ⟨_, counted, _, rfl, seventh, last⟩ := Attempt.trace_bind_ok.mp afterCounts
  obtain ⟨rfl, rfl⟩ := trace_awaitAll_ok.mp seventh
  have knownFacets : ∀ core ∈ plan.facetCores, federator.requireCore core = .ok () :=
    fun core member => known core (JoinPlan.mem_cores_of_facetCore member)
  obtain ⟨counts, facetCores, countKeys, rfl, blocks⟩ := counting_awaited knownFacets sixth
  obtain ⟨rfl, ended⟩ := Attempt.trace_pure.mp last
  refine ⟨⟨resultsKey, joinKeys, exchanges, answer, counts⟩,
    ⟨hasResultsKey, joinCores, hasKeys, asked, facetCores, countKeys⟩, ?_, ?_⟩
  · simp [JoinRun.calls, JoinRun.primary, JoinRun.collected, keys]
  · rw [Except.ok.inj ended, blocks]
    rfl

theorem execute_ok {results : String} (isSet : query.resultsCore = some results)
    (trace : Session.Trace (federator.execute query) calls (.ok response)) :
    ∃ plan, JoinPlan.ofQuery query = .ok plan ∧
      (∀ core ∈ plan.cores, federator.requireCore core = .ok ()) ∧
      if plan.isPassThrough then
        Attempt.Trace (federator.executeAlone query plan.resultsCore) calls (.ok response)
      else Attempt.Trace (federator.executeJoin query plan) calls (.ok response) := by
  have unchanged : federator.withDefaultCore query = query := by
    unfold withDefaultCore
    rw [isSet]
  unfold execute at trace
  rw [unchanged] at trace
  obtain ⟨_, plan, _, rfl, first, rest⟩ := Attempt.trace_bind_ok.mp trace
  obtain ⟨rfl, found⟩ := Attempt.trace_settled.mp first
  obtain ⟨_, planned, known⟩ := planFor_ok found.symm
  refine ⟨plan, planned, known, ?_⟩
  by_cases alone : plan.isPassThrough = true
  · rw [if_pos alone] at rest ⊢
    exact rest
  · rw [if_neg alone] at rest ⊢
    exact rest

theorem planFor_eq (valid : query.validate = .ok ()) (planned : JoinPlan.ofQuery query = .ok plan)
    (known : ∀ core ∈ plan.cores, federator.requireCore core = .ok ()) :
    federator.planFor query = .ok plan := by
  have all : plan.cores.forM federator.requireCore = .ok () := forM_ok_iff.mpr known
  unfold planFor
  rw [valid, planned]
  simp only [Except.mapError, bind, Except.bind, all]
  rfl

variable {answer : Call Q → Outcome}

theorem run_execute {results : String} (isSet : query.resultsCore = some results)
    (valid : query.validate = .ok ()) (planned : JoinPlan.ofQuery query = .ok plan)
    (known : ∀ core ∈ plan.cores, federator.requireCore core = .ok ()) :
    ((federator.execute query).run answer).2 =
      Attempt.result answer (if plan.isPassThrough then
        federator.executeAlone query plan.resultsCore else federator.executeJoin query plan) := by
  have unchanged : federator.withDefaultCore query = query := by
    unfold withDefaultCore
    rw [isSet]
  have found := planFor_eq valid planned known
  unfold execute
  rw [unchanged]
  change Attempt.result answer (Attempt.settled (federator.planFor query) >>= _) = _
  rw [Attempt.result_bind, Attempt.result_settled, found]
  rfl

theorem result_executeAlone {core : String} (known : federator.requireCore core = .ok ()) :
    Attempt.result answer (federator.executeAlone query core) =
      (answer ⟨core, resultsSearch query core⟩).direct.map fun primary =>
        SearchResponse.ofCore (primary.tagged core) := by
  unfold executeAlone
  rw [Attempt.result_bind, result_searchDirectly known]
  rfl

variable {respond : String → CoreSearch Q → CoreResponse}

theorem result_collecting {groups : List (String × List (Purpose × CoreSearch Q))}
    (known : ∀ group ∈ groups, federator.requireCore group.1 = .ok ())
    (answered : ∀ search ∈ ungroup groups,
      answer ⟨search.1, search.2.2⟩ = .answered (respond search.1 search.2.2)) :
    ∃ collected : List (List PurposedKeys),
      Attempt.result answer (startEach federator.collecting groups) = .ok (collected.map .ok) ∧
      collected.flatten =
        (ungroup groups).map fun search => (search.2.1, (respond search.1 search.2.2).keys) := by
  refine ⟨groups.map fun group => group.2.map fun search =>
    (search.1, (respond group.1 search.2).keys), ?_, ?_⟩
  · refine result_startEach fun group member => ?_
    have prepared := collecting_ok (known group member)
    refine ⟨_, prepared, result_collectFrom fun search inGroup => ?_⟩
    exact answered (group.1, search) (mem_ungroup.mpr ⟨group, member, rfl, inGroup⟩)
  · unfold ungroup
    rw [List.map_flatMap, List.flatMap_def]
    simp only [List.map_map]
    rfl

theorem result_counting {keys : SortedSet String} {key : String} {cores : List String}
    (keyed : ∀ core ∈ cores, plan.keyFor core = .ok key)
    (known : ∀ core ∈ cores, federator.requireCore core = .ok ())
    (answered : ∀ core ∈ cores, answer ⟨core, facetSearch query core key keys⟩ =
      .answered (respond core (facetSearch query core key keys))) :
    Attempt.result answer (startEach (federator.counting query plan keys) cores) =
      .ok ((cores.map fun core =>
        ((respond core (facetSearch query core key keys)).tagged core).facets.getD []).map .ok) := by
  refine result_startEach fun core member => ?_
  have prepared : federator.counting query plan keys core = _ :=
    counting_ok (keyed core member) (known core member)
  refine ⟨_, prepared, ?_⟩
  unfold countFrom
  rw [Attempt.result_bind, Attempt.result_searchApart, answered core member]
  rfl

theorem result_executeJoin {resultsKey key : String} (planned : JoinPlan.ofQuery query = .ok plan)
    (known : ∀ core ∈ plan.cores, federator.requireCore core = .ok ())
    (hasResultsKey : plan.keyFor plan.resultsCore = .ok resultsKey)
    (joinKey : ∀ core ∈ plan.joinCores, plan.keyFor core = .ok key)
    (facetKey : ∀ core ∈ plan.facetCores, plan.keyFor core = .ok key)
    (collects : ∀ search ∈ plannedSearches query (plan.joinCores.map (·, key)),
      answer ⟨search.1, search.2.2⟩ = .answered (respond search.1 search.2.2))
    (counts : ∀ core ∈ plan.facetCores, ∀ keys, answer ⟨core, facetSearch query core key keys⟩ =
      .answered (respond core (facetSearch query core key keys))) :
    ∃ collected : List PurposedKeys,
      collected.Perm ((plannedSearches query (plan.joinCores.map (·, key))).map fun search =>
        (search.2.1, (respond search.1 search.2.2).keys)) ∧
      Attempt.result answer (federator.executeJoin query plan) =
        (answer ⟨plan.resultsCore,
          primarySearch query plan resultsKey (combineKeys collected)⟩).direct.map fun primary =>
            mergeFacets plan (primary.tagged plan.resultsCore) (plan.facetCores.flatMap fun core =>
              ((respond core (facetSearch query core key primary.keys)).tagged core).facets.getD
                []) := by
  have found : keySearches query plan = _ := keySearches_eq joinKey
  have perm := SortedMap.ungroup_grouped_perm
    (plannedSearches query (plan.joinCores.map (·, key)))
  obtain ⟨collected, collecting, flattened⟩ := result_collecting
    (fun group member => requireCore_of_mem_keySearches planned known found member)
    (fun search member => collects search (perm.mem_iff.mp member))
  have counting (keys : SortedSet String) :
      Attempt.result answer (startEach (federator.counting query plan keys) plan.facetCores) = _ :=
    result_counting facetKey
      (fun core member => known core (JoinPlan.mem_cores_of_facetCore member))
      (fun core member => counts core member keys)
  have knownResults := known plan.resultsCore plan.resultsCore_mem_cores
  refine ⟨collected.flatten, ?_, ?_⟩
  · rw [flattened]
    exact perm.map _
  · unfold executeJoin requested
    simp only [Attempt.result_bind, Attempt.result_settled, hasResultsKey, found, Except.mapError,
      Except.bind]
    rw [collecting]
    simp only [result_awaitAll]
    rw [result_searchDirectly knownResults]
    generalize answer ⟨plan.resultsCore, _⟩ = outcome
    cases outcome.direct with
    | error failure => rfl
    | ok primary =>
        simp only [CoreResponse.keys_tagged]
        rw [counting]
        simp only [result_awaitAll, Attempt.result_pure, ← List.flatMap_def]
        rfl

end Federator

end FederatedSearch
