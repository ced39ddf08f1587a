import FederatedSearch.Proofs.JoinedDocuments

/-! What comes of a request to stores: total and hits are those of the joined documents in the order
of the results core, and the facets of both cores are counted over what is joined, whatever page is
asked for. -/

namespace FederatedSearch

variable {query : ComposedQuery Expression} {stores : String → Store} {results core : String}
  {search : CoreSearch Expression}

theorem search_joined (supported : search.Supported)
    (rank : search.rankQuery = query.rankQueryFor results)
    (options : search.options = query.options.forCore results)
    (admits : ∀ document, search.admits document = true ↔ query.Joined stores results document) :
    (stores results).search search =
      match query.rankedHits stores results with
      | none => .panicked
      | some ordered => .answered ((stores results).respond search
          ((query.joined stores results).map (Scored.under (query.rankQueryFor results)))
          ordered) := by
  have found : (stores results).documents.filter search.admits = query.joined stores results := by
    refine List.filter_congr fun document _ => ?_
    rw [Bool.eq_iff_iff, admits, decide_eq_true_iff]
  rw [Store.search_eq supported, found, rank, options]
  rfl

def joinedResponse (query : ComposedQuery Expression) (stores : String → Store) (results : String)
    (ordered : List Scored) : SearchResponse where
  total := ordered.length
  hits := (query.options.page ordered).map (·.hit)
  facets :=
    if (query.facetBlocks stores results).isEmpty then none
    else some (query.facetBlocks stores results)
  suggestions := query.options.suggestions.map (·.answer (stores results).documents)

theorem facets_respond {ordered : List Scored} (facets : search.facets = query.facetsFor results) :
    (((stores results).respond search
      ((query.joined stores results).map (Scored.under (query.rankQueryFor results)))
      ordered).tagged results).facets =
      if (query.facetsFor results).isEmpty then none
      else some ((query.facetsFor results).map fun facet =>
        (facet.count (query.joined stores results)).tagged results) := by
  unfold Store.respond CoreResponse.tagged
  rw [Store.documents_scored, facets]
  cases query.facetsFor results <;> simp

theorem ofCore_respond {ordered : List Scored} {facets : Option (List FacetBlock)}
    (options : search.options = query.options.forCore results)
    (merged : facets = if (query.facetBlocks stores results).isEmpty then none
      else some (query.facetBlocks stores results)) :
    { SearchResponse.ofCore (((stores results).respond search
      ((query.joined stores results).map (Scored.under (query.rankQueryFor results)))
      ordered).tagged results) with facets } = joinedResponse query stores results ordered := by
  unfold joinedResponse SearchResponse.ofCore CoreResponse.tagged Store.respond
  rw [← merged, options]
  rfl

theorem facetBlocks_alone
    (noOthers : ∀ other ∈ query.counterpart?, query.facetsFor other.core = []) :
    query.facetBlocks stores results = (query.facetsFor results).map fun facet =>
      (facet.count (query.joined stores results)).tagged results := by
  have none : (query.counterpart?.toList.flatMap fun other =>
      (query.facetsFor other.core).map fun facet =>
        (facet.count (query.joinedAt stores results other)).tagged other.core) = [] := by
    rw [List.flatMap_eq_nil_iff]
    intro other member
    rw [noOthers other (Option.mem_toList.mp member)]
    rfl
  unfold ComposedQuery.facetBlocks
  rw [none, List.append_nil]

section Execution

variable {backends : Backends Expression} {config : FederatorConfig} {plan : JoinPlan}
  {other : Counterpart}

theorem Backends.Serve.requireCore (serve : backends.Serve stores query)
    (planned : JoinPlan.ofQuery query = .ok plan) (member : core ∈ plan.cores) :
    (backends.federator config).requireCore core = .ok () := by
  have inBackends : core ∈ backends.keys := key_mem_of_findEntry (serve plan planned core member)
  have known : (SortedSet.ofList backends.keys).contains core = true :=
    (SortedSet.contains_ofList _ core).mpr inBackends
  unfold Federator.requireCore Backends.federator
  rw [if_pos known]

theorem Backends.Serve.answer (serve : backends.Serve stores query)
    (planned : JoinPlan.ofQuery query = .ok plan) (member : core ∈ plan.cores) :
    backends.answer ⟨core, search⟩ = (stores core).search search := by
  unfold Backends.answer
  rw [serve plan planned core member]
  rfl

def joinedOutcome (query : ComposedQuery Expression) (stores : String → Store) (results : String) :
    Except Failure SearchResponse :=
  match query.rankedHits stores results with
  | none => .error .crash
  | some ordered => .ok (joinedResponse query stores results ordered)

theorem result_alone (supported : query.Supported) (serve : backends.Serve stores query)
    (planned : JoinPlan.ofQuery query = .ok plan) (resultsCore : plan.resultsCore = results)
    (joined_iff : ∀ document,
      query.Joined stores results document ↔ query.Satisfied results document)
    (noOthers : ∀ other ∈ query.counterpart?, query.facetsFor other.core = []) :
    Attempt.result backends.answer ((backends.federator config).executeAlone query results) =
      joinedOutcome query stores results := by
  have inPlan : results ∈ plan.cores := resultsCore ▸ plan.resultsCore_mem_cores
  have isSupported : (resultsSearch query results).Supported :=
    ⟨supported.queriesFor, supported.rankQueryFor⟩
  have admits (document : Document) : (resultsSearch query results).admits document = true ↔
      query.Joined stores results document := by
    rw [CoreSearch.admits_iff rfl rfl, joined_iff]
    simp [resultsSearch, coreSearch]
  rw [Federator.result_executeAlone (serve.requireCore planned inPlan),
    serve.answer planned inPlan, search_joined isSupported rfl rfl admits]
  unfold joinedOutcome
  cases query.rankedHits stores results with
  | none => rfl
  | some ordered =>
      refine congrArg Except.ok (ofCore_respond rfl ?_)
      rw [facets_respond rfl, facetBlocks_alone noOthers]
      cases query.facetsFor results <;> rfl

theorem facets_counterpart (supported : query.Supported) {ordered : List Scored}
    (collects : search.collectKeys = some other.resultsKey) :
    (((stores other.core).answer (facetSearch query other.core other.key
      ((stores results).respond search
        ((query.joined stores results).map (Scored.under (query.rankQueryFor results)))
        ordered).keys)).tagged other.core).facets.getD [] =
      (query.facetsFor other.core).map fun facet =>
        (facet.count (query.joinedAt stores results other)).tagged other.core := by
  generalize isKeys : ((stores results).respond search
    ((query.joined stores results).map (Scored.under (query.rankQueryFor results)))
    ordered).keys = keys
  have collected (key : String) : keys.contains key = true ↔
      ∃ document ∈ query.joined stores results, key ∈ document.values other.resultsKey := by
    rw [← isKeys]
    unfold CoreResponse.keys Store.respond
    rw [Store.documents_scored, collects]
    simp [SortedSet.contains_ofList]
  have found : (stores other.core).documents.filter
      (facetSearch query other.core other.key keys).admits =
        query.joinedAt stores results other := by
    refine List.filter_congr fun document _ => ?_
    rw [Bool.eq_iff_iff, admits_facetSearch collected, decide_eq_true_iff]
  have isSupported : (facetSearch query other.core other.key keys).Supported :=
    supported_facetSearch supported other.key keys
  have answered : ((stores other.core).answer _).facets = _ :=
    Store.facets_answer isSupported rfl
  unfold CoreResponse.tagged
  rw [answered, found]
  unfold facetSearch
  cases query.facetsFor other.core <;> simp

theorem mergeFacets_respond (supported : query.Supported) (paired : query.Paired results other)
    (joins : plan.Joins query results other) {ordered : List Scored}
    (facets : search.facets = query.facetsFor results)
    (options : search.options = query.options.forCore results)
    (collects : search.collectKeys =
      if plan.facetCores.isEmpty then none else some other.resultsKey) :
    let primary := (stores results).respond search
      ((query.joined stores results).map (Scored.under (query.rankQueryFor results))) ordered
    mergeFacets plan (primary.tagged results) (plan.facetCores.flatMap fun core =>
      (((stores core).answer (facetSearch query core other.key primary.keys)).tagged
        core).facets.getD []) = joinedResponse query stores results ordered := by
  refine ofCore_respond options ?_
  rw [facets_respond facets]
  rw [joins.facetCores] at collects ⊢
  cases asked : (query.facetsFor other.core).isEmpty with
  | true =>
      have noOthers : ∀ another ∈ query.counterpart?, query.facetsFor another.core = [] := by
        intro another isCounterpart
        obtain rfl := Option.some.inj (paired.isCounterpart.symm.trans isCounterpart)
        exact List.isEmpty_iff.mp asked
      rw [facetBlocks_alone noOthers]
      cases query.facetsFor results <;> simp
  | false =>
      have collectsKey : search.collectKeys = some other.resultsKey := by
        rw [collects, asked]
        rfl
      have blocks : query.facetBlocks stores results =
          ((query.facetsFor results).map fun facet =>
            (facet.count (query.joined stores results)).tagged results) ++
          (query.facetsFor other.core).map fun facet =>
            (facet.count (query.joinedAt stores results other)).tagged other.core := by
        unfold ComposedQuery.facetBlocks
        rw [paired.isCounterpart]
        simp
      have some : (query.facetBlocks stores results).isEmpty = false := by
        rw [blocks]
        cases listed : query.facetsFor other.core with
        | nil => simp [listed] at asked
        | cons facet others => simp
      simp only [some, Bool.false_eq_true, if_false, List.isEmpty_cons, List.flatMap_cons,
        List.flatMap_nil, List.append_nil, Option.map_some]
      rw [facets_counterpart supported collectsKey, blocks]
      cases query.facetsFor results <;> rfl

theorem result_join (supported : query.Supported) (serve : backends.Serve stores query)
    (planned : JoinPlan.ofQuery query = .ok plan) (paired : query.Paired results other)
    (joins : plan.Joins query results other) :
    Attempt.result backends.answer ((backends.federator config).executeJoin query plan) =
      joinedOutcome query stores results := by
  obtain rfl := joins.resultsCore
  have known : ∀ core ∈ plan.cores, (backends.federator config).requireCore core = .ok () :=
    fun core member => serve.requireCore planned member
  have sameCores : (plan.joinCores.map (·, other.key)).map (·.1) = plan.joinCores := by
    rw [List.map_map]
    exact List.map_id _
  have collects : ∀ search ∈ plannedSearches query (plan.joinCores.map (·, other.key)),
      backends.answer ⟨search.1, search.2.2⟩ =
        .answered (storeAnswer stores search.1 search.2.2) := by
    intro search member
    obtain ⟨isSupported, unordered⟩ := supported_planned supported member
    rw [serve.answer planned (core_of_mem_plannedSearches planned sameCores member)]
    exact ((stores search.1).search_unordered isSupported unordered).1
  have counts : ∀ core ∈ plan.facetCores, ∀ keys,
      backends.answer ⟨core, facetSearch query core other.key keys⟩ =
        .answered (storeAnswer stores core (facetSearch query core other.key keys)) := by
    intro core member keys
    have isSupported : (facetSearch query core other.key keys).Supported :=
      supported_facetSearch supported other.key keys
    rw [serve.answer planned (JoinPlan.mem_cores_of_facetCore member)]
    exact ((stores core).search_unordered isSupported rfl).1
  obtain ⟨collected, perm, result⟩ := Federator.result_executeJoin planned known joins.resultsKey
    (fun _ => joins.keyFor_joinCore) (fun _ => joins.keyFor_facetCore) collects counts
  have isSupported : (primarySearch query plan other.resultsKey (combineKeys collected)).Supported :=
    ⟨supported.queriesFor, supported.rankQueryFor⟩
  have admits (document : Document) :
      (primarySearch query plan other.resultsKey (combineKeys collected)).admits document = true ↔
        _ := admits_primarySearch supported paired joins perm
  rw [result, serve.answer planned plan.resultsCore_mem_cores, search_joined isSupported rfl rfl admits]
  unfold joinedOutcome
  cases query.rankedHits stores plan.resultsCore with
  | none => rfl
  | some ordered =>
      exact congrArg Except.ok (mergeFacets_respond supported paired joins rfl rfl rfl)

theorem joined_iff_satisfied (noUnites : query.unites = [])
    (free : ∀ other ∈ query.counterpart?, query.constrains other.core = false)
    (document : Document) :
    query.Joined stores results document ↔ query.Satisfied results document := by
  unfold ComposedQuery.Joined
  constructor
  · exact And.left
  · intro satisfied
    refine ⟨satisfied, ?_, ?_⟩
    · intro other isCounterpart constrained
      rw [free other isCounterpart] at constrained
      cases constrained
    · intro someUnites
      exact absurd noUnites someUnites

/-- A request to stores comes to the joined documents, whether they are found by joining or by
asking the results core alone. -/
theorem execute_stores (built : query.Built) (valid : query.validate = .ok ())
    (isSet : query.resultsCore = some results) (supported : query.Supported)
    (serve : backends.Serve stores query) :
    (((backends.federator config).execute query).run backends.answer).2 =
      joinedOutcome query stores results := by
  rcases ComposedQuery.single_or_paired built valid isSet with single | ⟨other, paired⟩
  · have planned := JoinPlan.ofQuery_single isSet single
    have known : ∀ core ∈ (JoinPlan.mk results SortedMap.empty [] [] []).cores,
        (backends.federator config).requireCore core = .ok () :=
      fun core member => serve.requireCore planned member
    rw [Federator.run_execute isSet valid planned known]
    change Attempt.result backends.answer ((backends.federator config).executeAlone query results) = _
    refine result_alone supported serve planned rfl
      (joined_iff_satisfied single.noUnites ?_) ?_
    · simp [single.noCounterpart]
    · simp [single.noCounterpart]
  · obtain ⟨plan, planned, joins⟩ := JoinPlan.ofQuery_paired isSet paired
    have known : ∀ core ∈ plan.cores, (backends.federator config).requireCore core = .ok () :=
      fun core member => serve.requireCore planned member
    rw [Federator.run_execute isSet valid planned known]
    by_cases alone : plan.isPassThrough = true
    · obtain ⟨free, noFacets, noUnites⟩ := joins.isPassThrough_iff.mp alone
      rw [if_pos alone, joins.resultsCore]
      refine result_alone supported serve planned joins.resultsCore
        (joined_iff_satisfied noUnites ?_) ?_
      · simpa [paired.isCounterpart] using free
      · simpa [paired.isCounterpart] using noFacets
    · rw [if_neg alone]
      exact result_join supported serve planned paired joins

end Execution

/-- There are hits if few documents are joined, or if the values they are sorted by are consistently
ordered. -/
theorem rankedHits_isSome (orderly : (query.joined stores results).length ≤ insertionLength ∨
      ∀ key ∈ query.options.sortKeys, key.core = results →
        IsPreorderOn compareValues (Scored.valuesUnder key
          ((query.joined stores results).map (Scored.under (query.rankQueryFor results))))) :
    (query.rankedHits stores results).isSome = true := by
  unfold ComposedQuery.rankedHits QueryOptions.ordered
  rw [Option.isSome_map]
  rcases orderly with few | consistent
  · exact Scored.rank_isSome (Or.inl (by simpa using few))
  · refine Scored.rank_isSome (Or.inr fun key member => ?_)
    obtain ⟨inOptions, ofResults⟩ := List.mem_filter.mp member
    exact consistent key inOptions (by simpa using ofResults)

/-- The hits are those of the joined documents, however they were found; if these cannot be put in
order, the request breaks off. -/
theorem hits_of_joined {backends : Backends Expression} (config : FederatorConfig)
    (built : query.Built) (valid : query.validate = .ok ())
    (isSet : query.resultsCore = some results) (supported : query.Supported)
    (serve : backends.Serve stores query) :
    let outcome := (((backends.federator config).execute query).run backends.answer).2
    (∀ ordered, query.rankedHits stores results = some ordered →
      ∃ response, outcome = .ok response ∧ response.total = ordered.length ∧
        response.hits = (query.options.page ordered).map (·.hit)) ∧
    (query.rankedHits stores results = none → outcome = .error .crash) ∧
    ((query.joined stores results).length ≤ insertionLength ∨
      (∀ key ∈ query.options.sortKeys, key.core = results →
        IsPreorderOn compareValues (Scored.valuesUnder key
          ((query.joined stores results).map (Scored.under (query.rankQueryFor results))))) →
      ∃ response, outcome = .ok response) := by
  dsimp only
  rw [execute_stores built valid isSet supported serve]
  refine ⟨?ordered, ?broken, ?orderly⟩
  case ordered =>
      intro ordered found
      refine ⟨joinedResponse query stores results ordered, ?_, rfl, rfl⟩
      unfold joinedOutcome
      rw [found]
  case broken =>
      intro none
      unfold joinedOutcome
      rw [none]
  case orderly =>
      intro orderly
      obtain ⟨ordered, found⟩ := Option.isSome_iff_exists.mp (rankedHits_isSome orderly)
      refine ⟨joinedResponse query stores results ordered, ?_⟩
      unfold joinedOutcome
      rw [found]

def library : String → Store
  | "A" => {
      name := "A"
      documents := [
        Document.addValue { id := "1" } "author" "x",
        Document.addValue { id := "2" } "author" "y"] }
  | _ => {
      name := "B"
      documents := [
        ((Document.addValue { id := "3" } "name" "x").addValue "from" "NL").addPath "land" ["NL"],
        ((Document.addValue { id := "4" } "name" "y").addValue "from" "BE").addPath "land" ["BE"]] }

def dutchBooks : ComposedQuery Expression :=
  ({} : ComposedQuery Expression).edited
    [.setResultsCore "A", .addMatch [("A", "author"), ("B", "name")],
      .addFilter "B" (.ofField "from" "NL"), .addFacet "B" ⟨"land", [], 0, none⟩]

def libraryBackends : Backends Expression :=
  SortedMap.ofList [("A", (library "A").backend), ("B", (library "B").backend)]

theorem dutchBooks_supported : dutchBooks.Supported := by
  unfold ComposedQuery.Supported
  decide +kernel

theorem libraryBackends_serve : libraryBackends.Serve library dutchBooks := by
  intro plan planned core member
  have computed : (JoinPlan.ofQuery dutchBooks).map JoinPlan.cores = .ok ["A", "B"] := by rfl
  rw [planned] at computed
  rw [Except.ok.inj computed] at member
  rcases List.mem_pair.mp member with rfl | rfl
  · rfl
  · rfl

theorem dutchBooks_hits : ∃ response,
    (((libraryBackends.federator {}).execute dutchBooks).run libraryBackends.answer).2 =
      .ok response ∧ response.total = 1 := by
  have built : dutchBooks.Built := ComposedQuery.Built.empty.edited _
  have ranked : (dutchBooks.rankedHits library "A").map List.length = some 1 := by decide +kernel
  obtain ⟨ordered, found, length⟩ := Option.map_eq_some_iff.mp ranked
  obtain ⟨response, done, total, _⟩ := (hits_of_joined {} built (by rfl) (by rfl)
    dutchBooks_supported libraryBackends_serve).1 ordered found
  exact ⟨response, done, total.trans length⟩

/-- Years of which some are no numbers: "9" is below "10" as a number, "10" is below "1a" and "1a"
below "9" as texts. -/
def mixedYears : Store where
  name := "A"
  documents := (List.range 21).map fun index =>
    Document.addValue { id := toString index } "year"
      (["9", "10", "1a"][index % 8 % 3]?.getD "")

def byYear : ComposedQuery Expression :=
  ({} : ComposedQuery Expression).edited
    [.setResultsCore "A", .addSortKey ⟨"A", "year", false⟩, .setStop 0]

def yearBackends : Backends Expression :=
  SortedMap.ofList [("A", mixedYears.backend)]

/-- A request to sort by such years breaks off, though every document is a hit. -/
theorem mixedYears_break :
    byYear.Built ∧ byYear.validate = .ok () ∧ byYear.resultsCore = some "A" ∧ byYear.Supported ∧
      yearBackends.Serve (fun _ => mixedYears) byYear ∧
      byYear.joined (fun _ => mixedYears) "A" = mixedYears.documents ∧
      (((yearBackends.federator {}).execute byYear).run yearBackends.answer).2 =
        .error .crash := by
  have built : byYear.Built := ComposedQuery.Built.empty.edited _
  have valid : byYear.validate = .ok () := by rfl
  have isSet : byYear.resultsCore = some "A" := by rfl
  have supported : byYear.Supported := by
    unfold ComposedQuery.Supported
    decide +kernel
  have serve : yearBackends.Serve (fun _ => mixedYears) byYear := by
    intro plan planned core member
    have computed : (JoinPlan.ofQuery byYear).map JoinPlan.cores = .ok ["A"] := by rfl
    rw [planned] at computed
    rw [Except.ok.inj computed] at member
    obtain rfl := List.mem_singleton.mp member
    rfl
  have broken : (byYear.rankedHits (fun _ => mixedYears) "A").isNone = true := by decide +kernel
  refine ⟨built, valid, isSet, supported, serve, by decide +kernel, ?_⟩
  rw [execute_stores built valid isSet supported serve]
  unfold joinedOutcome
  rw [Option.isNone_iff_eq_none.mp broken]

theorem facetBlocks_eq_nil_iff : query.facetBlocks stores results = [] ↔
    query.facetsFor results = [] ∧
      ∀ other ∈ query.counterpart?, query.facetsFor other.core = [] := by
  unfold ComposedQuery.facetBlocks
  rw [List.append_eq_nil_iff, List.map_eq_nil_iff, List.flatMap_eq_nil_iff]
  simp only [Option.mem_toList, Option.mem_def, List.map_eq_nil_iff]

/-- The facets of the results core are counted over all joined documents and those of its
counterpart over all that is joined to them; they are left out if none were asked for. -/
theorem facets_of_joined {backends : Backends Expression} (config : FederatorConfig)
    (built : query.Built) (valid : query.validate = .ok ())
    (isSet : query.resultsCore = some results) (supported : query.Supported)
    (serve : backends.Serve stores query) :
    let outcome := (((backends.federator config).execute query).run backends.answer).2
    ((∃ response, outcome = .ok response) ↔
      (query.rankedHits stores results).isSome = true) ∧
    ∀ response, outcome = .ok response →
      response.facets =
        if query.facetsFor results = [] ∧
            ∀ other ∈ query.counterpart?, query.facetsFor other.core = [] then none
        else some ((query.facetsFor results).map (fun facet =>
            (facet.count (query.joined stores results)).tagged results) ++
          query.counterpart?.toList.flatMap fun other =>
            (query.facetsFor other.core).map fun facet =>
              (facet.count (query.joinedAt stores results other)).tagged other.core) := by
  dsimp only
  rw [execute_stores built valid isSet supported serve]
  unfold joinedOutcome
  cases query.rankedHits stores results with
  | none => simp
  | some ordered =>
      refine ⟨by simp, ?_⟩
      intro response isResponse
      rw [← Except.ok.inj isResponse]
      unfold joinedResponse
      by_cases none : query.facetBlocks stores results = []
      · rw [if_pos (facetBlocks_eq_nil_iff.mp none), none]
        rfl
      · rw [if_neg (fun noFacets => none (facetBlocks_eq_nil_iff.mpr noFacets)),
          if_neg (fun isEmpty => none (List.isEmpty_iff.mp isEmpty))]
        rfl

theorem dutchBooks_facets : ∃ response,
    (((libraryBackends.federator {}).execute dutchBooks).run libraryBackends.answer).2 =
      .ok response ∧
    response.facets.map (·.map fun block =>
      (block.core, block.terms.map fun found => (found.term, found.count))) =
        some [(some "B", [("NL", 1)])] := by
  have built : dutchBooks.Built := ComposedQuery.Built.empty.edited _
  have ranked : (dutchBooks.rankedHits library "A").isSome = true := by decide +kernel
  obtain ⟨succeeds, counted⟩ := facets_of_joined {} built (by rfl) (by rfl)
    dutchBooks_supported libraryBackends_serve
  obtain ⟨response, done⟩ := succeeds.mpr ranked
  refine ⟨response, done, ?_⟩
  rw [counted response done]
  decide +kernel

end FederatedSearch
