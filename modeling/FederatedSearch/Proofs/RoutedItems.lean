import FederatedSearch.Proofs.TouchedCores

/-! Where the items of a request go. What it has for a core is asked of that core in the order of
the request, and over all cores that are registered nothing is lost, made up or asked twice. -/

namespace FederatedSearch

section Sent

variable {α β : Type}

def sentTo (target : α → String) (value : α → β) (items : List α) (core : String) : List β :=
  (items.filter (target · = core)).map value

variable {target : α → String} {value : α → β} {items : List α} {core : String}

theorem filterMap_eq_sentTo {choose : α → Option β} (each : ∀ item ∈ items,
      choose item = if target item = core then some (value item) else none) :
    items.filterMap choose = sentTo target value items core := by
  rw [sentTo, ← List.filterMap_eq_map, List.filterMap_filter]
  refine List.filterMap_congr ?_
  intro item member
  simp [each item member]

theorem flatMap_sentTo_perm {cores : List String} (distinct : cores.Nodup)
    (covered : ∀ item ∈ items, target item ∈ cores) :
    (cores.flatMap (sentTo target value items)).Perm (items.map value) := by
  have gathered := (flatMap_filter_perm distinct covered).map value
  rwa [List.map_flatMap] at gathered

end Sent

namespace Translator

def readText (translator : Translator) (text : String) : Expression :=
  (translator.parser text).toOption.getD default

theorem readText_of_parsed {translator : Translator} {text : String} {query : Expression}
    (parsed : translator.parser text = .ok query) : translator.readText text = query := by
  rw [readText, parsed]
  rfl

section Items

variable (translator : Translator) (request : SearchRequest) (query : Expression)

def ownedOperands : List (String × Expression) :=
  query.conjuncts.filterMap fun operand =>
    (operand.owner? translator.config.cores translator.config.resultsCore).map fun core =>
      (core, operand.mapIndexes (unqualifiedIndex core))

def operandsTo (core : String) : List Expression :=
  sentTo (·.1) (·.2) (translator.ownedOperands query) core

def argumentsTo (name : String) (core : String) : List Expression :=
  sentTo (fun value => (translator.resolve value).1)
    (fun value => translator.readText (translator.resolve value).2) (request.extra name) core

def filtersTo (core : String) : List Expression :=
  sentTo (·.1) (translator.readText ·.2) request.filters core

def facetsTo (core : String) : List FacetRequest :=
  sentTo (fun facet => (translator.routedFacet facet).core)
    (fun facet => (translator.routedFacet facet).request) request.facets core

def drilldownsTo (core : String) : List Drilldown :=
  sentTo (fun drilldown => (translator.resolve drilldown.1).1)
    (fun drilldown => ⟨translator.localName (translator.resolve drilldown.1).2, drilldown.2⟩)
    request.drilldowns core

end Items

structure Routes (translator : Translator) (request : SearchRequest) (query : Expression)
    (composed : ComposedQuery Expression) (core : String) : Prop where
  main : composed.queryFor core =
    if core = translator.config.resultsCore then
      (Extraction.ofQuery translator.config.cores translator.config.resultsCore query).query
    else none
  extracted :
    (Extraction.ofQuery translator.config.cores translator.config.resultsCore query).filters.getD
      core [] = translator.operandsTo query core
  filters : composed.filtersFor core =
    translator.operandsTo query core ++ translator.argumentsTo request filterArgument core ++
      translator.filtersTo request core
  facets : composed.facetsFor core = translator.facetsTo request core
  drilldowns : composed.drilldownsFor core = translator.drilldownsTo request core
  isRanked : (composed.rankQueryFor core).isSome = true ↔
    ∃ value ∈ request.extra rankArgument, (translator.resolve value).1 = core
  ranks : ∀ rank ∈ composed.rankQueryFor core, ∀ document,
    ∃ matched, rank.matchedBy document = .ok matched ∧
      (matched = true ↔ ∃ part ∈ translator.argumentsTo request rankArgument core,
        part.matchedBy document = .ok true)

variable {translator : Translator} {request : SearchRequest} {query : Expression}
  {read : ReadRequest} {translated : TranslatedRequest} {core : String}

theorem filterMap_ownedBy_eq : query.conjuncts.filterMap (translator.ownedBy core) =
    translator.operandsTo query core := by
  rw [← filter_extracted, filtersOf_eq_grouped, SortedMap.filter_ungroup_grouped]
  rfl

theorem filters_getD_eq :
    (Extraction.ofQuery translator.config.cores translator.config.resultsCore query).filters.getD
      core [] = translator.operandsTo query core := by
  unfold Extraction.ofQuery
  dsimp only
  rw [filtersOf_eq_grouped]
  exact SortedMap.getD_get?_grouped _ core

section Readable

variable (readable : translator.Readable request query)

include readable

theorem filterMap_argumentFor {name : String}
    (isRead : name = filterArgument ∨ name = rankArgument) :
    (request.extra name).filterMap (translator.argumentFor core) =
      translator.argumentsTo request name core := by
  refine filterMap_eq_sentTo ?_
  intro value member
  obtain ⟨part, parsed⟩ := readable.arguments value <| by
    rcases isRead with rfl | rfl
    · exact List.mem_append_left _ member
    · exact List.mem_append_right _ member
  have isPart : translator.readFor value = .ok ((translator.resolve value).1, part) :=
    readFor_ok_iff.mpr ⟨rfl, parsed⟩
  rw [argumentFor, valueFor_of_ok _ _ _ isPart, readText_of_parsed parsed]

theorem filterMap_givenFor :
    request.filters.filterMap (translator.givenFor core) = translator.filtersTo request core := by
  refine filterMap_eq_sentTo ?_
  intro filter member
  obtain ⟨part, parsed⟩ := readable.filters filter member
  have isPart : (do return (filter.1, ← translator.parser filter.2) :
      Except RequestError (String × Expression)) = .ok (filter.1, part) :=
    bind_ok_iff.mpr ⟨part, parsed, rfl⟩
  rw [readText_of_parsed parsed]
  exact valueFor_of_ok Prod.fst Prod.snd core isPart

theorem filterMap_facetFor :
    request.facets.filterMap (translator.facetFor core) = translator.facetsTo request core := by
  refine filterMap_eq_sentTo ?_
  intro facet member
  have isRouted : translator.routeFacet facet = .ok (translator.routedFacet facet) :=
    routeFacet_ok_iff.mpr ⟨readable.sorts facet member, rfl⟩
  rw [facetFor, valueFor_of_ok _ _ _ isRouted]

end Readable

theorem filterMap_drilldownFor_eq :
    request.drilldowns.filterMap (translator.drilldownFor core) =
      translator.drilldownsTo request core :=
  filterMap_eq_sentTo fun _ _ => rfl

theorem matchedBy_anyOf {queries : List Expression} {whole : Expression}
    (supported : ∀ part ∈ queries, part.Supported) (isWhole : Expression.anyOf queries = some whole)
    (document : Document) : ∃ matched, whole.matchedBy document = .ok matched ∧
      (matched = true ↔ ∃ part ∈ queries, part.matchedBy document = .ok true) := by
  have isDisjunction : whole = Expression.disjunction queries := by
    rw [Expression.disjunction, isWhole]
    rfl
  have accepts := Expression.accepts_any document queries
  rw [Expression.accepts] at accepts
  rw [isDisjunction, Expression.matchedBy_disjunction,
    Expression.anyMatchedBy_eq document queries supported, accepts]
  refine ⟨_, rfl, ?_⟩
  rw [List.any_eq_true]
  refine exists_congr ?_
  intro part
  refine and_congr_right ?_
  intro member
  rw [Expression.matchedBy_eq document part (supported part member), Except.ok.injEq]

theorem Composes.routes (sound : translator.parser.IsSound)
    (composes : translator.Composes request query read translated) (core : String) :
    translator.Routes request query translated.query core := by
  have readable := composes.reads.readable
  have ofFilters : (request.extra filterArgument).filterMap (translator.argumentFor core) =
      translator.argumentsTo request filterArgument core :=
    filterMap_argumentFor readable (Or.inl rfl)
  have ofRanks : (request.extra rankArgument).filterMap (translator.argumentFor core) =
      translator.argumentsTo request rankArgument core :=
    filterMap_argumentFor readable (Or.inr rfl)
  refine ⟨composes.queryFor core, filters_getD_eq, ?filters, ?facets, ?drilldowns, ?isRanked,
    ?ranks⟩
  case filters =>
      rw [composes.filtersFor, filterMap_ownedBy_eq, ofFilters, filterMap_givenFor readable]
  case facets => rw [composes.facetsFor, filterMap_facetFor readable]
  case drilldowns => rw [composes.drilldownsFor, filterMap_drilldownFor_eq]
  case isRanked =>
      rw [composes.rankQueryFor]
      exact rankQuery_isSome_iff sound readable
  case ranks =>
      intro rank isRank document
      rw [composes.rankQueryFor, ofRanks] at isRank
      refine matchedBy_anyOf ?_ isRank document
      intro part member
      rw [← ofRanks] at member
      obtain ⟨value, -, isPart⟩ := List.mem_filterMap.mp member
      exact supported_argumentFor sound isPart

/-- Over all its cores the composed query asks for what the request has, each item once. -/
structure Keeps (translator : Translator) (request : SearchRequest) (query : Expression)
    (composed : ComposedQuery Expression) : Prop where
  distinct : (composed.bundles.map (·.core)).Nodup
  registered : ∀ core, core ∈ composed.bundles.map (·.core) ↔
    core = translator.config.resultsCore ∨ translator.Touches request query core
  filters : (composed.bundles.flatMap (·.filters)).Perm
    ((translator.ownedOperands query).map (·.2) ++
      (request.extra filterArgument).map (fun value =>
        translator.readText (translator.resolve value).2) ++
      request.filters.map (translator.readText ·.2))
  facets : (composed.bundles.flatMap (·.facets)).Perm
    (request.facets.map fun facet => (translator.routedFacet facet).request)
  drilldowns : (composed.bundles.flatMap (·.drilldowns)).Perm
    (request.drilldowns.map fun drilldown =>
      ⟨translator.localName (translator.resolve drilldown.1).2, drilldown.2⟩)
  sortKeys : composed.options.sortKeys = request.sortKeys.map fun key =>
    ⟨(translator.resolve key.name).1, (translator.resolve key.name).2, key.descending⟩
  unites : composed.unites = []

theorem flatMap_bundles {composed : ComposedQuery Expression} {β : Type}
    (distinct : (composed.bundles.map (·.core)).Nodup) (view : Bundle Expression → List β) :
    composed.bundles.flatMap view =
      (composed.bundles.map (·.core)).flatMap fun core => view (composed.bundleOf core) := by
  rw [List.flatMap_map]
  refine List.flatMap_congr ?_
  intro bundle member
  rw [ComposedQuery.bundleOf_of_mem distinct member]

theorem Composes.keeps (sound : translator.parser.IsSound)
    (composes : translator.Composes request query read translated)
    (registered : ∀ core, core ∈ translated.query.bundles.map (·.core) ↔
      core = translator.config.resultsCore ∨ translator.Touches request query core)
    (unites : translated.query.unites = []) : translator.Keeps request query translated.query := by
  have distinct := composes.built.wellFormed.distinct
  have isRegistered {core : String} (touches : translator.Touches request query core) :
      core ∈ translated.query.outline.registered := (registered core).mpr (Or.inr touches)
  refine ⟨distinct, registered, ?filters, ?facets, ?drilldowns, composes.sortKeys, unites⟩
  case filters =>
      let cores := translated.query.bundles.map (·.core)
      have ofOperands : (cores.flatMap (translator.operandsTo query)).Perm
          ((translator.ownedOperands query).map (·.2)) := by
        refine flatMap_sentTo_perm distinct ?_
        intro owned member
        obtain ⟨operand, inQuery, isOwned⟩ := List.mem_filterMap.mp member
        obtain ⟨owner, isOwner, rfl⟩ := Option.map_eq_some_iff.mp isOwned
        exact isRegistered (.operand inQuery isOwner)
      have ofArguments : (cores.flatMap (translator.argumentsTo request filterArgument)).Perm
          ((request.extra filterArgument).map fun value =>
            translator.readText (translator.resolve value).2) := by
        refine flatMap_sentTo_perm distinct ?_
        intro value member
        exact isRegistered (.filterArgument member)
      have ofGiven : (cores.flatMap (translator.filtersTo request)).Perm
          (request.filters.map (translator.readText ·.2)) := by
        refine flatMap_sentTo_perm distinct ?_
        intro filter member
        exact isRegistered (.filter member)
      rw [flatMap_bundles distinct]
      simp only [← ComposedQuery.filtersFor_eq, (composes.routes sound _).filters]
      have parted := ((List.flatMap_append_perm cores (translator.operandsTo query)
        (translator.argumentsTo request filterArgument)).append_right _).trans
          (List.flatMap_append_perm cores _ (translator.filtersTo request))
      exact parted.symm.trans ((ofOperands.append ofArguments).append ofGiven)
  case facets =>
      rw [flatMap_bundles distinct]
      simp only [← ComposedQuery.facetsFor_eq, (composes.routes sound _).facets]
      refine flatMap_sentTo_perm distinct ?_
      intro facet member
      exact isRegistered (.facet member)
  case drilldowns =>
      rw [flatMap_bundles distinct]
      simp only [← ComposedQuery.drilldownsFor_eq, (composes.routes sound _).drilldowns]
      refine flatMap_sentTo_perm distinct ?_
      intro drilldown member
      exact isRegistered (.drilldown member)

end Translator

end FederatedSearch
