import FederatedSearch.Proofs.EditedBundles
import FederatedSearch.Proofs.Grouping
import FederatedSearch.Proofs.MapEntries
import FederatedSearch.Translation.Translator

/-! What a request is composed to: what is asked of each core, and the sort keys, part by part. -/

namespace FederatedSearch

namespace Translator

variable {translator : Translator} {request : SearchRequest} {translated : TranslatedRequest}

section Steps

variable {query changed : ComposedQuery Expression} {edits : List (Edit Expression)}

/-- What is seen of a query after some steps, if what is seen after each is made of what was seen
before it. -/
theorem foldl_of_applyAll {α : Type} (view : ComposedQuery Expression → α)
    {onView : α → Edit Expression → α}
    (each : ∀ {query changed edit}, edit.apply query = .ok changed →
      view changed = onView (view query) edit)
    (done : applyAll query edits = .ok changed) :
    view changed = edits.foldl onView (view query) := by
  induction edits generalizing query with
  | nil =>
      cases done
      rfl
  | cons edit rest ih =>
      obtain ⟨next, first, later⟩ := bind_ok_iff.mp done
      rw [List.foldl_cons, ← each first]
      exact ih later

theorem bundleOf_applyAll (done : applyAll query edits = .ok changed) (core : String) :
    changed.bundleOf core = edits.foldl (Edit.onBundle core) (query.bundleOf core) :=
  foldl_of_applyAll (·.bundleOf core) (fun first => Edit.bundleOf_apply first core) done

theorem options_applyAll (done : applyAll query edits = .ok changed) :
    changed.options = edits.foldl Edit.onOptions query.options :=
  foldl_of_applyAll (·.options) Edit.options_apply done

theorem resultsCore_applyAll (done : applyAll query edits = .ok changed) :
    changed.resultsCore = edits.foldl Edit.onResultsCore query.resultsCore :=
  foldl_of_applyAll (·.resultsCore) Edit.resultsCore_apply done

theorem built_applyAll (built : query.Built) (done : applyAll query edits = .ok changed) :
    changed.Built := by
  induction edits generalizing query with
  | nil =>
      cases done
      exact built
  | cons edit rest ih =>
      obtain ⟨next, first, later⟩ := bind_ok_iff.mp done
      exact ih (built.apply first) later

end Steps

/-! Steps of one kind -/

section Kinds

variable (core : String) (bundle : Bundle Expression)

theorem foldl_addFilter (filters : List (String × Expression)) :
    (filters.map fun (core, filter) => Edit.addFilter core filter).foldl (Edit.onBundle core)
        bundle =
      { bundle with filters := bundle.filters ++ (filters.filter (·.1 = core)).map (·.2) } :=
  Edit.foldl_onBundle_map Prod.fst
    (fun bundle added => { bundle with filters := bundle.filters ++ added.map (·.2) })
    (by simp) (by simp) (fun _ _ => rfl) bundle filters

theorem foldl_addFacet (facets : List RoutedFacet) :
    (facets.map fun facet => Edit.addFacet facet.core facet.request).foldl (Edit.onBundle core)
        bundle =
      { bundle with
        facets := bundle.facets ++ (facets.filter (·.core = core)).map (·.request) } :=
  Edit.foldl_onBundle_map RoutedFacet.core
    (fun bundle added => { bundle with facets := bundle.facets ++ added.map (·.request) })
    (by simp) (by simp) (fun _ _ => rfl) bundle facets

theorem foldl_addDrilldown (drilldowns : List (String × Drilldown)) :
    (drilldowns.map fun (core, drilldown) => (Edit.addDrilldown core drilldown : Edit Expression)
        ).foldl (Edit.onBundle core) bundle =
      { bundle with
        drilldowns := bundle.drilldowns ++ (drilldowns.filter (·.1 = core)).map (·.2) } :=
  Edit.foldl_onBundle_map Prod.fst
    (fun bundle added => { bundle with drilldowns := bundle.drilldowns ++ added.map (·.2) })
    (by simp) (by simp) (fun _ _ => rfl) bundle drilldowns

theorem foldl_setRankQuery (ranks : List (String × Expression)) :
    (ranks.map fun (core, rank) => Edit.setRankQuery core rank).foldl (Edit.onBundle core) bundle =
      { bundle with
        rankQuery := ((ranks.filter (·.1 = core)).map (·.2)).getLast?.or bundle.rankQuery } := by
  refine Edit.foldl_onBundle_map Prod.fst
    (fun bundle set => { bundle with rankQuery := (set.map (·.2)).getLast?.or bundle.rankQuery })
    (by simp) ?_ (fun _ _ => rfl) bundle ranks
  intro bundle first rest
  cases last : (rest.map (·.2)).getLast? <;> simp [List.getLast?_cons, last]

theorem foldl_setCoreQuery (target : String) (main : Option Expression) :
    (main.toList.map (Edit.setCoreQuery target)).foldl (Edit.onBundle core) bundle =
      { bundle with query := if core = target then main.or bundle.query else bundle.query } := by
  cases main with
  | none => simp
  | some query => by_cases same : core = target <;> simp [Edit.onBundle, same]

/-- What the steps of a request make of what is asked of a core. -/
theorem foldl_edits (main : Option Expression) (filters ranks : List (String × Expression))
    (facets : List RoutedFacet) :
    (translator.edits request main filters ranks facets).foldl (Edit.onBundle core) { core } =
      { core
        query := if core = translator.config.resultsCore then main else none
        filters := (filters.filter (·.1 = core)).map (·.2)
        facets := (facets.filter (·.core = core)).map (·.request)
        drilldowns :=
          ((request.drilldowns.map translator.routeDrilldown).filter (·.1 = core)).map (·.2)
        rankQuery := ((ranks.filter (·.1 = core)).map (·.2)).getLast? } := by
  have drilldowns : (request.drilldowns.map fun drilldown =>
        let (target, routed) := translator.routeDrilldown drilldown
        (Edit.addDrilldown target routed : Edit Expression)) =
      (request.drilldowns.map translator.routeDrilldown).map fun (target, routed) =>
        Edit.addDrilldown target routed := by
    rw [List.map_map]
    rfl
  have clustered (bundle : Bundle Expression) :
      (if translator.clusters request then [Edit.setClustering true] else []).foldl
        (Edit.onBundle core) bundle = bundle := by
    split <;> rfl
  rw [edits, drilldowns]
  simp only [List.foldl_append, foldl_addDrilldown, foldl_addFacet, foldl_setRankQuery,
    foldl_addFilter, foldl_setCoreQuery, clustered]
  simp only [List.foldl_map, Edit.onBundle, List.foldl_fixed]
  simp

end Kinds

theorem sortKeys_foldl (edits : List (Edit Expression)) (options : QueryOptions) :
    (edits.foldl Edit.onOptions options).sortKeys =
      options.sortKeys ++ edits.filterMap fun
        | .addSortKey key => some key
        | _ => none := by
  induction edits generalizing options with
  | nil => simp
  | cons edit rest ih =>
      rw [List.foldl_cons, ih]
      cases edit <;> simp [Edit.onOptions]

/-! Steps that give values for cores -/

section Values

variable {α β γ ε : Type} {items : List α}

def valueFor (target : γ → String) (value : γ → β) (core : String) (step : α → Except ε γ)
    (item : α) : Option β :=
  (step item).toOption.bind fun result =>
    if target result = core then some (value result) else none

theorem valueFor_of_ok (target : γ → String) (value : γ → β) (core : String) {step : α → Except ε γ}
    {item : α} {result : γ} (done : step item = .ok result) :
    valueFor target value core step item =
      if target result = core then some (value result) else none := by
  rw [valueFor, done]
  rfl

theorem filterMap_valueFor (target : γ → String) (value : γ → β) (core : String)
    {step : α → Except ε γ} {results : List γ} (done : items.mapM step = .ok results) :
    items.filterMap (valueFor target value core step) =
      (results.filter (target · = core)).map value := by
  have each := mapM_ok_iff.mp done
  clear done
  induction each with
  | nil => rfl
  | @cons item result _ _ isResult _ ih =>
      rw [List.filterMap_cons, valueFor_of_ok target value core isResult]
      by_cases same : target result = core
      · simp [same, ih]
      · simp [same, ih]

end Values

/-! What the parts of a request give for a core -/

section Parts

variable (translator : Translator) (core : String)

def ownedBy (operand : Expression) : Option Expression :=
  if operand.owner? translator.config.cores translator.config.resultsCore = some core then
    some (operand.mapIndexes (unqualifiedIndex core))
  else none

def argumentFor : String → Option Expression :=
  valueFor Prod.fst Prod.snd core translator.readFor

def givenFor : String × String → Option Expression :=
  valueFor Prod.fst Prod.snd core fun (target, text) => do return (target, ← translator.parser text)

def facetFor : FacetField → Option FacetRequest :=
  valueFor RoutedFacet.core RoutedFacet.request core translator.routeFacet

def drilldownFor (drilldown : String × List String) : Option Drilldown :=
  let (target, routed) := translator.routeDrilldown drilldown
  if target = core then some routed else none

end Parts

theorem filtersOf_eq_grouped (cores : SortedSet String) (resultsCore : String)
    (operands : List Expression) :
    Extraction.filtersOf cores resultsCore operands =
      SortedMap.grouped (operands.filterMap fun operand =>
        (operand.owner? cores resultsCore).map fun core =>
          (core, operand.mapIndexes (unqualifiedIndex core))) := by
  rw [Extraction.filtersOf, SortedMap.grouped, List.foldl_filterMap]
  congr 1
  funext filters operand
  cases operand.owner? cores resultsCore <;> rfl

theorem filter_extracted (core : String) (operands : List Expression) :
    ((ungroup (Extraction.filtersOf translator.config.cores translator.config.resultsCore
        operands).entries).filter (·.1 = core)).map (·.2) =
      operands.filterMap (translator.ownedBy core) := by
  rw [filtersOf_eq_grouped, SortedMap.filter_ungroup_grouped]
  induction operands with
  | nil => rfl
  | cons operand rest ih =>
      rw [List.filterMap_cons, List.filterMap_cons, ownedBy]
      cases owner : operand.owner? translator.config.cores translator.config.resultsCore with
      | none => simpa using ih
      | some target =>
          by_cases same : target = core
          · subst same
            simpa using ih
          · simpa [same] using ih

/-- The rank queries for a core are put together to one. -/
theorem filter_combined {groups : List (String × List Expression)} (ascending : Ascending groups)
    (core : String) :
    ((groups.filterMap fun (core, queries) =>
        (Expression.anyOf queries).map fun query => (core, query)).filter (·.1 = core)).map (·.2) =
      (Expression.anyOf ((findEntry core groups).getD [])).toList := by
  have ofCore : (groups.filterMap fun (core, queries) =>
        (Expression.anyOf queries).map fun query => (core, query)).filter (·.1 = core) =
      (groups.filter (·.1 = core)).filterMap fun (core, queries) =>
        (Expression.anyOf queries).map fun query => (core, query) := by
    rw [List.filter_filterMap, List.filterMap_filter]
    refine List.filterMap_congr fun group _ => ?_
    by_cases same : group.1 = core
    · cases combined : Expression.anyOf group.2 <;> simp [same, combined]
    · cases combined : Expression.anyOf group.2 <;> simp [same, combined]
  rw [ofCore, filter_key_eq ascending]
  cases findEntry core groups with
  | none => rfl
  | some queries => cases combined : Expression.anyOf queries <;> simp [combined]

/-! Composing -/

theorem build_of_compose (composed : translator.compose request = .ok translated) :
    translator.build request = .ok translated ∧ translated.query.validate = .ok () := by
  unfold compose at composed
  cases built : translator.build request with
  | error error =>
      rw [built] at composed
      cases composed
  | ok other =>
      rw [built] at composed
      obtain ⟨_, valid, same⟩ := bind_ok_iff.mp composed
      obtain rfl := Except.ok.inj same
      exact ⟨rfl, valid⟩

def bundleFor (translator : Translator) (request : SearchRequest) (query : Expression)
    (core : String) : Bundle Expression where
  core
  query :=
    if core = translator.config.resultsCore then
      Expression.allOf <| Extraction.operandsKept translator.config.cores
        translator.config.resultsCore query.conjuncts
    else none
  filters := query.conjuncts.filterMap (translator.ownedBy core) ++
    (request.extra filterArgument).filterMap (translator.argumentFor core) ++
    request.filters.filterMap (translator.givenFor core)
  facets := request.facets.filterMap (translator.facetFor core)
  drilldowns := request.drilldowns.filterMap (translator.drilldownFor core)
  rankQuery :=
    Expression.anyOf ((request.extra rankArgument).filterMap (translator.argumentFor core))

structure Reads (translator : Translator) (request : SearchRequest) (query : Expression)
    (read : ReadRequest) : Prop where
  isQuery : request.query.read translator.parser = .ok query
  extracted : read.extracted =
    Extraction.ofQuery translator.config.cores translator.config.resultsCore query
  filters : translator.filters read.extracted request = .ok read.filters
  rankQueries : translator.rankQueries request = .ok read.rankQueries
  facets : request.facets.mapM translator.routeFacet = .ok read.facets

theorem read_ok_iff {read : ReadRequest} :
    translator.read request = .ok read ↔ ∃ query, translator.Reads request query read := by
  obtain ⟨extracted, filters, rankQueries, facets⟩ := read
  simp only [Translator.read, bind_ok_iff]
  constructor
  · rintro ⟨query, isQuery, _, areFilters, _, areRanks, _, areFacets, same⟩
    cases same
    exact ⟨query, isQuery, rfl, areFilters, areRanks, areFacets⟩
  · rintro ⟨query, isQuery, rfl, areFilters, areRanks, areFacets⟩
    exact ⟨query, isQuery, _, areFilters, _, areRanks, _, areFacets, rfl⟩

variable {query : Expression} {read : ReadRequest}

theorem Reads.filtersFor (reads : translator.Reads request query read) (core : String) :
    (read.filters.filter (·.1 = core)).map (·.2) =
      (translator.bundleFor request query core).filters := by
  have found := reads.filters
  rw [Translator.filters, reads.extracted] at found
  simp only [bind_ok_iff] at found
  obtain ⟨argued, areArgued, given, areGiven, same⟩ := found
  rw [← Except.ok.inj same, List.filter_append, List.filter_append, List.map_append,
    List.map_append, bundleFor, ← filter_extracted, argumentFor,
    filterMap_valueFor _ _ _ areArgued, givenFor, filterMap_valueFor _ _ _ areGiven]
  rfl

theorem Reads.rankQueryFor (reads : translator.Reads request query read) (core : String) :
    ((read.rankQueries.filter (·.1 = core)).map (·.2)).getLast? =
      (translator.bundleFor request query core).rankQuery := by
  obtain ⟨argued, areArgued, same⟩ := bind_ok_iff.mp reads.rankQueries
  have combined := filter_combined (SortedMap.grouped argued).ascending core
  have ofCore : (findEntry core (SortedMap.grouped argued).entries).getD [] =
      (request.extra rankArgument).filterMap (translator.argumentFor core) := by
    rw [argumentFor, filterMap_valueFor _ _ _ areArgued]
    exact SortedMap.getD_get?_grouped argued core
  rw [← Except.ok.inj same, combined, ofCore, bundleFor]
  cases combined : Expression.anyOf _ <;> rfl

theorem filterMap_drilldownFor (drilldowns : List (String × List String)) (core : String) :
    drilldowns.filterMap (translator.drilldownFor core) =
      ((drilldowns.map translator.routeDrilldown).filter (·.1 = core)).map (·.2) := by
  induction drilldowns with
  | nil => rfl
  | cons drilldown rest ih =>
      rw [List.filterMap_cons, drilldownFor, List.map_cons]
      by_cases same : (translator.routeDrilldown drilldown).1 = core
      · simp [same, ih]
      · simp [same, ih]

theorem Reads.foldl_edits (reads : translator.Reads request query read) (core : String) :
    (translator.edits request read.extracted.query read.filters read.rankQueries read.facets).foldl
        (Edit.onBundle core) { core } = translator.bundleFor request query core := by
  rw [Translator.foldl_edits, reads.filtersFor, reads.rankQueryFor, reads.extracted]
  have facets := filterMap_valueFor RoutedFacet.core RoutedFacet.request core reads.facets
  rw [bundleFor, filterMap_drilldownFor, facetFor, facets]
  rfl

theorem bundleOf_start {start : ComposedQuery Expression}
    (started : applyAll (.ofResultsCore translator.config.resultsCore) translator.matchEdits =
      .ok start) (core : String) : start.bundleOf core = { core } := by
  have registered : (ComposedQuery.ofResultsCore translator.config.resultsCore :
      ComposedQuery Expression).bundleOf core = { core } :=
    ComposedQuery.bundleOf_register {} translator.config.resultsCore core
  rw [bundleOf_applyAll started, registered, matchEdits, List.foldl_map]
  exact List.foldl_fixed' (fun _ => rfl) _

theorem options_start {start : ComposedQuery Expression}
    (started : applyAll (.ofResultsCore translator.config.resultsCore) translator.matchEdits =
      .ok start) : start.options = {} := by
  rw [options_applyAll started, matchEdits, List.foldl_map]
  exact List.foldl_fixed' (fun _ => rfl) _

theorem resultsCore_start {start : ComposedQuery Expression}
    (started : applyAll (.ofResultsCore translator.config.resultsCore) translator.matchEdits =
      .ok start) : start.resultsCore = some translator.config.resultsCore := by
  rw [resultsCore_applyAll started, matchEdits, List.foldl_map]
  exact List.foldl_fixed' (fun _ => rfl) _

theorem resultsCore_edits (main : Option Expression) (filters ranks : List (String × Expression))
    (facets : List RoutedFacet) (resultsCore : Option String) :
    (translator.edits request main filters ranks facets).foldl Edit.onResultsCore resultsCore =
      resultsCore := by
  have clustered : (if translator.clusters request then
      [(.setClustering true : Edit Expression)] else []).foldl Edit.onResultsCore resultsCore =
        resultsCore := by
    split <;> rfl
  rw [edits]
  simp only [List.foldl_append, List.foldl_map, Edit.onResultsCore, List.foldl_fixed, clustered]

theorem sortKeys_edits (main : Option Expression) (filters ranks : List (String × Expression))
    (facets : List RoutedFacet) :
    ((translator.edits request main filters ranks facets).foldl Edit.onOptions {}).sortKeys =
      request.sortKeys.map translator.sortKey := by
  rw [sortKeys_foldl, edits]
  simp [List.filterMap_append, List.filterMap_map]

structure Composes (translator : Translator) (request : SearchRequest) (query : Expression)
    (read : ReadRequest) (translated : TranslatedRequest) : Prop where
  reads : translator.Reads request query read
  built : translated.query.Built
  isSet : translated.query.resultsCore = some translator.config.resultsCore
  bundleOf : ∀ core, translated.query.bundleOf core = translator.bundleFor request query core
  sortKeys : translated.query.options.sortKeys = request.sortKeys.map translator.sortKey
  facetOrder : translated.facetOrder =
    read.facets.map fun facet => (facet.name, facet.request.path)
  callerNames : translated.callerNames = SortedMap.ofList (read.facets.map fun facet =>
    (⟨facet.core, facet.request.field⟩, facet.name))
  resultsCore : translated.resultsCore = translator.config.resultsCore

theorem build_ok (built : translator.build request = .ok translated) :
    ∃ start read, applyAll (.ofResultsCore translator.config.resultsCore) translator.matchEdits =
        .ok start ∧ translator.read request = .ok read ∧
      applyAll start (translator.edits request read.extracted.query read.filters read.rankQueries
        read.facets) = .ok translated.query ∧
      ∃ query, translator.Composes request query read translated := by
  simp only [build, bind_ok_iff] at built
  obtain ⟨start, started, read, isRead, edited, done, same⟩ := built
  obtain ⟨query, reads⟩ := read_ok_iff.mp isRead
  obtain rfl := Except.ok.inj same
  refine ⟨start, read, started, isRead, done, query, reads, ?built, ?isSet, ?bundleOf, ?sortKeys,
    rfl, rfl, rfl⟩
  case built =>
      have startBuilt := built_applyAll (ComposedQuery.Built.empty.edit (.setResultsCore _)) started
      exact built_applyAll startBuilt done
  case isSet => rw [resultsCore_applyAll done, resultsCore_start started, resultsCore_edits]
  case bundleOf =>
      intro core
      rw [bundleOf_applyAll done, bundleOf_start started, reads.foldl_edits]
  case sortKeys => rw [options_applyAll done, options_start started, sortKeys_edits]

theorem exists_composes (composed : translator.compose request = .ok translated) :
    ∃ query read, translator.Composes request query read translated := by
  obtain ⟨_, read, -, -, -, query, composes⟩ := build_ok (build_of_compose composed).1
  exact ⟨query, read, composes⟩

namespace Composes

variable (composes : translator.Composes request query read translated) (core : String)

include composes

theorem queryFor : translated.query.queryFor core =
    if core = translator.config.resultsCore then
      Expression.allOf <| Extraction.operandsKept translator.config.cores
        translator.config.resultsCore query.conjuncts
    else none := by
  rw [ComposedQuery.queryFor_eq, composes.bundleOf]
  rfl

theorem filtersFor : translated.query.filtersFor core =
    query.conjuncts.filterMap (translator.ownedBy core) ++
      (request.extra filterArgument).filterMap (translator.argumentFor core) ++
      request.filters.filterMap (translator.givenFor core) := by
  rw [ComposedQuery.filtersFor_eq, composes.bundleOf]
  rfl

theorem facetsFor :
    translated.query.facetsFor core = request.facets.filterMap (translator.facetFor core) := by
  rw [ComposedQuery.facetsFor_eq, composes.bundleOf]
  rfl

theorem drilldownsFor : translated.query.drilldownsFor core =
    request.drilldowns.filterMap (translator.drilldownFor core) := by
  rw [ComposedQuery.drilldownsFor_eq, composes.bundleOf]
  rfl

theorem rankQueryFor : translated.query.rankQueryFor core =
    Expression.anyOf ((request.extra rankArgument).filterMap (translator.argumentFor core)) := by
  rw [ComposedQuery.rankQueryFor_eq, composes.bundleOf]
  rfl

end Composes

end Translator

end FederatedSearch
