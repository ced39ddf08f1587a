import FederatedSearch.Composed.Edit
import FederatedSearch.Query.Extraction
import FederatedSearch.Settings.Config
import FederatedSearch.Translation.Request

/-! Translating a caller's request into a composed query. A name `core.rest` speaks of that core if
it is a configured one other than the results core; every other name speaks of the results core. -/

namespace FederatedSearch

def parseQuery (text : String) : Except RequestError Expression :=
  match parse text with
  | .ok query => .ok query
  | .error error => .error (.queryParse error)

abbrev QueryParser :=
  String → Except RequestError Expression

structure Translator where
  config : TranslatorConfig
  grouping : Bool
  clustering : Bool
  localName : String → String
  parser : QueryParser := parseQuery

structure TranslatedRequest where
  query : ComposedQuery Expression
  facetOrder : List (String × List String)
  callerNames : SortedMap CorePair String
  resultsCore : String

def filterArgument : String :=
  "x-filter"

def rankArgument : String :=
  "x-rank-query"

def dedupArgument : String :=
  "x-filter-common-keys"

def groupingArgument : String :=
  "x-grouping"

def clusteringArgument : String :=
  "x-clustering"

def QueryInput.read (parser : QueryParser) : QueryInput → Except RequestError Expression
  | .text unread => parser unread
  | .expression query => .ok query

namespace Translator

def withParser (parser : QueryParser) (config : TranslatorConfig) (localName : String → String) :
    Except ConfigError Translator := do
  config.validate
  return { config, grouping := config.groupingField.isSome, clustering := true, localName, parser }

def ofConfig : TranslatorConfig → (String → String) → Except ConfigError Translator :=
  withParser parseQuery

def updated (translator : Translator) (runtime : RuntimeConfig) : Translator :=
  { translator with
    grouping :=
      translator.config.groupingField.isSome && runtime.isEnabled Feature.grouping.name
    clustering := runtime.isEnabled Feature.clustering.name }

def resolve (translator : Translator) (name : String) : String × String :=
  let resultsCore := translator.config.resultsCore
  match cutAt? "." name with
  | none => (resultsCore, name)
  | some (core, rest) =>
    if core ≠ resultsCore && translator.config.cores.contains core then (core, rest)
    else (resultsCore, name)

def readFor (translator : Translator) (text : String) :
    Except RequestError (String × Expression) := do
  let (core, rest) := translator.resolve text
  return (core, ← translator.parser rest)

def filters (translator : Translator) (extracted : Extraction) (request : SearchRequest) :
    Except RequestError (List (String × Expression)) := do
  let own := extracted.filters.entries.flatMap fun (core, filters) =>
    filters.map fun filter => (core, filter)
  let argued ← (request.extra filterArgument).mapM translator.readFor
  let given ← request.filters.mapM fun (core, text) => do return (core, ← translator.parser text)
  return own ++ argued ++ given

def rankQueries (translator : Translator) (request : SearchRequest) :
    Except RequestError (List (String × Expression)) := do
  let read ← (request.extra rankArgument).mapM translator.readFor
  return (SortedMap.grouped read).entries.filterMap fun (core, queries) =>
    (Expression.anyOf queries).map fun query => (core, query)

def sortKey (translator : Translator) (key : SortKeyRequest) : SortKey :=
  let (core, field) := translator.resolve key.name
  { core, field, descending := key.descending }

def dedups (translator : Translator) (request : SearchRequest) : Option String :=
  translator.config.dedupField.filter fun _ =>
    (request.extraFlag? dedupArgument).getD translator.config.dedupByDefault

def groups (translator : Translator) (query : Option Expression) (request : SearchRequest) :
    Option String :=
  if translator.grouping && request.extraFlag? groupingArgument = some true &&
      !query.any (·.isMatchAll) then
    translator.config.groupingField
  else none

def clusters (translator : Translator) (request : SearchRequest) : Bool :=
  translator.clustering && request.extraFlag? clusteringArgument = some true

def facetSort (name : String) : Except RequestError FacetSort :=
  match FacetSort.ofName? name with
  | some sort => .ok sort
  | none => .error (.unsupportedFacetSort name)

structure RoutedFacet where
  name : String
  core : String
  request : FacetRequest

def routeFacet (translator : Translator) (facet : FacetField) :
    Except RequestError RoutedFacet := do
  let (name, path) := pieces '>' facet.name
  let (core, field) := translator.resolve name
  let sort ← facet.sort.mapM facetSort
  return {
    name, core
    request := { field := translator.localName field, path, maxTerms := facet.maxTerms, sort } }

def routeDrilldown (translator : Translator) (drilldown : String × List String) :
    String × Drilldown :=
  let (core, field) := translator.resolve drilldown.1
  (core, { field := translator.localName field, path := drilldown.2 })

def edits (translator : Translator) (request : SearchRequest) (query : Option Expression)
    (filters rankQueries : List (String × Expression)) (facets : List RoutedFacet) :
    List (Edit Expression) :=
  let resultsCore := translator.config.resultsCore
  request.start.toList.map .setStart ++
    request.stop.toList.map .setStop ++
    request.suggestions.toList.map .setSuggestions ++
    query.toList.map (.setCoreQuery resultsCore) ++
    filters.map (fun (core, filter) => .addFilter core filter) ++
    request.sortKeys.map (fun key => .addSortKey (translator.sortKey key)) ++
    rankQueries.map (fun (core, rank) => .setRankQuery core rank) ++
    (translator.dedups request).toList.map (.setDedup · translator.config.dedupSortField) ++
    (translator.groups query request).toList.map .setGroupingField ++
    (if translator.clusters request then [.setClustering true] else []) ++
    facets.map (fun facet => .addFacet facet.core facet.request) ++
    request.drilldowns.map fun drilldown =>
      let (core, routed) := translator.routeDrilldown drilldown
      .addDrilldown core routed

def matchEdits (translator : Translator) : List (Edit Expression) :=
  translator.config.matchings.map fun sides =>
    .addMatch (sides.map fun side => (side.core, side.key))

def applyAll (query : ComposedQuery Expression) :
    List (Edit Expression) → Except RequestError (ComposedQuery Expression)
  | [] => .ok query
  | edit :: rest => do applyAll (← edit.apply query) rest

structure ReadRequest where
  extracted : Extraction
  filters : List (String × Expression)
  rankQueries : List (String × Expression)
  facets : List RoutedFacet

def read (translator : Translator) (request : SearchRequest) : Except RequestError ReadRequest := do
  let query ← request.query.read translator.parser
  let extracted :=
    Extraction.ofQuery translator.config.cores translator.config.resultsCore query
  let filters ← translator.filters extracted request
  let rankQueries ← translator.rankQueries request
  let facets ← request.facets.mapM translator.routeFacet
  return { extracted, filters, rankQueries, facets }

def build (translator : Translator) (request : SearchRequest) :
    Except RequestError TranslatedRequest := do
  let resultsCore := translator.config.resultsCore
  let start ← applyAll (.ofResultsCore resultsCore) translator.matchEdits
  let read ← translator.read request
  let query ← applyAll start <|
    translator.edits request read.extracted.query read.filters read.rankQueries read.facets
  return {
    query
    facetOrder := read.facets.map fun facet => (facet.name, facet.request.path)
    callerNames := SortedMap.ofList <|
      read.facets.map fun facet => (⟨facet.core, facet.request.field⟩, facet.name)
    resultsCore }

def compose (translator : Translator) (request : SearchRequest) :
    Except Failure TranslatedRequest :=
  match translator.build request with
  | .error error => .error (.request error)
  | .ok translated => do
    translated.query.validate
    return translated

end Translator

end FederatedSearch
