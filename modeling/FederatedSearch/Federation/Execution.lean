import FederatedSearch.Composed.Plan
import FederatedSearch.Federation.Session
import FederatedSearch.Settings.Config

/-! Executing composed queries over several cores, in three phases: the keys of other cores and of
unites are collected, the results core is searched for documents with those keys, and facets of
other cores are counted over the documents joined to what was found. The request is checked before
the first core is asked; key fields and backends are looked up again where they are used. -/

namespace FederatedSearch

variable {Q : Type}

def coreSearch (query : ComposedQuery Q) (core : String) : CoreSearch Q where
  query := query.queryFor core
  filters := query.filtersFor core
  drilldowns := query.drilldownsFor core

def QueryOptions.forCore (options : QueryOptions) (core : String) : QueryOptions :=
  { options with sortKeys := options.sortKeys.filter (·.core = core) }

def resultsSearch (query : ComposedQuery Q) (core : String) : CoreSearch Q :=
  { coreSearch query core with
    rankQuery := query.rankQueryFor core
    facets := query.facetsFor core
    options := query.options.forCore core }

inductive Purpose where
  | join
  | unite
deriving DecidableEq

def joinSearch (query : ComposedQuery Q) (core key : String) : CoreSearch Q :=
  { coreSearch query core with collectKeys := some key }

def uniteSearch (unite : Unite Q) : CoreSearch Q where
  query := some unite.query
  collectKeys := some unite.keyName

def keySearches (query : ComposedQuery Q) (plan : JoinPlan) :
    Except RequestError (SortedMap String (List (Purpose × CoreSearch Q))) := do
  let joins ← plan.joinCores.mapM fun core => do
    return (core, Purpose.join, joinSearch query core (← plan.keyFor core))
  let unites := query.unites.map fun unite => (unite.core, Purpose.unite, uniteSearch unite)
  return SortedMap.grouped (joins ++ unites)

structure Federator where
  config : FederatorConfig
  cores : SortedSet String

def Federator.requireCore (federator : Federator) (core : String) : Except RequestError Unit :=
  if federator.cores.contains core then .ok () else .error (.unknownCore core)

def Outcome.apart (core : String) : Outcome → Except BackendError CoreResponse
  | .answered response => .ok response
  | .failed error => .error error
  | .panicked => .error (.taskFailed core none)

def Outcome.direct : Outcome → Except Failure CoreResponse
  | .answered response => .ok response
  | .failed error => .error (.backend error)
  | .panicked => .error .crash

def searchApart (core : String) (request : CoreSearch Q) : Attempt Q BackendError CoreResponse :=
  ExceptT.mk (.ask ⟨core, request⟩ fun outcome => .done (outcome.apart core))

def requested {α : Type} (found : Except RequestError α) : Attempt Q Failure α :=
  Attempt.settled (found.mapError .request)

def Federator.searchDirectly (federator : Federator) (core : String) (request : CoreSearch Q) :
    Attempt Q Failure CoreResponse := do
  requested (federator.requireCore core)
  ExceptT.mk (.ask ⟨core, request⟩ fun outcome => .done outcome.direct)

abbrev PurposedKeys :=
  Purpose × SortedSet String

def CoreResponse.keys (response : CoreResponse) : SortedSet String :=
  response.collectedKeys.getD SortedSet.empty

def collectFrom (core : String) :
    List (Purpose × CoreSearch Q) → Attempt Q BackendError (List PurposedKeys)
  | [] => return []
  | (purpose, request) :: rest => do
    let response ← searchApart core request
    let later ← collectFrom core rest
    return (purpose, response.keys) :: later

/-- Starts what is prepared for each item. What was started runs on its own: neither what comes
after it nor what was started before waits for it. -/
def startEach {α β : Type} (prepare : α → Except RequestError (Attempt Q BackendError β)) :
    List α → Attempt Q Failure (List (Except BackendError β))
  | [] => return []
  | item :: rest => do
    let task ← requested (prepare item)
    let ended ← Attempt.apart task
    let others ← startEach prepare rest
    return ended :: others

def awaitAll {α : Type} (tasks : List (Except BackendError α)) : Attempt Q Failure (List α) :=
  Attempt.settled ((tasks.mapM id).mapError .backend)

def Federator.collecting (federator : Federator) (searches : String × List (Purpose × CoreSearch Q)) :
    Except RequestError (Attempt Q BackendError (List PurposedKeys)) := do
  federator.requireCore searches.1
  return collectFrom searches.1 searches.2

def keysFor (purpose : Purpose) (collected : List PurposedKeys) : List (SortedSet String) :=
  collected.filterMap fun (other, keys) => if other = purpose then some keys else none

def combineKeys (collected : List PurposedKeys) : List (SortedSet String) :=
  match keysFor .unite collected with
  | [] => keysFor .join collected
  | first :: others => keysFor .join collected ++ [others.foldl SortedSet.union first]

def primarySearch (query : ComposedQuery Q) (plan : JoinPlan) (resultsKey : String)
    (keys : List (SortedSet String)) : CoreSearch Q :=
  { resultsSearch query plan.resultsCore with
    keyFilters := keys.map fun keys => ⟨resultsKey, keys⟩
    collectKeys := if plan.facetCores.isEmpty then none else some resultsKey }

def facetSearch (query : ComposedQuery Q) (core key : String) (keys : SortedSet String) :
    CoreSearch Q :=
  { coreSearch query core with
    keyFilters := [⟨key, keys⟩]
    facets := query.facetsFor core }

def countFrom (core : String) (request : CoreSearch Q) :
    Attempt Q BackendError (List FacetBlock) := do
  let response ← searchApart core request
  return (response.tagged core).facets.getD []

def Federator.counting (federator : Federator) (query : ComposedQuery Q) (plan : JoinPlan)
    (keys : SortedSet String) (core : String) :
    Except RequestError (Attempt Q BackendError (List FacetBlock)) := do
  let key ← plan.keyFor core
  federator.requireCore core
  return countFrom core (facetSearch query core key keys)

def mergeFacets (plan : JoinPlan) (primary : CoreResponse) (blocks : List FacetBlock) :
    SearchResponse :=
  let own := if plan.facetCores.isEmpty then primary.facets else some (primary.facets.getD [])
  { SearchResponse.ofCore primary with facets := own.map (· ++ blocks) }

namespace Federator

/-- Executes a request that joins cores: keys are collected in the first phase, the results core is
searched for documents with those keys in the second, and the facets of other cores are counted
over the documents joined to what was found in the third. -/
def executeJoin (federator : Federator) (query : ComposedQuery Q) (plan : JoinPlan) :
    Attempt Q Failure SearchResponse := do
  let resultsKey ← requested (plan.keyFor plan.resultsCore)
  let searches ← requested (keySearches query plan)
  let collecting ← startEach federator.collecting searches.entries
  let collected ← awaitAll collecting
  let request := primarySearch query plan resultsKey (combineKeys collected.flatten)
  let answer ← federator.searchDirectly plan.resultsCore request
  let primary := answer.tagged plan.resultsCore
  let counting ← startEach (federator.counting query plan primary.keys) plan.facetCores
  let counted ← awaitAll counting
  return mergeFacets plan primary counted.flatten

def executeAlone (federator : Federator) (query : ComposedQuery Q) (resultsCore : String) :
    Attempt Q Failure SearchResponse := do
  let answer ← federator.searchDirectly resultsCore (resultsSearch query resultsCore)
  return SearchResponse.ofCore (answer.tagged resultsCore)

def withDefaultCore (federator : Federator) (query : ComposedQuery Q) : ComposedQuery Q :=
  match query.resultsCore, federator.config.defaultCore with
  | none, some core => query.setResultsCore core
  | _, _ => query

def planFor (federator : Federator) (query : ComposedQuery Q) : Except Failure JoinPlan := do
  query.validate
  let plan ← (JoinPlan.ofQuery query).mapError .request
  (plan.cores.forM federator.requireCore).mapError .request
  return plan

def execute (federator : Federator) (query : ComposedQuery Q) :
    Session Q (Except Failure SearchResponse) :=
  ExceptT.run do
    let query := federator.withDefaultCore query
    let plan ← Attempt.settled (federator.planFor query)
    if plan.isPassThrough then federator.executeAlone query plan.resultsCore
    else federator.executeJoin query plan

end Federator

end FederatedSearch
