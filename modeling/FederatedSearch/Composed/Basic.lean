import FederatedSearch.Composed.Matching
import FederatedSearch.Error
import FederatedSearch.Search.Core

/-! Composed queries: what one request asks of each of the cores it spans, how those cores are
matched, and how the response is to be shaped. -/

namespace FederatedSearch

structure Bundle (Q : Type) where
  core : String
  query : Option Q := none
  filters : List Q := []
  facets : List FacetRequest := []
  drilldowns : List Drilldown := []
  rankQuery : Option Q := none
deriving DecidableEq

def Bundle.isConstrained {Q : Type} (bundle : Bundle Q) : Bool :=
  bundle.query.isSome || !bundle.filters.isEmpty || !bundle.drilldowns.isEmpty

structure Unite (Q : Type) where
  core : String
  keyName : String
  query : Q
deriving DecidableEq

structure ComposedQuery (Q : Type) where
  resultsCore : Option String := none
  bundles : List (Bundle Q) := []
  matchings : Matchings := SortedMap.empty
  unites : List (Unite Q) := []
  options : QueryOptions := {}
deriving DecidableEq

def changeBundle {Q : Type} (core : String) (change : Bundle Q → Bundle Q) :
    List (Bundle Q) → List (Bundle Q)
  | [] => [change { core }]
  | bundle :: rest =>
    if bundle.core = core then change bundle :: rest
    else bundle :: changeBundle core change rest

def orderedPair {α : Type} (operation : PairOperation) (entries : List (String × α)) :
    Except RequestError ((String × α) × (String × α)) :=
  match entries with
  | [first, second] =>
    match compare first.1 second.1 with
    | .lt => .ok (first, second)
    | .gt => .ok (second, first)
    | .eq => .error (.matchArity operation 1)
  | entries => .error (.matchArity operation (SortedSet.ofList (entries.map (·.1))).size)

namespace ComposedQuery

variable {Q : Type}

def change (query : ComposedQuery Q) (core : String) (edit : Bundle Q → Bundle Q) :
    ComposedQuery Q :=
  { query with bundles := changeBundle core edit query.bundles }

def register (query : ComposedQuery Q) (core : String) : ComposedQuery Q :=
  query.change core id

def setResultsCore (query : ComposedQuery Q) (core : String) : ComposedQuery Q :=
  { query.register core with resultsCore := some core }

def ofResultsCore (core : String) : ComposedQuery Q :=
  setResultsCore {} core

def add (query : ComposedQuery Q) (core : String) (main : Option Q) (facets : List FacetRequest)
    (filters : List Q) : ComposedQuery Q :=
  query.change core fun _ => { core, query := main, facets, filters }

def setCoreQuery (query : ComposedQuery Q) (core : String) (main : Q) : ComposedQuery Q :=
  query.change core fun bundle => { bundle with query := some main }

def addFilter (query : ComposedQuery Q) (core : String) (filter : Q) : ComposedQuery Q :=
  query.change core fun bundle => { bundle with filters := bundle.filters ++ [filter] }

def addFacet (query : ComposedQuery Q) (core : String) (facet : FacetRequest) : ComposedQuery Q :=
  query.change core fun bundle => { bundle with facets := bundle.facets ++ [facet] }

def addDrilldown (query : ComposedQuery Q) (core : String) (drilldown : Drilldown) :
    ComposedQuery Q :=
  query.change core fun bundle => { bundle with drilldowns := bundle.drilldowns ++ [drilldown] }

def setRankQuery (query : ComposedQuery Q) (core : String) (rank : Q) : ComposedQuery Q :=
  query.change core fun bundle => { bundle with rankQuery := some rank }

def changeOptions (query : ComposedQuery Q) (edit : QueryOptions → QueryOptions) :
    ComposedQuery Q :=
  { query with options := edit query.options }

def addSortKey (query : ComposedQuery Q) (key : SortKey) : ComposedQuery Q :=
  query.changeOptions fun options => { options with sortKeys := options.sortKeys ++ [key] }

def addMatch (query : ComposedQuery Q) (sides : List (String × String)) :
    Except RequestError (ComposedQuery Q) := do
  let (first, second) ← orderedPair .addMatch sides
  return { query with matchings := query.matchings.declare first second }

def keyNames? (query : ComposedQuery Q) (first second : String) : Option (String × String) :=
  query.matchings.keyNames? first second

def unite (query : ComposedQuery Q) (queries : List (String × Q)) :
    Except RequestError (ComposedQuery Q) := do
  let (first, second) ← orderedPair .unite queries
  match query.keyNames? first.1 second.1 with
  | none => .error (.noMatchForCores [first.1, second.1])
  | some (firstKey, secondKey) =>
    let registered := (query.register first.1).register second.1
    return { registered with
      unites := query.unites ++ [⟨first.1, firstKey, first.2⟩, ⟨second.1, secondKey, second.2⟩] }

def bundle? (query : ComposedQuery Q) (core : String) : Option (Bundle Q) :=
  query.bundles.find? (·.core = core)

def queryFor (query : ComposedQuery Q) (core : String) : Option Q :=
  (query.bundle? core).bind (·.query)

def filtersFor (query : ComposedQuery Q) (core : String) : List Q :=
  ((query.bundle? core).map (·.filters)).getD []

def queriesFor (query : ComposedQuery Q) (core : String) : List Q :=
  (query.queryFor core).toList ++ query.filtersFor core

def facetsFor (query : ComposedQuery Q) (core : String) : List FacetRequest :=
  ((query.bundle? core).map (·.facets)).getD []

def drilldownsFor (query : ComposedQuery Q) (core : String) : List Drilldown :=
  ((query.bundle? core).map (·.drilldowns)).getD []

def rankQueryFor (query : ComposedQuery Q) (core : String) : Option Q :=
  (query.bundle? core).bind (·.rankQuery)

def numberOfCores (query : ComposedQuery Q) : Nat :=
  query.bundles.length

def cores (query : ComposedQuery Q) : List String :=
  let registered := query.bundles.map (·.core)
  match query.resultsCore with
  | none => registered
  | some core => core :: registered.filter (· ≠ core)

def matchingCores (query : ComposedQuery Q) : SortedSet String :=
  SortedSet.ofList (query.matchings.keys.flatMap fun pair => [pair.first, pair.second])

/-- Checks that the request spans one core, or two that are matched, and says which one's documents
it returns. Two bundles of one core leave no second core to look up a match for. -/
def validate (query : ComposedQuery Q) : Except Failure Unit :=
  let count := query.numberOfCores
  if count < 1 || maxCores < count then .error (.request (.unsupportedCoreCount count))
  else if query.resultsCore.isNone then .error (.request .resultsCoreNotSet)
  else if count = 1 then .ok ()
  else if query.matchings.isEmpty then .error (.request .noMatchSet)
  else
    match query.cores with
    | first :: second :: _ =>
      match query.keyNames? first second with
      | some _ => .ok ()
      | none => .error (.request (.noMatchForCores query.cores))
    | _ => .error .crash

end ComposedQuery

end FederatedSearch
