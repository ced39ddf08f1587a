import FederatedSearch.Composed.Basic

/-! The steps by which a composed query is built, as data. -/

namespace FederatedSearch

inductive Edit (Q : Type) where
  | setResultsCore (core : String)
  | add (core : String) (query : Option Q) (facets : List FacetRequest) (filters : List Q)
  | setCoreQuery (core : String) (query : Q)
  | addFilter (core : String) (filter : Q)
  | addFacet (core : String) (facet : FacetRequest)
  | addDrilldown (core : String) (drilldown : Drilldown)
  | setRankQuery (core : String) (query : Q)
  | addSortKey (key : SortKey)
  | addMatch (sides : List (String × String))
  | unite (queries : List (String × Q))
  | setStart (start : Nat)
  | setStop (stop : Nat)
  | setSuggestions (request : SuggestionRequest)
  | setDedup (field : String) (sortField : Option String)
  | setGroupingField (field : String)
  | setClustering (clustering : Bool)

namespace Edit

variable {Q : Type}

def apply (edit : Edit Q) (query : ComposedQuery Q) : Except RequestError (ComposedQuery Q) :=
  match edit with
  | .setResultsCore core => .ok (query.setResultsCore core)
  | .add core main facets filters => .ok (query.add core main facets filters)
  | .setCoreQuery core main => .ok (query.setCoreQuery core main)
  | .addFilter core filter => .ok (query.addFilter core filter)
  | .addFacet core facet => .ok (query.addFacet core facet)
  | .addDrilldown core drilldown => .ok (query.addDrilldown core drilldown)
  | .setRankQuery core rank => .ok (query.setRankQuery core rank)
  | .addSortKey key => .ok (query.addSortKey key)
  | .addMatch sides => query.addMatch sides
  | .unite queries => query.unite queries
  | .setStart start => .ok (query.changeOptions ({ · with start := some start }))
  | .setStop stop => .ok (query.changeOptions ({ · with stop := some stop }))
  | .setSuggestions request => .ok (query.changeOptions ({ · with suggestions := some request }))
  | .setDedup field sortField =>
    .ok (query.changeOptions ({ · with dedupField := some field, dedupSortField := sortField }))
  | .setGroupingField field => .ok (query.changeOptions ({ · with groupingField := some field }))
  | .setClustering clustering => .ok (query.changeOptions ({ · with clustering }))

def applyOrKeep (query : ComposedQuery Q) (edit : Edit Q) : ComposedQuery Q :=
  match edit.apply query with
  | .ok changed => changed
  | .error _ => query

end Edit

def ComposedQuery.edited {Q : Type} (query : ComposedQuery Q) (edits : List (Edit Q)) :
    ComposedQuery Q :=
  edits.foldl Edit.applyOrKeep query

end FederatedSearch
