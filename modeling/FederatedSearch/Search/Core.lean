import FederatedSearch.Search.Facet
import FederatedSearch.Search.Options
import FederatedSearch.SortedSet
import FederatedSearch.Value

/-! What is asked of one core and what it answers, and the response to a whole request. -/

namespace FederatedSearch

structure KeyFilter where
  field : String
  keys : SortedSet String
deriving DecidableEq

structure CoreSearch (Q : Type) where
  query : Option Q := none
  filters : List Q := []
  rankQuery : Option Q := none
  drilldowns : List Drilldown := []
  keyFilters : List KeyFilter := []
  collectKeys : Option String := none
  facets : List FacetRequest := []
  options : QueryOptions := {}
deriving DecidableEq

inductive Score where
  | finite (value : SignedRat)
  | infinite (negative : Bool)
deriving DecidableEq

structure Hit where
  id : String
  score : Score
  storedFields : SortedMap String Value

structure CoreResponse where
  total : Nat := 0
  hits : List Hit := []
  facets : Option (List FacetBlock) := none
  collectedKeys : Option (SortedSet String) := none
  suggestions : Option (SortedMap String (List String)) := none

def CoreResponse.tagged (core : String) (response : CoreResponse) : CoreResponse :=
  { response with facets := response.facets.map (·.map (·.tagged core)) }

structure SearchResponse where
  total : Nat
  queryTime : Nat := 0
  hits : List Hit
  facets : Option (List FacetBlock)
  suggestions : Option (SortedMap String (List String))

def SearchResponse.ofCore (response : CoreResponse) : SearchResponse where
  total := response.total
  hits := response.hits
  facets := response.facets
  suggestions := response.suggestions

end FederatedSearch
