import FederatedSearch.Query.Expression
import FederatedSearch.Search.Options
import FederatedSearch.SortedMap

/-! Requests as callers make them: one query, and names that may carry a core before them. -/

namespace FederatedSearch

inductive QueryInput where
  | text (text : String)
  | expression (query : Expression)
deriving DecidableEq

structure FacetField where
  name : String
  maxTerms : Nat
  sort : Option String := none
deriving DecidableEq

structure SortKeyRequest where
  name : String
  descending : Bool
deriving DecidableEq

structure SearchRequest where
  query : QueryInput := .expression .matchAll
  facets : List FacetField := []
  drilldowns : List (String × List String) := []
  filters : List (String × String) := []
  sortKeys : List SortKeyRequest := []
  start : Option Nat := none
  stop : Option Nat := none
  suggestions : Option SuggestionRequest := none
  extraArguments : SortedMap String (List String) := SortedMap.empty
deriving DecidableEq

namespace SearchRequest

def withFacet (request : SearchRequest) (name : String) (maxTerms : Nat) : SearchRequest :=
  { request with facets := request.facets ++ [{ name, maxTerms }] }

def withDrilldown (request : SearchRequest) (name : String) (path : List String) : SearchRequest :=
  { request with drilldowns := request.drilldowns ++ [(name, path)] }

def withFilter (request : SearchRequest) (core text : String) : SearchRequest :=
  { request with filters := request.filters ++ [(core, text)] }

def withSortKey (request : SearchRequest) (name : String) (descending : Bool) : SearchRequest :=
  { request with sortKeys := request.sortKeys ++ [{ name, descending }] }

def withExtra (request : SearchRequest) (name value : String) : SearchRequest :=
  { request with
    extraArguments :=
      request.extraArguments.update name fun before => before.getD [] ++ [value] }

def extra (request : SearchRequest) (name : String) : List String :=
  request.extraArguments.getD name []

def extraFlag? (request : SearchRequest) (name : String) : Option Bool :=
  (request.extra name).head?.map (· == "true")

end SearchRequest

end FederatedSearch
