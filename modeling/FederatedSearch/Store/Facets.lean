import FederatedSearch.Search.Facet
import FederatedSearch.SortedSet
import FederatedSearch.Sorting.Insertion
import FederatedSearch.Store.Document

/-! Counting documents by the categories they stand under. -/

namespace FederatedSearch

def Drilldown.holds (drilldown : Drilldown) (document : Document) : Bool :=
  (document.paths drilldown.field).any drilldown.path.isPrefixOf

namespace FacetRequest

def termsOf (request : FacetRequest) (document : Document) : SortedSet String :=
  SortedSet.ofList <| (document.paths request.field).filterMap fun path =>
    if request.path.isPrefixOf path then path[request.path.length]? else none

def counts (request : FacetRequest) (documents : List Document) : List FacetTerm :=
  let termSets := documents.map request.termsOf
  (SortedSet.ofList (termSets.flatMap (·.toList))).toList.map fun term =>
    { term, count := termSets.countP (·.contains term), subterms := none }

def sorted (request : FacetRequest) (terms : List FacetTerm) : List FacetTerm :=
  match request.sort with
  | none => terms
  | some .count =>
    stableSort
      (fun first second =>
        (compare second.count first.count).then (compare first.term second.term) == .lt)
      terms

def limited (request : FacetRequest) (terms : List FacetTerm) : List FacetTerm :=
  if request.maxTerms = 0 then terms else terms.take request.maxTerms

def count (request : FacetRequest) (documents : List Document) : FacetBlock where
  core := none
  field := request.field
  path := request.path
  terms := request.limited (request.sorted (request.counts documents))

end FacetRequest

end FederatedSearch
