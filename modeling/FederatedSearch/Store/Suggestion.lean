import FederatedSearch.Search.Options
import FederatedSearch.SortedSet
import FederatedSearch.Store.Document
import FederatedSearch.Text.Blank
import FederatedSearch.Text.LowerCase

/-! Suggesting, for a term, other words that begin as it does. -/

namespace FederatedSearch

def fieldWords (field : String) (documents : List Document) : List String :=
  (SortedSet.ofList <| documents.flatMap fun document =>
    (document.values field).flatMap fun value => (words value).map lowerCase).toList

namespace SuggestionRequest

def suggest (request : SuggestionRequest) (vocabulary : List String) (term : String) :
    List String :=
  let lowered := lowerCase term
  let start := lowered.toList.take 2
  (vocabulary.filter fun word => start.isPrefixOf word.toList && word != lowered).take request.count

def answer (request : SuggestionRequest) (documents : List Document) :
    SortedMap String (List String) :=
  let vocabulary := fieldWords request.field documents
  SortedMap.ofList (request.terms.map fun term => (term, request.suggest vocabulary term))

end SuggestionRequest

end FederatedSearch
