import FederatedSearch.Federation.Execution
import FederatedSearch.Sorting.Insertion
import FederatedSearch.Translation.Translator

/-! Restoring a response to the caller's names and order, and executing requests from one end to
the other. -/

namespace FederatedSearch

namespace TranslatedRequest

def renamed (translated : TranslatedRequest) (block : FacetBlock) : FacetBlock :=
  let core := block.core.getD translated.resultsCore
  { block with field := translated.callerNames.getD ⟨core, block.field⟩ block.field }

def position (translated : TranslatedRequest) (block : FacetBlock) : Nat :=
  translated.facetOrder.idxOf (block.field, block.path)

def restoreBlocks (translated : TranslatedRequest) (blocks : List FacetBlock) : List FacetBlock :=
  stableSort (fun first second => translated.position first < translated.position second)
    (blocks.map translated.renamed)

def restore (translated : TranslatedRequest) (response : SearchResponse) : SearchResponse :=
  { response with facets := response.facets.map translated.restoreBlocks }

end TranslatedRequest

def Translator.execute (translator : Translator) (federator : Federator)
    (request : SearchRequest) : Session Expression (Except Failure SearchResponse) :=
  match translator.compose request with
  | .error failure => return .error failure
  | .ok translated => do
    let response ← federator.execute translated.query
    return response.map translated.restore

end FederatedSearch
