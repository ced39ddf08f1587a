import FederatedSearch.Composed.Conversion
import FederatedSearch.Federation.Execution

/-! Executing requests whose queries have first to be converted to those the cores understand. -/

namespace FederatedSearch

def Federator.executeConverted {Q R : Type} (federator : Federator)
    (convert : Q → Except RequestError R) (query : ComposedQuery Q) :
    Session R (Except Failure SearchResponse) :=
  match query.tryConvert convert with
  | .error error => return .error (.request error)
  | .ok converted => federator.execute converted

end FederatedSearch
