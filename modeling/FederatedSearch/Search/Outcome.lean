import FederatedSearch.Error
import FederatedSearch.Search.Core

/-! What becomes of a search. -/

namespace FederatedSearch

inductive Outcome where
  | answered (response : CoreResponse)
  | failed (error : BackendError)
  | panicked

end FederatedSearch
