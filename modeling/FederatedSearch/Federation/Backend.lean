import FederatedSearch.Federation.Session
import FederatedSearch.SortedMap
import FederatedSearch.Store.Basic

/-! Backends: what answers the searches of a core. -/

namespace FederatedSearch

abbrev Backend (Q : Type) :=
  CoreSearch Q → Outcome

def Store.backend (store : Store) : Backend Expression :=
  store.search

abbrev Backends (Q : Type) :=
  SortedMap String (Backend Q)

def Backends.answer {Q : Type} (backends : Backends Q) (call : Call Q) : Outcome :=
  match backends.get? call.core with
  | some backend => backend call.search
  | none => .panicked

end FederatedSearch
