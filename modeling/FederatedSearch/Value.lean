import FederatedSearch.Number.Signed

/-! Structured values, the form in which requests, responses and settings are exchanged. -/

namespace FederatedSearch

inductive Value where
  | null
  | bool (value : Bool)
  | integer (value : Int)
  | real (value : SignedRat)
  | text (value : String)
  | list (items : List Value)
  | object (fields : List (String × Value))

instance : Inhabited Value :=
  ⟨.null⟩

end FederatedSearch
