/-! Options that shape a response: its page, its order, its suggestions, and which hits are taken as
one. -/

namespace FederatedSearch

structure SortKey where
  core : String
  field : String
  descending : Bool
deriving DecidableEq

structure SuggestionRequest where
  count : Nat
  field : String
  terms : List String
deriving DecidableEq

structure QueryOptions where
  start : Option Nat := none
  stop : Option Nat := none
  sortKeys : List SortKey := []
  suggestions : Option SuggestionRequest := none
  dedupField : Option String := none
  dedupSortField : Option String := none
  groupingField : Option String := none
  clustering : Bool := false
deriving DecidableEq

end FederatedSearch
