import FederatedSearch.SortedMap

/-! Matches between cores: for a pair of cores the field of each whose values are compared. A match
is kept under the pair in ascending order and can be looked up in either. -/

namespace FederatedSearch

structure CorePair where
  first : String
  second : String
deriving DecidableEq

instance : Ord CorePair :=
  ⟨compareLex (compareOn (·.first)) (compareOn (·.second))⟩

instance : Std.TransOrd CorePair :=
  inferInstanceAs (Std.TransCmp (compareLex (compareOn CorePair.first) (compareOn CorePair.second)))

instance : Std.LawfulEqOrd CorePair where
  eq_of_compare {one other} same := by
    have parts := Ordering.then_eq_eq.mp same
    cases one
    cases other
    simp_all [compareOn]

abbrev Matchings :=
  SortedMap CorePair (String × String)

namespace Matchings

def keyNames? (matchings : Matchings) (first second : String) : Option (String × String) :=
  match matchings.get? ⟨first, second⟩ with
  | some keys => some keys
  | none => (matchings.get? ⟨second, first⟩).map Prod.swap

def declare (matchings : Matchings) (first second : String × String) : Matchings :=
  matchings.insert ⟨first.1, second.1⟩ (first.2, second.2)

end Matchings

end FederatedSearch
