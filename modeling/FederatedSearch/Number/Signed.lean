/-! Rational numbers by sign and magnitude. Zero has a sign as well. -/

namespace FederatedSearch

structure SignedRat where
  negative : Bool
  magnitude : Rat
deriving DecidableEq

namespace SignedRat

def ofRat (x : Rat) : SignedRat :=
  ⟨x < 0, x.abs⟩

def value (x : SignedRat) : Rat :=
  if x.negative then -x.magnitude else x.magnitude

end SignedRat

end FederatedSearch
