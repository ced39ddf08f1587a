/-! Sets of characters given by inclusive ranges of code points. The tables of the Unicode
properties in this folder start after ASCII, which each property treats on its own. -/

namespace FederatedSearch

abbrev CodeRanges := List (Nat × Nat)

def CodeRanges.contains (ranges : CodeRanges) (c : Char) : Bool :=
  ranges.any fun range => range.1 ≤ c.toNat && c.toNat ≤ range.2

def isAscii (c : Char) : Bool :=
  c.toNat < 128

end FederatedSearch
