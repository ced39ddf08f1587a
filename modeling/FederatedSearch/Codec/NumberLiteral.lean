import FederatedSearch.Number.Binary
import FederatedSearch.Value

/-! The values that numbers written in decimal digits stand for. A number without a point and an
exponent is an integer if it fits in 64 bits. Any other is computed in 64-bit arithmetic: its
leading digits make an integer of 64 bits, which is multiplied or divided by a power of ten, each
of the three being rounded on its own. So it may be off by some units in the last place. -/

namespace FederatedSearch

structure NumberLiteral where
  negative : Bool
  whole : List Nat
  fraction : List Nat
  exponent : Option Int

namespace NumberLiteral

/-- The number of leading digits that, put behind those of `significand`, still make an integer of
64 bits; and the integer. -/
def absorb (significand : Nat) : List Nat → Nat × Nat
  | [] => (0, significand)
  | digit :: digits =>
    if 10 * significand + digit < UInt64.size then
      let (count, significand) := absorb (10 * significand + digit) digits
      (count + 1, significand)
    else (0, significand)

def maxPower : Nat :=
  308

def nearest (x : Rat) : Rat :=
  (binary64.round? x).getD 0

def power (exponent : Nat) : Rat :=
  nearest (10 ^ exponent)

def divide (x : Rat) (exponent : Nat) : Rat :=
  if exponent ≤ maxPower then nearest (x / power exponent)
  else if x = 0 then 0
  else divide (nearest (x / power maxPower)) (exponent - maxPower)
termination_by exponent
decreasing_by simp only [maxPower] at *; omega

def scale (significand : Nat) (exponent : Int) : Option Rat :=
  let x := nearest significand
  if exponent < 0 then some (divide x exponent.natAbs)
  else if exponent.natAbs ≤ maxPower then binary64.round? (x * power exponent.natAbs)
  else if x = 0 then some 0
  else none

def magnitude? (literal : NumberLiteral) : Option Rat :=
  let (count, significand) := absorb 0 literal.whole
  let (fractionCount, significand) := absorb significand literal.fraction
  scale significand
    ((literal.whole.length - count : Nat) - (fractionCount : Int) + literal.exponent.getD 0)

def value? (literal : NumberLiteral) : Option Value :=
  let (count, integer) := absorb 0 literal.whole
  if count = literal.whole.length ∧ literal.fraction = [] ∧ literal.exponent = none ∧
      (literal.negative → 0 < integer ∧ 2 * integer ≤ UInt64.size) then
    some (.integer (if literal.negative then -integer else integer))
  else literal.magnitude?.map fun magnitude => .real ⟨literal.negative, magnitude⟩

end NumberLiteral

end FederatedSearch
