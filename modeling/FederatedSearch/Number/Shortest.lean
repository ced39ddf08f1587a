import FederatedSearch.Number.Binary

/-! The shortest decimal that reads back as a given number of a binary format. -/

namespace FederatedSearch

structure Decimal where
  digits : Nat
  exponent : Int
deriving DecidableEq

def Decimal.value (decimal : Decimal) : Rat :=
  decimal.digits * 10 ^ decimal.exponent

def leadingZeros (x : Rat) : Nat → Nat
  | 0 => 0
  | places + 1 => if 1 ≤ x * 10 then 0 else leadingZeros (x * 10) places + 1

def decimalExponent (x : Rat) : Int :=
  if 1 ≤ x then (Nat.toDigits 10 x.floor.natAbs).length else -leadingZeros x 400

namespace BinaryFormat

def decimalOfLength? (format : BinaryFormat) (x : Rat) (count : Nat) : Option Decimal :=
  let exponent := decimalExponent x - count
  let scaled := x * 10 ^ (-exponent)
  let nearest := (roundEven scaled).natAbs
  let other := if (nearest : Rat) < scaled then nearest + 1 else nearest - 1
  [nearest, other].findSome? fun digits =>
    let decimal : Decimal := ⟨digits, exponent⟩
    if format.round? decimal.value = some x then some decimal else none

def shortest (format : BinaryFormat) (x : Rat) : Decimal :=
  ((List.range 17).findSome? fun less => format.decimalOfLength? x (less + 1)).getD
    ⟨x.floor.natAbs, 0⟩

end BinaryFormat

end FederatedSearch
