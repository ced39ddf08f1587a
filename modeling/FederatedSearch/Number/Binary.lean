/-! Rounding a rational number to a binary floating-point format. The rounded number is kept
exactly, as a rational. -/

namespace FederatedSearch

def roundEven (x : Rat) : Int :=
  let below := x.floor
  if x - below < 1 / 2 then below
  else if 1 / 2 < x - below then below + 1
  else below + below % 2

def binaryExponent (x : Rat) : Int :=
  let guess := (x.num.natAbs.log2 : Int) - x.den.log2
  if (2 : Rat) ^ guess ≤ x then guess else guess - 1

/-- A format: how many binary digits a number has, below which power of two no digit stands, and
the power of two that every number stays below. -/
structure BinaryFormat where
  precision : Nat
  lowest : Int
  limit : Nat

def binary32 : BinaryFormat :=
  ⟨24, -149, 128⟩

def binary64 : BinaryFormat :=
  ⟨53, -1074, 1024⟩

namespace BinaryFormat

def lastExponent (format : BinaryFormat) (x : Rat) : Int :=
  max format.lowest (binaryExponent x.abs + 1 - format.precision)

def round? (format : BinaryFormat) (x : Rat) : Option Rat :=
  if x = 0 then some 0
  else
    let unit : Rat := 2 ^ format.lastExponent x
    let nearest := roundEven (x / unit) * unit
    if nearest.abs < 2 ^ format.limit then some nearest else none

end BinaryFormat

end FederatedSearch
