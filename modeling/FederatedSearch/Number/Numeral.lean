import FederatedSearch.Number.Binary

/-! Texts that are numbers, and the order of the numbers they are. A number has an optional sign and
is written in words, as `inf`, `infinity` or `nan` in any case of letters, or in decimal digits,
with an optional point that has a digit on at least one side and an optional exponent. -/

namespace FederatedSearch

inductive Numeral where
  | notANumber
  | infinite (negative : Bool)
  | finite (value : Rat)
deriving DecidableEq

namespace Numeral

def ofDigits (digits : List Char) : Nat :=
  digits.foldl (fun number digit => 10 * number + (digit.toNat - '0'.toNat)) 0

def readExponent? (text : List Char) : Option Int :=
  let (negative, digits) :=
    match text with
    | '-' :: rest => (true, rest)
    | '+' :: rest => (false, rest)
    | rest => (false, rest)
  if digits.isEmpty || !digits.all Char.isDigit then none
  else some (if negative then -(ofDigits digits : Int) else ofDigits digits)

/-- The number `mantissa * 10 ^ exponent` with a sign. What has more than 310 digits before the
point is beyond 64 bits, and what starts more than 330 digits behind it is nearest to zero. -/
def ofScientific (negative : Bool) (mantissa : Nat) (exponent : Int) : Numeral :=
  let magnitude := (Nat.toDigits 10 mantissa).length + exponent
  if mantissa = 0 || magnitude < -330 then .finite 0
  else if 310 < magnitude then .infinite negative
  else
    match binary64.round? (mantissa * 10 ^ exponent) with
    | none => .infinite negative
    | some value => .finite (if negative then -value else value)

def readDigits? (negative : Bool) (text : List Char) : Option Numeral :=
  let whole := text.takeWhile Char.isDigit
  let (fraction, rest) :=
    match text.dropWhile Char.isDigit with
    | '.' :: rest => (rest.takeWhile Char.isDigit, rest.dropWhile Char.isDigit)
    | rest => ([], rest)
  if whole.isEmpty && fraction.isEmpty then none
  else
    let exponent :=
      match rest with
      | [] => some 0
      | e :: digits => if e = 'e' || e = 'E' then readExponent? digits else none
    exponent.map fun exponent =>
      ofScientific negative (ofDigits (whole ++ fraction)) (exponent - fraction.length)

def readUnsigned? (negative : Bool) (text : List Char) : Option Numeral :=
  let lowered := text.map Char.toLower
  if lowered = "nan".toList then some .notANumber
  else if lowered = "inf".toList || lowered = "infinity".toList then some (.infinite negative)
  else readDigits? negative text

def read? (text : String) : Option Numeral :=
  match text.toList with
  | '-' :: rest => readUnsigned? true rest
  | '+' :: rest => readUnsigned? false rest
  | rest => readUnsigned? false rest

def compareRat (first second : Rat) : Ordering :=
  if first < second then .lt else if second < first then .gt else .eq

/-- The order of two numbers; a text that is not a number in value is level with all of them. -/
def compare : Numeral → Numeral → Ordering
  | .notANumber, _ => .eq
  | _, .notANumber => .eq
  | .infinite first, .infinite second =>
    if first = second then .eq else if first then .lt else .gt
  | .infinite negative, .finite _ => if negative then .lt else .gt
  | .finite _, .infinite negative => if negative then .gt else .lt
  | .finite first, .finite second => compareRat first second

theorem compareRat_self (x : Rat) : compareRat x x = .eq := by
  simp only [compareRat, Rat.lt_irrefl, if_false]

end Numeral

def compareValues (first second : String) : Ordering :=
  match Numeral.read? first, Numeral.read? second with
  | some first, some second => first.compare second
  | _, _ => Ord.compare first second

end FederatedSearch
