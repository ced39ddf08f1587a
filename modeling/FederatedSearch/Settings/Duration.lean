import FederatedSearch.Text.Blank

/-! Lengths of time written as amounts of units, such as `1h 30m`. A length is read as a sum of
items, each a number, perhaps with a decimal fraction, and a unit. It is written with whole numbers
and each unit at most once, greatest first. -/

namespace FederatedSearch

structure Duration where
  nanoseconds : Nat
deriving DecidableEq

namespace Duration

inductive Fault where
  | malformed
  | overrun
deriving DecidableEq

def second : Nat :=
  1000000000

def monthSeconds : Nat :=
  2630016

def yearSeconds : Nat :=
  31557600

def fit (n : Nat) : Except Fault Nat :=
  if n < UInt64.size then .ok n else .error .malformed

structure Amount where
  seconds : Nat
  nanoseconds : Nat
deriving DecidableEq

namespace Amount

def times (amount : Amount) (n : Nat) : Except Fault Amount := do
  return ⟨← fit (amount.seconds * n), ← fit (amount.nanoseconds * n)⟩

def dividedBy (amount : Amount) (n : Nat) : Except Fault Amount :=
  if amount.seconds % n = 0 ∧ amount.nanoseconds % n = 0 then
    .ok ⟨amount.seconds / n, amount.nanoseconds / n⟩
  else .error .malformed

def plus (amount more : Amount) : Except Fault Amount := do
  let nanoseconds ← fit (amount.nanoseconds + more.nanoseconds)
  let carried := if second < nanoseconds then nanoseconds / second else 0
  let nanoseconds := nanoseconds - carried * second
  let seconds ← fit (amount.seconds + (← fit (more.seconds + carried)))
  if nanoseconds < second then return ⟨seconds, nanoseconds⟩
  else if seconds + 1 < UInt64.size then return ⟨seconds + 1, 0⟩
  else .error .overrun

end Amount

structure TimeUnit where
  names : List String
  length : Amount
  parts : Option Amount

def units : List TimeUnit :=
  [⟨["ns", "nsec", "nanos"], ⟨0, 1⟩, none⟩,
    ⟨["us", "usec", "µs"], ⟨0, 1000⟩, some ⟨0, 1000⟩⟩,
    ⟨["ms", "msec", "millis"], ⟨0, 1000000⟩, some ⟨0, 1000000⟩⟩,
    ⟨["s", "sec", "secs", "second", "seconds"], ⟨1, 0⟩, some ⟨0, second⟩⟩,
    ⟨["m", "min", "mins", "minute", "minutes"], ⟨60, 0⟩, some ⟨0, 60 * second⟩⟩,
    ⟨["h", "hr", "hrs", "hour", "hours"], ⟨3600, 0⟩, some ⟨3600, 0⟩⟩,
    ⟨["d", "day", "days"], ⟨86400, 0⟩, some ⟨86400, 0⟩⟩,
    ⟨["w", "wk", "wks", "week", "weeks"], ⟨604800, 0⟩, some ⟨604800, 0⟩⟩,
    ⟨["M", "month", "months"], ⟨monthSeconds, 0⟩, some ⟨monthSeconds, 0⟩⟩,
    ⟨["y", "yr", "yrs", "year", "years"], ⟨yearSeconds, 0⟩, some ⟨yearSeconds, 0⟩⟩]

structure Fraction where
  numerator : Nat
  denominator : Nat

structure Quantity where
  whole : Nat
  fraction : Option Fraction := none

def Amount.addItem (amount : Amount) (quantity : Quantity) (name : String) :
    Except Fault Amount :=
  match units.find? (·.names.contains name) with
  | none => .error .malformed
  | some unit => do
    let amount ← amount.plus (← unit.length.times quantity.whole)
    match quantity.fraction, unit.parts with
    | none, _ => return amount
    | some _, none => .error .malformed
    | some fraction, some parts =>
      amount.plus (← (← parts.times fraction.numerator).dividedBy fraction.denominator)

inductive Reading where
  | item (found : Bool)
  | number (whole : Nat)
  | fraction (whole : Nat) (digits : Fraction)
  | unit (quantity : Quantity) (letters : List Char)

def isUnitLetter (c : Char) : Bool :=
  c.isAlpha || c == 'µ'

def digitValue (c : Char) : Nat :=
  c.toNat - '0'.toNat

def Fraction.push (fraction : Fraction) (digit : Nat) : Except Fault Fraction := do
  let denominator ← fit (10 * fraction.denominator)
  return ⟨← fit (10 * fraction.numerator + digit), denominator⟩

def readItems (amount : Amount) : Reading → List Char → Except Fault Amount
  | .item found, [] => if found then .ok amount else .error .malformed
  | .number _, [] => .error .malformed
  | .fraction _ _, [] => .error .malformed
  | .unit quantity letters, [] => amount.addItem quantity (String.ofList letters.reverse)
  | .item found, c :: rest =>
    if c.isDigit then readItems amount (.number (digitValue c)) rest
    else if isBlank c then readItems amount (.item found) rest
    else .error .malformed
  | .number whole, c :: rest =>
    if c.isDigit then do
      readItems amount (.number (← fit (10 * whole + digitValue c))) rest
    else if isBlank c then readItems amount (.number whole) rest
    else if isUnitLetter c then readItems amount (.unit { whole } [c]) rest
    else if c = '.' then readItems amount (.fraction whole ⟨0, 1⟩) rest
    else .error .malformed
  | .fraction whole digits, c :: rest =>
    if c.isDigit then do
      readItems amount (.fraction whole (← digits.push (digitValue c))) rest
    else if isBlank c then readItems amount (.fraction whole digits) rest
    else if isUnitLetter c ∧ digits.denominator ≠ 1 then
      readItems amount (.unit ⟨whole, digits⟩ [c]) rest
    else .error .malformed
  | .unit quantity letters, c :: rest =>
    if isUnitLetter c then readItems amount (.unit quantity (c :: letters)) rest
    else if c.isDigit then do
      let amount ← amount.addItem quantity (String.ofList letters.reverse)
      readItems amount (.number (digitValue c)) rest
    else if isBlank c then do
      let amount ← amount.addItem quantity (String.ofList letters.reverse)
      readItems amount (.item true) rest
    else .error .malformed

def read (text : String) : Except Fault Duration :=
  if text = "0" then .ok ⟨0⟩
  else
    (readItems ⟨0, 0⟩ (.item false) text.toList).map fun amount =>
      ⟨amount.seconds * second + amount.nanoseconds⟩

def pluralItem (number : Nat) (unit : String) : List String :=
  if number = 0 then []
  else [toString number ++ unit ++ (if 1 < number then "s" else "")]

def item (number : Nat) (unit : String) : List String :=
  if number = 0 then [] else [toString number ++ unit]

def text (duration : Duration) : String :=
  let seconds := duration.nanoseconds / second
  let nanoseconds := duration.nanoseconds % second
  let inYear := seconds % yearSeconds
  let inMonth := inYear % monthSeconds
  let inDay := inMonth % 86400
  let items :=
    pluralItem (seconds / yearSeconds) "year" ++ pluralItem (inYear / monthSeconds) "month" ++
      pluralItem (inMonth / 86400) "day" ++ item (inDay / 3600) "h" ++
      item (inDay % 3600 / 60) "m" ++ item (inDay % 60) "s" ++
      item (nanoseconds / 1000000) "ms" ++ item (nanoseconds / 1000 % 1000) "us" ++
      item (nanoseconds % 1000) "ns"
  if items.isEmpty then "0s" else String.intercalate " " items

end Duration

end FederatedSearch
