import FederatedSearch.Codec.NumberLiteral
import FederatedSearch.SortedMap

/-! Structured values read from JSON text. The fields of an object are taken in ascending order of
name, and of two with one name the later. -/

namespace FederatedSearch

namespace Json

def isSpace (c : Char) : Bool :=
  c == ' ' || c == '\t' || c == '\n' || c == '\r'

def skipSpace (text : List Char) : List Char :=
  text.dropWhile isSpace

def readDigits (text : List Char) : List Nat × List Char :=
  ((text.takeWhile Char.isDigit).map fun c => c.toNat - '0'.toNat, text.dropWhile Char.isDigit)

def readFraction? (text : List Char) : Option (List Nat × List Char) :=
  match text with
  | '.' :: text =>
    let (digits, text) := readDigits text
    if digits.isEmpty then none else some (digits, text)
  | _ => some ([], text)

def readExponentDigits? (negative : Bool) (text : List Char) : Option (Option Int × List Char) :=
  let (digits, text) := readDigits text
  let size : Nat := digits.foldl (fun number digit => 10 * number + digit) 0
  if digits.isEmpty then none
  else some (some (if negative then -(size : Int) else size), text)

def readExponent? (text : List Char) : Option (Option Int × List Char) :=
  match text with
  | c :: rest =>
    if c = 'e' || c = 'E' then
      match rest with
      | '-' :: rest => readExponentDigits? true rest
      | '+' :: rest => readExponentDigits? false rest
      | _ => readExponentDigits? false rest
    else some (none, text)
  | [] => some (none, [])

def readUnsigned? (negative : Bool) (text : List Char) : Option (Value × List Char) := do
  let (whole, text) := readDigits text
  if whole = [] ∨ (whole.head? = some 0 ∧ 1 < whole.length) then none
  else
    let (fraction, text) ← readFraction? text
    let (exponent, text) ← readExponent? text
    return (← NumberLiteral.value? ⟨negative, whole, fraction, exponent⟩, text)

def readNumber? (text : List Char) : Option (Value × List Char) :=
  match text with
  | '-' :: text => readUnsigned? true text
  | _ => readUnsigned? false text

def hexDigit? (c : Char) : Option Nat :=
  if c.isDigit then some (c.toNat - '0'.toNat)
  else if 'a' ≤ c ∧ c ≤ 'f' then some (c.toNat - 'a'.toNat + 10)
  else if 'A' ≤ c ∧ c ≤ 'F' then some (c.toNat - 'A'.toNat + 10)
  else none

def hexUnit? (one two three four : Char) : Option Nat := do
  return (((← hexDigit? one) * 16 + (← hexDigit? two)) * 16 + (← hexDigit? three)) * 16 +
    (← hexDigit? four)

def charOf? (code : Nat) : Option Char :=
  if h : code.isValidChar then some (Char.ofNatAux code h) else none

def pairedChar? (high low : Nat) : Option Char :=
  if 0xD800 ≤ high ∧ high < 0xDC00 ∧ 0xDC00 ≤ low ∧ low < 0xE000 then
    charOf? (0x10000 + (high - 0xD800) * 0x400 + (low - 0xDC00))
  else none

def escapedLetter? (c : Char) : Option Char :=
  match c with
  | '"' | '\\' | '/' => some c
  | 'b' => some '\x08'
  | 'f' => some '\x0C'
  | 'n' => some '\n'
  | 'r' => some '\r'
  | 't' => some '\t'
  | _ => none

def readText? (half : Option Nat) (read : List Char) : List Char → Option (String × List Char)
  | '\\' :: 'u' :: one :: two :: three :: four :: text => do
    let unit ← hexUnit? one two three four
    match half with
    | some high => readText? none ((← pairedChar? high unit) :: read) text
    | none =>
      match charOf? unit with
      | some c => readText? none (c :: read) text
      | none => readText? unit read text
  | text =>
    if half.isSome then none
    else
      match text with
      | '"' :: text => some (String.ofList read.reverse, text)
      | '\\' :: c :: text => do readText? none ((← escapedLetter? c) :: read) text
      | c :: text => if c.toNat < 0x20 then none else readText? none (c :: read) text
      | [] => none

def object (fields : List (String × Value)) : Value :=
  .object (SortedMap.ofList fields).entries

mutual

def readValue? : Nat → List Char → Option (Value × List Char)
  | 0, _ => none
  | fuel + 1, text =>
    match skipSpace text with
    | 'n' :: 'u' :: 'l' :: 'l' :: text => some (.null, text)
    | 't' :: 'r' :: 'u' :: 'e' :: text => some (.bool true, text)
    | 'f' :: 'a' :: 'l' :: 's' :: 'e' :: text => some (.bool false, text)
    | '"' :: text => (readText? none [] text).map fun (read, text) => (.text read, text)
    | '[' :: text =>
      match skipSpace text with
      | ']' :: text => some (.list [], text)
      | text => (readItems? fuel text).map fun (items, text) => (.list items, text)
    | '\x7b' :: text =>
      match skipSpace text with
      | '\x7d' :: text => some (.object [], text)
      | text => (readFields? fuel text).map fun (fields, text) => (object fields, text)
    | text => readNumber? text

def readItems? : Nat → List Char → Option (List Value × List Char)
  | 0, _ => none
  | fuel + 1, text => do
    let (item, text) ← readValue? fuel text
    match skipSpace text with
    | ',' :: text => do
      let (items, text) ← readItems? fuel text
      return (item :: items, text)
    | ']' :: text => return ([item], text)
    | _ => none

def readFields? : Nat → List Char → Option (List (String × Value) × List Char)
  | 0, _ => none
  | fuel + 1, text =>
    match skipSpace text with
    | '"' :: text => do
      let (name, text) ← readText? none [] text
      match skipSpace text with
      | ':' :: text => do
        let (value, text) ← readValue? fuel text
        match skipSpace text with
        | ',' :: text => do
          let (fields, text) ← readFields? fuel text
          return ((name, value) :: fields, text)
        | '\x7d' :: text => return ([(name, value)], text)
        | _ => none
      | _ => none
    | _ => none

end

end Json

def Value.ofJson? (text : String) : Option Value := do
  let chars := text.toList
  let (value, rest) ← Json.readValue? (chars.length + 1) chars
  if (Json.skipSpace rest).isEmpty then return value else none

end FederatedSearch
