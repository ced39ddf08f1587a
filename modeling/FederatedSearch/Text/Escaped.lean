import FederatedSearch.Text.Unprintable

/-! Showing a text in an error message: between double quotes, with every character that would not
be seen written as an escape. -/

namespace FederatedSearch

def hexDigits (n : Nat) : List Char :=
  Nat.toDigits 16 n

def escapedChar (c : Char) : List Char :=
  match c with
  | '\x00' => ['\\', '0']
  | '\t' => ['\\', 't']
  | '\n' => ['\\', 'n']
  | '\r' => ['\\', 'r']
  | '"' => ['\\', '"']
  | '\\' => ['\\', '\\']
  | c =>
    if isUnprintable c then ['\\', 'u', '\x7b'] ++ hexDigits c.toNat ++ ['\x7d'] else [c]

def escaped (text : String) : String :=
  String.ofList ('"' :: text.toList.flatMap escapedChar ++ ['"'])

def escapedList (texts : List String) : String :=
  "[" ++ String.intercalate ", " (texts.map escaped) ++ "]"

end FederatedSearch
