import FederatedSearch.Text.Casing

/-! Lower-casing a text. A character has one lower-case partner, with two exceptions: `İ` becomes
two characters, and `Σ` becomes `ς` at the end of a word and `σ` elsewhere. -/

namespace FederatedSearch

def startsCased (text : List Char) : Bool :=
  match text.dropWhile isCaseIgnorable with
  | [] => false
  | c :: _ => isCased c

def lowerChar (before : List Char) (c : Char) (after : List Char) : List Char :=
  if c = 'Σ' then
    if startsCased before && !startsCased after then ['ς'] else ['σ']
  else if c = 'İ' then ['i', '\u0307']
  else [lowerCasePartner c]

def lowerAfter (before : List Char) : List Char → List Char
  | [] => []
  | c :: after => lowerChar before c after ++ lowerAfter (c :: before) after

def lowerCase (text : String) : String :=
  String.ofList (lowerAfter [] text.toList)

def asciiLowerCase (text : String) : String :=
  String.ofList (text.toList.map Char.toLower)

def equalIgnoringAsciiCase (first second : String) : Bool :=
  first.toList.map Char.toLower == second.toList.map Char.toLower

theorem equalIgnoringAsciiCase_iff (first second : String) :
    equalIgnoringAsciiCase first second = true ↔
      asciiLowerCase first = asciiLowerCase second := by
  simp [equalIgnoringAsciiCase, asciiLowerCase, String.ofList_inj]

end FederatedSearch
