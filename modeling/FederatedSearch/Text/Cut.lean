/-! Cutting a text at a separator, and dropping a given start. -/

namespace FederatedSearch

def cutChars (separator : List Char) : List Char → Option (List Char × List Char)
  | [] => if separator.isEmpty then some ([], []) else none
  | c :: rest =>
    if separator.isPrefixOf (c :: rest) then some ([], (c :: rest).drop separator.length)
    else (cutChars separator rest).map fun (before, after) => (c :: before, after)

def cutAt? (separator text : String) : Option (String × String) :=
  (cutChars separator.toList text.toList).map fun (before, after) =>
    (String.ofList before, String.ofList after)

theorem eq_append_of_cutChars {separator text before after : List Char}
    (found : cutChars separator text = some (before, after)) :
    text = before ++ separator ++ after := by
  induction text generalizing before with
  | nil =>
    simp only [cutChars] at found
    split at found <;> simp_all
  | cons c rest ih =>
    simp only [cutChars] at found
    split at found
    next starts =>
      obtain ⟨later, same⟩ := List.isPrefixOf_iff_prefix.mp starts
      simp only [← same, List.drop_left, Option.some.injEq, Prod.mk.injEq] at found
      obtain ⟨rfl, rfl⟩ := found
      simp [same]
    next =>
      obtain ⟨⟨start, finish⟩, inner, pair⟩ := Option.map_eq_some_iff.mp found
      simp only [Prod.mk.injEq] at pair
      obtain ⟨rfl, rfl⟩ := pair
      simp [ih inner]

def piecesOfChars (separator : Char) : List Char → List (List Char)
  | [] => [[]]
  | c :: rest =>
    if c = separator then [] :: piecesOfChars separator rest
    else
      match piecesOfChars separator rest with
      | [] => [[c]]
      | piece :: pieces => (c :: piece) :: pieces

def pieces (separator : Char) (text : String) : String × List String :=
  match piecesOfChars separator text.toList with
  | [] => ("", [])
  | first :: others => (String.ofList first, others.map String.ofList)

def dropStart? (start text : String) : Option String :=
  if start.toList.isPrefixOf text.toList then
    some (String.ofList (text.toList.drop start.toList.length))
  else none

theorem dropStart?_eq_some_iff {start text rest : String} :
    dropStart? start text = some rest ↔ text = start ++ rest := by
  simp only [dropStart?, Option.ite_none_right_eq_some, Option.some.injEq]
  constructor
  · rintro ⟨starts, rfl⟩
    obtain ⟨later, same⟩ := List.isPrefixOf_iff_prefix.mp starts
    apply String.toList_injective
    simp [← same]
  · rintro rfl
    simp

def occursIn (phrase : List Char) : List Char → Bool
  | [] => phrase.isEmpty
  | c :: rest => phrase.isPrefixOf (c :: rest) || occursIn phrase rest

end FederatedSearch
