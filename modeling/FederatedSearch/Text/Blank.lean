/-! Blank characters (the Unicode property White_Space) and the words between them. -/

namespace FederatedSearch

def isBlank (c : Char) : Bool :=
  let code := c.toNat
  (0x9 ≤ code && code ≤ 0xD) || code == 0x20 || code == 0x85 || code == 0xA0 || code == 0x1680 ||
    (0x2000 ≤ code && code ≤ 0x200A) || code == 0x2028 || code == 0x2029 || code == 0x202F ||
    code == 0x205F || code == 0x3000

def wordsAfter (current : List Char) : List Char → List (List Char)
  | [] => if current.isEmpty then [] else [current.reverse]
  | c :: rest =>
    if isBlank c then
      if current.isEmpty then wordsAfter [] rest else current.reverse :: wordsAfter [] rest
    else wordsAfter (c :: current) rest

def words (text : String) : List String :=
  (wordsAfter [] text.toList).map String.ofList

theorem not_isBlank_of_mem_wordsAfter {current text word : List Char}
    (currentDark : ∀ c ∈ current, isBlank c = false) (member : word ∈ wordsAfter current text) :
    word ≠ [] ∧ ∀ c ∈ word, isBlank c = false := by
  induction text generalizing current with
  | nil =>
    by_cases none : current = [] <;> simp_all [wordsAfter]
  | cons head rest ih =>
    simp only [wordsAfter] at member
    split at member
    · by_cases none : current = []
      · simp only [none, List.isEmpty_nil, ↓reduceIte] at member
        exact ih (by simp) member
      · simp only [List.isEmpty_iff, none, ↓reduceIte, List.mem_cons] at member
        rcases member with rfl | later
        · exact ⟨by simpa using none, fun c inside => currentDark c (by simpa using inside)⟩
        · exact ih (by simp) later
    next dark =>
      exact ih (fun c inside => by
        rcases List.mem_cons.mp inside with rfl | earlier
        · simpa using dark
        · exact currentDark c earlier) member

theorem words_dark {text word : String} (member : word ∈ words text) :
    word ≠ "" ∧ ∀ c ∈ word.toList, isBlank c = false := by
  obtain ⟨chars, found, rfl⟩ := List.mem_map.mp member
  obtain ⟨some, dark⟩ := not_isBlank_of_mem_wordsAfter (by simp) found
  refine ⟨fun none => some ?_, by simpa using dark⟩
  have := congrArg String.toList none
  simpa using this

end FederatedSearch
