import FederatedSearch.Proofs.ClauseRelations
import FederatedSearch.Proofs.OperandReading

/-! Terms that clauses cannot tell apart. `=`, `any` and `all` look through the case of ASCII
letters, and `adj` through that of all letters: two terms that differ in the case of other letters
are one to `adj` and two to the rest. -/

namespace FederatedSearch

/-! Case -/

theorem toLower_eq_or_letter (c : Char) :
    c.toLower = c ∨ 97 ≤ c.toLower.toNat ∧ c.toLower.toNat ≤ 122 := by
  unfold Char.toLower
  split
  next upper =>
    have atLeast : 65 ≤ c.val.toNat := UInt32.le_iff_toNat_le.mp upper.1
    have atMost : c.val.toNat ≤ 90 := UInt32.le_iff_toNat_le.mp upper.2
    have shift : ('a'.val - 'A'.val).toNat = 32 := rfl
    refine Or.inr ?_
    rw [Char.toNat, UInt32.toNat_add, shift]
    omega
  next => exact Or.inl rfl

theorem eq_star_of_toLower {c : Char} (isStar : c.toLower = '*') : c = '*' := by
  rcases toLower_eq_or_letter c with same | letter
  · exact same.symm.trans isStar
  · rw [isStar] at letter
    exact absurd letter (by decide)

theorem asciiLowerCase_eq_anyTerm_iff {term : String} :
    asciiLowerCase term = anyTerm ↔ term = anyTerm := by
  constructor
  · intro lowered
    have chars : term.toList.map Char.toLower = ['*'] := by
      rw [← String.toList_ofList (l := term.toList.map _)]
      exact congrArg String.toList lowered
    obtain ⟨c, listed, isStar⟩ := List.map_eq_singleton_iff.mp chars
    rw [eq_star_of_toLower isStar] at listed
    exact String.toList_inj.mp listed
  · rintro rfl
    decide

theorem length_of_asciiLowerCase {first second : String}
    (alike : asciiLowerCase first = asciiLowerCase second) :
    first.toList.length = second.toList.length := by
  have chars := congrArg (fun text => text.toList.length) alike
  simpa [asciiLowerCase] using chars

/-! Words -/

theorem wordsAfter_dark {current text : List Char} (dark : ∀ c ∈ text, isBlank c = false)
    (someChar : current.reverse ++ text ≠ []) :
    wordsAfter current text = [current.reverse ++ text] := by
  induction text generalizing current with
  | nil => simpa [wordsAfter] using someChar
  | cons c rest ih =>
      obtain ⟨ofChar, ofRest⟩ := List.forall_mem_cons.mp dark
      rw [wordsAfter, if_neg (by simp [ofChar]), ih ofRest (by simp)]
      simp

theorem words_of_mem_words {word text : String} (member : word ∈ words text) :
    words word = [word] := by
  obtain ⟨notEmpty, dark⟩ := words_dark member
  have someChar : word.toList ≠ [] := by simpa using notEmpty
  rw [words, wordsAfter_dark dark (by simpa using someChar)]
  simp

theorem sublist_of_mem_wordsAfter {current text word : List Char}
    (member : word ∈ wordsAfter current text) : word.Sublist (current.reverse ++ text) := by
  induction text generalizing current with
  | nil =>
      rw [wordsAfter] at member
      split at member
      · cases member
      · simp [List.mem_singleton.mp member]
  | cons c rest ih =>
      have inRest (later : word ∈ wordsAfter [] rest) :
          word.Sublist (current.reverse ++ c :: rest) := by
        have ofRest := ih later
        exact ofRest.trans ((List.sublist_cons_self c rest).trans
          (List.sublist_append_right current.reverse _))
      rw [wordsAfter] at member
      split at member
      · split at member
        · exact inRest member
        · rcases List.mem_cons.mp member with rfl | later
          · exact List.sublist_append_left _ _
          · exact inRest later
      · simpa using ih member

theorem sublist_of_mem_words {word text : String} (member : word ∈ words text) :
    word.toList.Sublist text.toList := by
  obtain ⟨chars, found, rfl⟩ := List.mem_map.mp member
  simpa using sublist_of_mem_wordsAfter found

/-! Loose equality -/

theorem looselyEqual_iff {value term : String} : looselyEqual value term = true ↔
    asciiLowerCase value = asciiLowerCase term ∨
      ∃ word ∈ words value, asciiLowerCase word = asciiLowerCase term := by
  rw [looselyEqual, Bool.or_eq_true, List.any_eq_true, equalIgnoringAsciiCase_iff]
  simp only [equalIgnoringAsciiCase_iff]

theorem looselyEqual_word_iff {word text term : String} (member : word ∈ words text) :
    looselyEqual word term = true ↔ asciiLowerCase word = asciiLowerCase term := by
  rw [looselyEqual_iff, words_of_mem_words member]
  simp

theorem looselyEqual_congr {first second : String}
    (alike : asciiLowerCase first = asciiLowerCase second) (value : String) :
    looselyEqual value first = looselyEqual value second := by
  rw [Bool.eq_iff_iff, looselyEqual_iff, looselyEqual_iff, alike]

theorem looselyEqual_self (term : String) : looselyEqual term term = true :=
  looselyEqual_iff.mpr (Or.inl rfl)

theorem looselyEqual_anyTerm_iff {term : String} :
    looselyEqual anyTerm term = true ↔ term = anyTerm := by
  have isWord : anyTerm ∈ words anyTerm := by decide
  rw [looselyEqual_word_iff isWord, eq_comm]
  exact asciiLowerCase_eq_anyTerm_iff

theorem someLooselyEqual_congr {first second : String}
    (alike : asciiLowerCase first = asciiLowerCase second) (values : List String) :
    someLooselyEqual values first = someLooselyEqual values second := by
  simp only [someLooselyEqual, looselyEqual_congr alike]

/-- Two texts are each found in the other only if they are one: a word of a text is shorter than
the text, or is the text. -/
theorem asciiLowerCase_of_looselyEqual {first second : String}
    (secondInFirst : looselyEqual first second = true)
    (firstInSecond : looselyEqual second first = true) :
    asciiLowerCase first = asciiLowerCase second := by
  rcases looselyEqual_iff.mp secondInFirst with whole | ⟨word, inFirst, alike⟩
  · exact whole
  rcases looselyEqual_iff.mp firstInSecond with whole | ⟨other, inSecond, alike'⟩
  · exact whole.symm
  have part := sublist_of_mem_words inFirst
  have noLonger : first.toList.length ≤ word.toList.length := by
    calc first.toList.length
        = other.toList.length := (length_of_asciiLowerCase alike').symm
      _ ≤ second.toList.length := (sublist_of_mem_words inSecond).length_le
      _ = word.toList.length := (length_of_asciiLowerCase alike).symm
  have isWhole : word = first := String.toList_inj.mp (part.eq_of_length_le noLonger)
  rwa [isWhole] at alike

/-! Full lower case -/

theorem code_of_ofNat {code : Nat} (isStar : Char.ofNat code = '*') : code = 42 := by
  by_cases valid : code.isValidChar
  · rw [Char.ofNat, dif_pos valid] at isStar
    exact congrArg Char.toNat isStar
  · rw [Char.ofNat, dif_neg valid] at isStar
    cases isStar

theorem above_star_of_lowerCaseRuns :
    ∀ run ∈ lowerCaseRuns, (42 : Int) < run.first + run.shift := by
  decide +kernel

theorem eq_star_of_lowerCasePartner {c : Char} (isStar : lowerCasePartner c = '*') : c = '*' := by
  unfold lowerCasePartner at isStar
  split at isStar
  next => exact eq_star_of_toLower isStar
  next =>
    split at isStar
    next run found =>
      have above := above_star_of_lowerCaseRuns run (List.mem_of_find?_eq_some found)
      have covered := List.find?_some found
      simp only [CaseRun.covers, Bool.and_eq_true, decide_eq_true_eq] at covered
      have code := code_of_ofNat isStar
      omega
    next => exact isStar

theorem lowerChar_ne_nil (before after : List Char) (c : Char) : lowerChar before c after ≠ [] := by
  unfold lowerChar
  split
  · split <;> exact List.cons_ne_nil _ _
  · split <;> exact List.cons_ne_nil _ _

theorem eq_star_of_lowerChar {before after : List Char} {c : Char}
    (isStar : lowerChar before c after = ['*']) : c = '*' := by
  unfold lowerChar at isStar
  split at isStar
  · split at isStar <;> simp at isStar
  · split at isStar
    · simp at isStar
    · exact eq_star_of_lowerCasePartner (List.singleton_inj.mp isStar)

theorem lowerCase_eq_anyTerm_iff {term : String} : lowerCase term = anyTerm ↔ term = anyTerm := by
  constructor
  · intro lowered
    have chars : lowerAfter [] term.toList = ['*'] := by
      rw [← String.toList_ofList (l := lowerAfter [] term.toList)]
      exact congrArg String.toList lowered
    refine String.toList_inj.mp ?_
    match listed : term.toList with
    | [] => simp [listed, lowerAfter] at chars
    | c :: rest =>
        rw [listed, lowerAfter] at chars
        rcases List.append_eq_singleton_iff.mp chars with ⟨none, -⟩ | ⟨isStar, nothing⟩
        · exact absurd none (lowerChar_ne_nil [] rest c)
        · cases rest with
          | nil => rw [eq_star_of_lowerChar isStar]; rfl
          | cons d rest =>
              have empty := (List.append_eq_nil_iff.mp nothing).1
              exact absurd empty (lowerChar_ne_nil [c] rest d)
  · rintro rfl
    decide +kernel

theorem lowerAfter_of_isAscii (before : List Char) {text : List Char}
    (ascii : ∀ c ∈ text, isAscii c = true) : lowerAfter before text = text.map Char.toLower := by
  induction text generalizing before with
  | nil => rfl
  | cons c rest ih =>
      obtain ⟨ofChar, ofRest⟩ := List.forall_mem_cons.mp ascii
      have alone : lowerChar before c rest = [c.toLower] := by
        have notSigma : c ≠ 'Σ' := by rintro rfl; revert ofChar; decide
        have notDotted : c ≠ 'İ' := by rintro rfl; revert ofChar; decide
        rw [lowerChar, if_neg notSigma, if_neg notDotted, lowerCasePartner, if_pos ofChar]
      rw [lowerAfter, alone, ih _ ofRest]
      rfl

theorem lowerCase_of_isAscii {text : String} (ascii : ∀ c ∈ text.toList, isAscii c = true) :
    lowerCase text = asciiLowerCase text := by
  rw [lowerCase, lowerAfter_of_isAscii [] ascii, asciiLowerCase]

/-! Clauses -/

def Document.valued (index : String) (values : List String) : Document :=
  values.foldl (·.addValue index ·) { id := "" }

theorem Document.values_addValue (document : Document) (index value : String) :
    (document.addValue index value).values index = document.values index ++ [value] := by
  simp [addValue, values, SortedMap.update, SortedMap.getD, SortedMap.get?_insert]

theorem Document.values_valued (index : String) (given : List String) :
    (valued index given).values index = given := by
  have added (document : Document) :
      (given.foldl (·.addValue index ·) document).values index =
        document.values index ++ given := by
    induction given generalizing document with
    | nil => simp
    | cons value rest ih => rw [List.foldl_cons, ih, values_addValue, List.append_assoc]; rfl
  exact added { id := "" }

namespace Clause

def Alike (first second : Clause) : Prop :=
  ∀ document, first.matchedBy document = second.matchedBy document

variable {index first second : String}

theorem matchedBy_ofTerm_single (index value term : String) :
    (ofTerm term).matchedBy (.valued index [value]) =
      .ok (term = anyTerm || looselyEqual value term) := by
  change Except.ok (_ || [value].any _) = _
  rw [List.any_cons, List.any_nil, Bool.or_false]
  rfl

theorem matchedBy_equal_single (index value term : String) :
    (related index "=" term).matchedBy (.valued index [value]) =
      .ok (term = anyTerm || looselyEqual value term) := by
  rw [matchedBy_related rfl, Document.values_valued]
  by_cases isAny : term = anyTerm
  · simp [isAny]
  · simp [isAny, Relation.holds, someLooselyEqual]

theorem asciiLowerCase_of_single
    (same : ∀ value, (decide (first = anyTerm) || looselyEqual value first) =
      (decide (second = anyTerm) || looselyEqual value second)) :
    asciiLowerCase first = asciiLowerCase second := by
  have sameStar : first = anyTerm ↔ second = anyTerm := by
    have ofStar := Bool.eq_iff_iff.mp (same anyTerm)
    simpa only [Bool.or_eq_true, decide_eq_true_eq, looselyEqual_anyTerm_iff, or_self] using ofStar
  by_cases isAny : first = anyTerm
  · rw [isAny, sameStar.mp isAny]
  · have otherIsNone := mt sameStar.mpr isAny
    simp only [isAny, otherIsNone, decide_false, Bool.false_or] at same
    refine asciiLowerCase_of_looselyEqual ?_ ?_
    · rw [← same, looselyEqual_self]
    · rw [same, looselyEqual_self]

theorem anyTerm_congr (alike : asciiLowerCase first = asciiLowerCase second) :
    first = anyTerm ↔ second = anyTerm := by
  rw [← asciiLowerCase_eq_anyTerm_iff, alike, asciiLowerCase_eq_anyTerm_iff]

theorem alike_equal_iff : (related index "=" first).Alike (related index "=" second) ↔
    asciiLowerCase first = asciiLowerCase second := by
  constructor
  · intro alike
    refine asciiLowerCase_of_single fun value => ?_
    have same := alike (.valued index [value])
    rw [matchedBy_equal_single, matchedBy_equal_single] at same
    exact Except.ok.inj same
  · intro same document
    rw [matchedBy_related rfl, matchedBy_related rfl]
    simp only [anyTerm_congr same, Relation.holds, someLooselyEqual_congr same]

theorem alike_ofTerm_iff :
    (ofTerm first).Alike (ofTerm second) ↔ asciiLowerCase first = asciiLowerCase second := by
  constructor
  · intro alike
    refine asciiLowerCase_of_single fun value => ?_
    have same := alike (.valued "" [value])
    rw [matchedBy_ofTerm_single, matchedBy_ofTerm_single] at same
    exact Except.ok.inj same
  · intro same document
    have sameStar : decide (first = anyTerm) = decide (second = anyTerm) :=
      decide_eq_decide.mpr (anyTerm_congr same)
    change Except.ok (decide (first = anyTerm) || _) = Except.ok (decide (second = anyTerm) || _)
    rw [sameStar, ofTerm, ofTerm, someLooselyEqual_congr same]

end Clause

/-! Lists of words -/

def loweredWords (text : String) : List String :=
  (words text).map asciiLowerCase

theorem subset_of_anyWord {first second : String}
    (wider : ∀ values, Relation.anyWord.holds values first = true →
      Relation.anyWord.holds values second = true) :
    loweredWords first ⊆ loweredWords second := by
  intro lowered member
  obtain ⟨word, inFirst, rfl⟩ := List.mem_map.mp member
  have found : Relation.anyWord.holds [word] first = true :=
    List.any_eq_true.mpr ⟨word, inFirst, by simp [someLooselyEqual, looselyEqual_self]⟩
  obtain ⟨other, inSecond, equal⟩ := List.any_eq_true.mp (wider [word] found)
  have alike := (looselyEqual_word_iff inFirst).mp (by simpa [someLooselyEqual] using equal)
  exact List.mem_map.mpr ⟨other, inSecond, alike.symm⟩

theorem subset_of_allWords {first second : String}
    (narrower : ∀ values, Relation.allWords.holds values first = true →
      Relation.allWords.holds values second = true) :
    loweredWords second ⊆ loweredWords first := by
  intro lowered member
  obtain ⟨word, inSecond, rfl⟩ := List.mem_map.mp member
  have found : Relation.allWords.holds (words first) first = true :=
    List.all_eq_true.mpr fun other inFirst =>
      List.any_eq_true.mpr ⟨other, inFirst, looselyEqual_self other⟩
  have matched := List.all_eq_true.mp (narrower (words first) found) word inSecond
  obtain ⟨other, inFirst, equal⟩ := List.any_eq_true.mp matched
  exact List.mem_map.mpr ⟨other, inFirst, (looselyEqual_word_iff inFirst).mp equal⟩

theorem anyWord_of_subset {first second : String}
    (subset : loweredWords first ⊆ loweredWords second) {values : List String}
    (found : Relation.anyWord.holds values first = true) :
    Relation.anyWord.holds values second = true := by
  obtain ⟨word, inFirst, equal⟩ := List.any_eq_true.mp found
  obtain ⟨other, inSecond, alike⟩ := List.mem_map.mp (subset (List.mem_map_of_mem inFirst))
  exact List.any_eq_true.mpr ⟨other, inSecond, someLooselyEqual_congr alike values ▸ equal⟩

theorem allWords_of_subset {first second : String}
    (subset : loweredWords second ⊆ loweredWords first) {values : List String}
    (found : Relation.allWords.holds values first = true) :
    Relation.allWords.holds values second = true := by
  refine List.all_eq_true.mpr fun word inSecond => ?_
  obtain ⟨other, inFirst, alike⟩ := List.mem_map.mp (subset (List.mem_map_of_mem inSecond))
  exact someLooselyEqual_congr alike values ▸ List.all_eq_true.mp found other inFirst

theorem isBlank_toLower (c : Char) : isBlank c.toLower = isBlank c := by
  rcases toLower_eq_or_letter c with same | letter
  · rw [same]
  have darkLetter : isBlank c.toLower = false := by
    simp only [isBlank, Bool.or_eq_false_iff, Bool.and_eq_false_iff, decide_eq_false_iff_not,
      beq_eq_false_iff_ne]
    omega
  cases blank : isBlank c with
  | false => exact darkLetter
  | true =>
      have unchanged : c.toLower = c := toLower_of_endsWord (by simp [endsWord, blank])
      rw [unchanged, blank] at darkLetter
      cases darkLetter

theorem wordsAfter_map_toLower (current text : List Char) :
    wordsAfter (current.map Char.toLower) (text.map Char.toLower) =
      (wordsAfter current text).map (·.map Char.toLower) := by
  induction text generalizing current with
  | nil => cases current <;> simp [wordsAfter]
  | cons c rest ih =>
      have ofNone := ih []
      have ofMore := ih (c :: current)
      rw [List.map_cons, wordsAfter, wordsAfter, isBlank_toLower]
      split
      · cases current <;> simp_all
      · exact ofMore

theorem words_asciiLowerCase (text : String) : words (asciiLowerCase text) = loweredWords text := by
  have chars := wordsAfter_map_toLower [] text.toList
  simp only [List.map_nil] at chars
  simp [words, asciiLowerCase, loweredWords, chars, Function.comp_def]

namespace Clause

variable {index first second : String}

theorem alike_related_iff {relation : String} {known : Relation}
    (isKnown : Relation.ofText? relation = some known) (firstIsNone : first ≠ anyTerm)
    (secondIsNone : second ≠ anyTerm) :
    (related index relation first).Alike (related index relation second) ↔
      ∀ values, known.holds values first = true ↔ known.holds values second = true := by
  unfold Alike
  simp only [matchedBy_related isKnown, if_neg firstIsNone, if_neg secondIsNone,
    Except.ok.injEq, ← Bool.eq_iff_iff]
  constructor
  · intro same values
    rw [← Document.values_valued index values]
    exact same (.valued index values)
  · intro same document
    exact same (document.values index)

theorem alike_words_iff (firstIsNone : first ≠ anyTerm) (secondIsNone : second ≠ anyTerm)
    {relation : String} (ofWords : relation ∈ ["any", "all"]) :
    (related index relation first).Alike (related index relation second) ↔
      ∀ word, word ∈ loweredWords first ↔ word ∈ loweredWords second := by
  rw [List.mem_cons, List.mem_singleton] at ofWords
  rcases ofWords with rfl | rfl
  · rw [alike_related_iff rfl firstIsNone secondIsNone]
    constructor
    · intro same word
      exact ⟨fun member => subset_of_anyWord (fun values => (same values).mp) member,
        fun member => subset_of_anyWord (fun values => (same values).mpr) member⟩
    · intro same values
      exact ⟨anyWord_of_subset fun word => (same word).mp,
        anyWord_of_subset fun word => (same word).mpr⟩
  · rw [alike_related_iff rfl firstIsNone secondIsNone]
    constructor
    · intro same word
      exact ⟨fun member => subset_of_allWords (fun values => (same values).mpr) member,
        fun member => subset_of_allWords (fun values => (same values).mp) member⟩
    · intro same values
      exact ⟨allWords_of_subset fun word => (same word).mpr,
        allWords_of_subset fun word => (same word).mp⟩

theorem alike_words_of_asciiLowerCase (same : asciiLowerCase first = asciiLowerCase second)
    {relation : String} (ofWords : relation ∈ ["any", "all"]) :
    (related index relation first).Alike (related index relation second) := by
  by_cases isAny : first = anyTerm
  · rw [isAny, (anyTerm_congr same).mp isAny]
    exact fun _ => rfl
  · refine (alike_words_iff isAny (mt (anyTerm_congr same).mpr isAny) ofWords).mpr fun word => ?_
    rw [← words_asciiLowerCase, ← words_asciiLowerCase, same]

theorem alike_phrase (same : lowerCase first = lowerCase second) :
    (related index "adj" first).Alike (related index "adj" second) := by
  have sameStar : first = anyTerm ↔ second = anyTerm := by
    rw [← lowerCase_eq_anyTerm_iff, same, lowerCase_eq_anyTerm_iff]
  intro document
  rw [matchedBy_related rfl, matchedBy_related rfl]
  simp only [sameStar, Relation.holds, holdsPhrase, same]

end Clause

/-- Two terms are found alike by `=`, in an index or anywhere, just if they differ in the case of
ASCII letters alone; and by `any` and `all` just if their words do. All terms with one lower-case
form are found alike by `adj`, and those of them that are ASCII by the others too. -/
theorem terms_alike_iff (index first second : String) :
    ((Clause.related index "=" first).Alike (.related index "=" second) ↔
      asciiLowerCase first = asciiLowerCase second) ∧
    ((Clause.ofTerm first).Alike (.ofTerm second) ↔
      asciiLowerCase first = asciiLowerCase second) ∧
    (∀ relation ∈ ["any", "all"],
      (first ≠ anyTerm → second ≠ anyTerm →
        ((Clause.related index relation first).Alike (.related index relation second) ↔
          ∀ word, word ∈ loweredWords first ↔ word ∈ loweredWords second)) ∧
      (asciiLowerCase first = asciiLowerCase second →
        (Clause.related index relation first).Alike (.related index relation second))) ∧
    (lowerCase first = lowerCase second →
      (Clause.related index "adj" first).Alike (.related index "adj" second) ∧
      ((∀ c ∈ first.toList ++ second.toList, isAscii c = true) →
        asciiLowerCase first = asciiLowerCase second)) := by
  refine ⟨Clause.alike_equal_iff, Clause.alike_ofTerm_iff, ?words, ?lowered⟩
  case words =>
    intro relation ofWords
    exact ⟨fun firstIsNone secondIsNone => Clause.alike_words_iff firstIsNone secondIsNone ofWords,
      fun same => Clause.alike_words_of_asciiLowerCase same ofWords⟩
  case lowered =>
    intro same
    refine ⟨Clause.alike_phrase same, fun ascii => ?_⟩
    rw [← lowerCase_of_isAscii fun c member => ascii c (List.mem_append_left _ member), same,
      lowerCase_of_isAscii fun c member => ascii c (List.mem_append_right _ member)]

theorem seaDune_alike :
    (Clause.related "title" "=" "sea Dune").Alike (.related "title" "=" "Sea dune") ∧
    (Clause.related "title" "all" "sea Dune").Alike (.related "title" "all" "Sea dune") ∧
    ("sea Dune" ≠ anyTerm ∧ "DUNE sea" ≠ anyTerm ∧
      (Clause.related "title" "any" "sea Dune").Alike (.related "title" "any" "DUNE sea")) ∧
    lowerCase "ΣΟΦΌΣ" = lowerCase "σοφός" ∧
      (Clause.related "title" "adj" "ΣΟΦΌΣ").Alike (.related "title" "adj" "σοφός") := by
  obtain ⟨equal, -, ofWords, ofForm⟩ := terms_alike_iff "title" "sea Dune" "Sea dune"
  have sameForm : lowerCase "sea Dune" = lowerCase "Sea dune" := by decide +kernel
  have lowered := (ofForm sameForm).2 (List.all_eq_true.mp (by decide))
  refine ⟨equal.mpr lowered, (ofWords "all" (by decide)).2 lowered, ?reordered, ?sigmas⟩
  case reordered =>
    obtain ⟨-, -, ofWords, -⟩ := terms_alike_iff "title" "sea Dune" "DUNE sea"
    have isTerm : "sea Dune" ≠ anyTerm ∧ "DUNE sea" ≠ anyTerm := by decide
    have first : loweredWords "sea Dune" = ["sea", "dune"] := by decide +kernel
    have second : loweredWords "DUNE sea" = ["dune", "sea"] := by decide +kernel
    refine ⟨isTerm.1, isTerm.2, ((ofWords "any" (by decide)).1 isTerm.1 isTerm.2).mpr ?_⟩
    simp [first, second, or_comm]
  case sigmas =>
    obtain ⟨-, -, -, ofForm⟩ := terms_alike_iff "title" "ΣΟΦΌΣ" "σοφός"
    have sameForm : lowerCase "ΣΟΦΌΣ" = lowerCase "σοφός" := by decide +kernel
    exact ⟨sameForm, (ofForm sameForm).1⟩

def school : Store :=
  .ofDocuments "school" [({ id := "1" } : Document).addValue "title" "ÉCOLE"]

def titled (relation term : String) : CoreSearch Expression :=
  { query := some (.clause (.related "title" relation term)) }

/-- The documents found for a term in capitals and for the same in small letters. -/
theorem school_capitals :
    lowerCase "ÉCOLE" = lowerCase "école" ∧
    (∀ relation ∈ ["=", "any", "all"],
      (∃ response, school.search (titled relation "ÉCOLE") = .answered response ∧
        response.hits.map (·.id) = ["1"]) ∧
      ∃ response, school.search (titled relation "école") = .answered response ∧
        response.hits = []) ∧
    ((∃ response, school.search { query := some (.ofTerm "ÉCOLE") } = .answered response ∧
        response.hits.map (·.id) = ["1"]) ∧
      ∃ response, school.search { query := some (.ofTerm "école") } = .answered response ∧
        response.hits = []) ∧
    ∀ term ∈ ["ÉCOLE", "école"], ∃ response,
      school.search (titled "adj" term) = .answered response ∧
        response.hits.map (·.id) = ["1"] := by
  refine ⟨by decide +kernel, ?words, ?anywhere, ?phrases⟩
  case words =>
    simp only [List.forall_mem_cons, List.not_mem_nil, false_implies, implies_true, and_true]
    refine ⟨⟨⟨_, rfl, ?_⟩, _, rfl, ?_⟩, ⟨⟨_, rfl, ?_⟩, _, rfl, ?_⟩, ⟨_, rfl, ?_⟩, _, rfl, ?_⟩
    all_goals decide +kernel
  case anywhere => exact ⟨⟨_, rfl, by decide +kernel⟩, _, rfl, by decide +kernel⟩
  case phrases =>
    simp only [List.forall_mem_cons, List.not_mem_nil, false_implies, implies_true, and_true]
    exact ⟨⟨_, rfl, by decide +kernel⟩, _, rfl, by decide +kernel⟩

end FederatedSearch
