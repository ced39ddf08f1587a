import FederatedSearch.Query.Token

/-! The tokens of texts that are put together from parts. A part in front of other text gives its
own tokens as long as what follows cannot go on with the last of them. -/

namespace FederatedSearch

def IsWord (text : List Char) : Prop :=
  text ≠ [] ∧ ∀ c ∈ text, endsWord c = false

instance (text : List Char) : Decidable (IsWord text) :=
  @instDecidableAnd _ _ _ (List.decidableBAll _ text)

def separates (c : Char) : Bool :=
  isBlank c || c = '(' || c = ')' || c = '"'

theorem endsWord_of_separates {c : Char} (separated : separates c = true) : endsWord c = true := by
  simp only [separates, Bool.or_eq_true, decide_eq_true_eq] at separated
  rcases separated with ((blank | rfl) | rfl) | rfl
  · simp [endsWord, blank]
  all_goals decide

namespace Reading

theorem eq_of_pairs {mark c : Char} (paired : pairs mark c = true) : c = '=' ∨ c = '>' := by
  simp only [pairs, List.contains_eq_mem, List.mem_cons, Prod.mk.injEq, List.not_mem_nil, or_false,
    decide_eq_true_eq] at paired
  rcases paired with ⟨_, same⟩ | ⟨_, same⟩ | ⟨_, same⟩ | ⟨_, same⟩
  · exact Or.inl same
  · exact Or.inr same
  · exact Or.inl same
  · exact Or.inl same

theorem pairs_of_separates {c : Char} (separated : separates c = true) (mark : Char) :
    pairs mark c = false := by
  cases paired : pairs mark c with
  | false => rfl
  | true =>
      rcases eq_of_pairs paired with rfl | rfl
      · revert separated
        decide
      · revert separated
        decide

def tokensOf? (reading : Reading) (text : List Char) : Option (List Token) :=
  (reading.readChars text).2.finish.map ((reading.readChars text).1 ++ ·)

theorem tokensOf?_cons (reading : Reading) (c : Char) (rest : List Char) :
    reading.tokensOf? (c :: rest) =
      ((reading.step c).2.tokensOf? rest).map ((reading.step c).1 ++ ·) := by
  simp [tokensOf?, readChars, Function.comp_def]

theorem tokensOf?_append (reading : Reading) (first second : List Char) :
    reading.tokensOf? (first ++ second) =
      ((reading.readChars first).2.tokensOf? second).map ((reading.readChars first).1 ++ ·) := by
  simp [tokensOf?, readChars_append, Function.comp_def]

theorem tokensOf?_relation {mark : Char} {rest : List Char}
    (unpaired : ∀ c ∈ rest.head?, pairs mark c = false) :
    (Reading.relation mark).tokensOf? rest =
      (gap.tokensOf? rest).map (.relation (String.ofList [mark]) :: ·) := by
  cases rest with
  | nil => rfl
  | cons c rest =>
      have single := unpaired c rfl
      simp [tokensOf?_cons, step, single, Function.comp_def]

theorem tokensOf?_word {word : List Char} (read : List Char)
    (dark : ∀ c ∈ word, endsWord c = false) {rest : List Char}
    (ended : ∀ c ∈ rest.head?, endsWord c = true) :
    (Reading.word read).tokensOf? (word ++ rest) =
      (gap.tokensOf? rest).map (.word (String.ofList (read.reverse ++ word)) :: ·) := by
  induction word generalizing read with
  | nil =>
      cases rest with
      | nil => simp [tokensOf?, readChars, finish]
      | cons c rest =>
          have ends := ended c rfl
          simp [tokensOf?_cons, step, ends, Function.comp_def]
  | cons c word ih =>
      have goesOn := dark c List.mem_cons_self
      have later := ih (c :: read) fun other member => dark other (List.mem_cons_of_mem c member)
      simp [tokensOf?_cons, step, goesOn, later, Function.comp_def]

/-- A separating character finishes what the reader is in the middle of just as the end does. -/
theorem tokensOf?_of_finish {reading : Reading} {last : List Token}
    (finished : reading.finish = some last) {rest : List Char}
    (separated : ∀ c ∈ rest.head?, separates c = true) :
    reading.tokensOf? rest = (gap.tokensOf? rest).map (last ++ ·) := by
  cases reading with
  | gap =>
      obtain rfl := Option.some.inj finished
      simp
  | word read =>
      obtain rfl := Option.some.inj finished
      have ended := fun c first => endsWord_of_separates (separated c first)
      simpa using @tokensOf?_word [] read (by simp) rest ended
  | quoted read => cases finished
  | escape read => cases finished
  | relation mark =>
      obtain rfl := Option.some.inj finished
      exact tokensOf?_relation fun c first => pairs_of_separates (separated c first) mark

theorem tokensOf?_quoted (read text rest : List Char) :
    (Reading.quoted read).tokensOf? (text.flatMap quotedChar ++ '"' :: rest) =
      (gap.tokensOf? rest).map (.quoted (String.ofList (read.reverse ++ text)) :: ·) := by
  induction text generalizing read with
  | nil => simp [tokensOf?_cons, step]
  | cons c text ih =>
      have later := ih (c :: read)
      rw [List.flatMap_cons, List.append_assoc]
      by_cases special : c = '\\' ∨ c = '"'
      · have written : quotedChar c = ['\\', c] := by
          rcases special with rfl | rfl <;> rfl
        simp [written, tokensOf?_cons, step, later, Function.comp_def]
      · have written : quotedChar c = [c] := by
          simpa [quotedChar] using special
        rw [not_or] at special
        simp [written, tokensOf?_cons, step, special, later, Function.comp_def]

end Reading

open Reading

theorem tokens?_eq (text : List Char) : tokens? text = gap.tokensOf? text :=
  rfl

theorem tokens?_nil : tokens? [] = some [] :=
  rfl

/-- A text that can be read has its own tokens in front of a separating character. -/
theorem tokens?_append {first second : List Char} {tokens : List Token}
    (read : tokens? first = some tokens) (separated : ∀ c ∈ second.head?, separates c = true) :
    tokens? (first ++ second) = (tokens? second).map (tokens ++ ·) := by
  obtain ⟨last, finished, rfl⟩ := Option.map_eq_some_iff.mp read
  rw [tokens?_eq, tokens?_eq, tokensOf?_append, tokensOf?_of_finish finished separated]
  simp [Function.comp_def]

theorem tokens?_blank {c : Char} (blank : isBlank c = true) (rest : List Char) :
    tokens? (c :: rest) = tokens? rest := by
  rw [tokens?_eq, tokens?_eq, tokensOf?_cons]
  simp [step, begin, blank]

theorem tokens?_opening (rest : List Char) :
    tokens? ('(' :: rest) = (tokens? rest).map (.opening :: ·) :=
  tokensOf?_cons gap '(' rest

theorem tokens?_closing (rest : List Char) :
    tokens? (')' :: rest) = (tokens? rest).map (.closing :: ·) :=
  tokensOf?_cons gap ')' rest

theorem tokens?_word {word rest : List Char} (isWord : IsWord word)
    (ended : ∀ c ∈ rest.head?, endsWord c = true) :
    tokens? (word ++ rest) = (tokens? rest).map (.word (String.ofList word) :: ·) := by
  obtain ⟨someChars, dark⟩ := isWord
  cases word with
  | nil => exact absurd rfl someChars
  | cons c word =>
      have begun : gap.step c = ([], .word [c]) := by
        have first := dark c List.mem_cons_self
        simp only [endsWord, Bool.or_eq_false_iff, List.contains_eq_mem, List.mem_cons,
          List.not_mem_nil, or_false, decide_eq_false_iff_not, not_or] at first
        simp [step, begin, first]
      have later := tokensOf?_word [c]
        (fun other member => dark other (List.mem_cons_of_mem c member)) ended
      rw [tokens?_eq, tokens?_eq, List.cons_append, tokensOf?_cons, begun, later]
      simp [Function.comp_def]

theorem tokens?_quoted (text rest : List Char) :
    tokens? ('"' :: text.flatMap quotedChar ++ '"' :: rest) =
      (tokens? rest).map (.quoted (String.ofList text) :: ·) := by
  have begun : gap.step '"' = ([], .quoted []) := rfl
  rw [tokens?_eq, tokens?_eq, List.cons_append, tokensOf?_cons, begun, tokensOf?_quoted]
  simp [Function.comp_def]

def relationMarks : List String :=
  ["=", "==", "<>", "<", "<=", ">", ">="]

theorem tokens?_marks {marks : String} (isMarks : marks ∈ relationMarks) {rest : List Char}
    (apart : ∀ c ∈ rest.head?, c ≠ '=' ∧ c ≠ '>') :
    tokens? (marks.toList ++ rest) = (tokens? rest).map (.relation marks :: ·) := by
  have unpaired (mark : Char) : ∀ c ∈ rest.head?, pairs mark c = false := by
    intro c first
    cases paired : pairs mark c with
    | false => rfl
    | true =>
        rcases eq_of_pairs paired with same | same
        · exact absurd same (apart c first).1
        · exact absurd same (apart c first).2
  have alone (mark : Char) : (Reading.relation mark).tokensOf? rest = _ :=
    tokensOf?_relation (unpaired mark)
  simp only [relationMarks, List.mem_cons, List.not_mem_nil, or_false] at isMarks
  rcases isMarks with rfl | rfl | rfl | rfl | rfl | rfl | rfl
  all_goals simp [tokens?_eq, tokensOf?_cons, step, begin, pairs, isBlank, alone, Function.comp_def]

/-! What tokens hold -/

def Token.IsRead : Token → Prop
  | .word text => IsWord text.toList
  | .relation text => text ∈ relationMarks
  | _ => True

namespace Reading

def IsSound : Reading → Prop
  | .word read => read ≠ [] ∧ ∀ c ∈ read, endsWord c = false
  | .relation mark => mark ∈ ['=', '<', '>']
  | _ => True

theorem isSound_begin (c : Char) :
    (∀ token ∈ (begin c).1, token.IsRead) ∧ (begin c).2.IsSound := by
  unfold begin
  split
  next => simp [IsSound]
  next dark =>
    split
    next => simp [IsSound, Token.IsRead]
    next notOpening =>
      split
      next => simp [IsSound, Token.IsRead]
      next notClosing =>
        split
        next => simp [IsSound]
        next notQuote =>
          split
          next mark => simpa [IsSound, or_assoc] using mark
          next notMark =>
            simp only [Bool.or_eq_true, decide_eq_true_eq, not_or] at notMark
            simp [IsSound, endsWord, dark, notOpening, notClosing, notQuote, notMark]

theorem mem_relationMarks_of_pairs {mark c : Char} (paired : pairs mark c = true) :
    String.ofList [mark, c] ∈ relationMarks := by
  simp only [pairs, List.contains_eq_mem, List.mem_cons, Prod.mk.injEq, List.not_mem_nil, or_false,
    decide_eq_true_eq] at paired
  rcases paired with ⟨rfl, rfl⟩ | ⟨rfl, rfl⟩ | ⟨rfl, rfl⟩ | ⟨rfl, rfl⟩ <;> decide

theorem isRead_of_finish {reading : Reading} (sound : reading.IsSound) {tokens : List Token}
    (finished : reading.finish = some tokens) : ∀ token ∈ tokens, token.IsRead := by
  cases reading with
  | gap =>
      obtain rfl := Option.some.inj finished
      simp
  | word read =>
      obtain rfl := Option.some.inj finished
      simpa [Token.IsRead, IsWord, IsSound] using sound
  | quoted read => cases finished
  | escape read => cases finished
  | relation mark =>
      obtain rfl := Option.some.inj finished
      have single : String.ofList [mark] ∈ relationMarks := by
        simp only [IsSound, List.mem_cons, List.not_mem_nil, or_false] at sound
        rcases sound with rfl | rfl | rfl <;> decide
      simpa [Token.IsRead] using single

inductive Step (c : Char) : Reading → List Token × Reading → Prop
  | begins {reading : Reading} {last : List Token} (finished : reading.finish = some last) :
      Step c reading (last ++ (begin c).1, (begin c).2)
  | inWord {read : List Char} (dark : endsWord c = false) :
      Step c (.word read) ([], .word (c :: read))
  | backslash {read : List Char} (same : c = '\\') : Step c (.quoted read) ([], .escape read)
  | closes {read : List Char} (same : c = '"') :
      Step c (.quoted read) ([.quoted (String.ofList read.reverse)], .gap)
  | inQuotes {read : List Char} (notBackslash : c ≠ '\\') (notQuote : c ≠ '"') :
      Step c (.quoted read) ([], .quoted (c :: read))
  | escaped {read : List Char} : Step c (.escape read) ([], .quoted (c :: read))
  | pair {mark : Char} (paired : pairs mark c = true) :
      Step c (.relation mark) ([.relation (String.ofList [mark, c])], .gap)

theorem step_cases (reading : Reading) (c : Char) : Step c reading (reading.step c) := by
  cases reading with
  | gap => exact @Step.begins c .gap [] rfl
  | word read =>
      cases ends : endsWord c with
      | true =>
          have stepped : (Reading.word read).step c =
              ([.word (String.ofList read.reverse)] ++ (begin c).1, (begin c).2) := by
            simp [step, ends]
          rw [stepped]
          exact .begins rfl
      | false =>
          have stepped : (Reading.word read).step c = ([], .word (c :: read)) := by
            simp [step, ends]
          rw [stepped]
          exact .inWord ends
  | quoted read =>
      by_cases isBackslash : c = '\\'
      · rw [isBackslash]
        exact .backslash rfl
      by_cases isQuote : c = '"'
      · rw [isQuote]
        exact .closes rfl
      · have stepped : (Reading.quoted read).step c = ([], .quoted (c :: read)) := by
          simp [step, isBackslash, isQuote]
        rw [stepped]
        exact .inQuotes isBackslash isQuote
  | escape read => exact .escaped
  | relation mark =>
      cases paired : pairs mark c with
      | true =>
          have stepped : (Reading.relation mark).step c =
              ([.relation (String.ofList [mark, c])], .gap) := by
            simp [step, paired]
          rw [stepped]
          exact .pair paired
      | false =>
          have stepped : (Reading.relation mark).step c =
              ([.relation (String.ofList [mark])] ++ (begin c).1, (begin c).2) := by
            simp [step, paired]
          rw [stepped]
          exact .begins rfl

theorem isSound_step {reading : Reading} (sound : reading.IsSound) (c : Char) :
    (∀ token ∈ (reading.step c).1, token.IsRead) ∧ (reading.step c).2.IsSound := by
  have stepped := reading.step_cases c
  generalize reading.step c = result at stepped ⊢
  cases stepped with
  | begins finished =>
      obtain ⟨beginTokens, beginSound⟩ := isSound_begin c
      refine ⟨fun token member => ?_, beginSound⟩
      rcases List.mem_append.mp member with inLast | inBegin
      · exact isRead_of_finish sound finished token inLast
      · exact beginTokens token inBegin
  | inWord dark =>
      refine ⟨by simp, List.cons_ne_nil _ _, ?_⟩
      exact List.forall_mem_cons.mpr ⟨dark, sound.2⟩
  | pair paired => simpa [Token.IsRead, IsSound] using mem_relationMarks_of_pairs paired
  | backslash _ => simp [IsSound]
  | closes _ => simp [IsSound, Token.IsRead]
  | inQuotes _ _ => simp [IsSound]
  | escaped => simp [IsSound]

theorem isRead_of_tokensOf? {reading : Reading} (sound : reading.IsSound) {text : List Char}
    {tokens : List Token} (found : reading.tokensOf? text = some tokens) :
    ∀ token ∈ tokens, token.IsRead := by
  induction text generalizing reading tokens with
  | nil =>
      obtain ⟨last, finished, rfl⟩ := Option.map_eq_some_iff.mp found
      exact isRead_of_finish sound finished
  | cons c text ih =>
      rw [tokensOf?_cons] at found
      obtain ⟨later, foundLater, rfl⟩ := Option.map_eq_some_iff.mp found
      obtain ⟨stepTokens, stepSound⟩ := isSound_step sound c
      intro token member
      rcases List.mem_append.mp member with inStep | inLater
      · exact stepTokens token inStep
      · exact ih stepSound foundLater token inLater

end Reading

theorem isRead_of_tokens? {text : List Char} {tokens : List Token}
    (found : tokens? text = some tokens) : ∀ token ∈ tokens, token.IsRead := by
  have sound : Reading.gap.IsSound := trivial
  exact isRead_of_tokensOf? sound found

end FederatedSearch
