import FederatedSearch.Proofs.TokenTexts
import FederatedSearch.Query.Parser

/-! Reading a query part by part. An operand is read alike wherever it stands: a text that is read
on its own is read as one operand inside of parentheses, and the operators behind an operand join
it to those that follow, from left to right. -/

namespace FederatedSearch

theorem parse_ok_iff {text : String} {query : Expression} :
    parse text = .ok query ↔ ∃ tokens, tokens? text.toList = some tokens ∧ tokens ≠ [] ∧
      (Position.operand .start []).readTokens tokens = .ok query := by
  unfold parse
  cases tokens? text.toList with
  | none => simp
  | some tokens =>
      cases tokens with
      | nil => simp
      | cons token tokens => simp

/-! Words that join operands -/

theorem toLower_of_endsWord {c : Char} (ends : endsWord c = true) : c.toLower = c := by
  have notUpper : ¬(c.val ≥ 'A'.val ∧ c.val ≤ 'Z'.val) := by
    rintro ⟨lower, upper⟩
    have atLeast : 65 ≤ c.toNat := UInt32.le_iff_toNat_le.mp lower
    have atMost : c.toNat ≤ 90 := UInt32.le_iff_toNat_le.mp upper
    simp only [endsWord, isBlank, Bool.or_eq_true, Bool.and_eq_true, decide_eq_true_eq, beq_iff_eq,
      List.contains_eq_mem, List.mem_cons, List.not_mem_nil, or_false] at ends
    rcases ends with blank | mark
    · omega
    · rcases mark with rfl | rfl | rfl | rfl | rfl | rfl <;> revert atLeast atMost <;> decide
  unfold Char.toLower
  rw [dif_neg notUpper]

theorem lowered_of_ofWord? {word : String} {connective : Connective}
    (named : Connective.ofWord? word = some connective) :
    asciiLowerCase word ∈ ["and", "or", "not"] := by
  unfold Connective.ofWord? at named
  dsimp only at named
  split at named
  next isAnd => simp [isAnd]
  next =>
    split at named
    next isOr => simp [isOr]
    next =>
      split at named
      next isNot => simp [isNot]
      next => cases named

theorem isWord_of_ofWord? {word : String} {connective : Connective}
    (named : Connective.ofWord? word = some connective) : IsWord word.toList := by
  have lowered : (asciiLowerCase word).toList = word.toList.map Char.toLower := by
    simp [asciiLowerCase]
  have letters : IsWord (asciiLowerCase word).toList := by
    have named := lowered_of_ofWord? named
    generalize asciiLowerCase word = name at named
    revert name
    decide
  rw [lowered] at letters
  refine ⟨fun none => letters.1 (by rw [none]; rfl), ?_⟩
  intro c member
  cases ends : endsWord c with
  | false => rfl
  | true =>
      have inLowered : c.toLower ∈ word.toList.map Char.toLower := List.mem_map_of_mem member
      rw [toLower_of_endsWord ends] at inLowered
      rw [letters.2 c inLowered] at ends
      cases ends

theorem relationOfWord?_of_ofWord? {word : String} {connective : Connective}
    (named : Connective.ofWord? word = some connective) : relationOfWord? word = none := by
  have lowered := lowered_of_ofWord? named
  simp only [List.mem_cons, List.not_mem_nil, or_false] at lowered
  unfold relationOfWord?
  rcases lowered with same | same | same <;> rw [same] <;> decide

/-! Operands in front of what may stand behind them -/

def Token.Holds (term : String) (token : Token) : Prop :=
  token = .word term ∨ token = .quoted term

def endsOperand : List Token → Bool
  | [] => true
  | .closing :: _ => true
  | .word word :: _ => (Connective.ofWord? word).isSome
  | _ => false

namespace Position

theorem relation?_of_endsOperand {token : Token} {rest : List Token}
    (ends : endsOperand (token :: rest) = true) (next : Option Token) :
    relation? token next = none := by
  cases token with
  | closing => rfl
  | word word =>
      obtain ⟨connective, named⟩ := Option.isSome_iff_exists.mp ends
      unfold relation?
      dsimp only
      rw [relationOfWord?_of_ofWord? named]
      exact ite_self none
  | quoted text => cases ends
  | relation text => cases ends
  | opening => cases ends

theorem step_term (first : String) (pending : Pending) (outer : List Pending) (token : Token)
    (next : Option Token) :
    (Position.term first pending outer).step token next =
      match relation? token next with
      | some relating => .ok (.relation first relating pending outer)
      | none => stepOperator (pending.close (.ofTerm first)) outer token :=
  rfl

theorem readTokens_term {rest : List Token} (ends : endsOperand rest = true) (first : String)
    (pending : Pending) (outer : List Pending) :
    (Position.term first pending outer).readTokens rest =
      (Position.operator (pending.close (.ofTerm first)) outer).readTokens rest := by
  cases rest with
  | nil => rfl
  | cons token rest =>
      have noRelation := relation?_of_endsOperand ends rest.head?
      simp only [readTokens, step, noRelation]

inductive Step (token : Token) (next : Option Token) : Position → Position → Prop
  | opening {pending : Pending} {outer : List Pending} (same : token = .opening) :
      Step token next (.operand pending outer) (.operand .start (pending :: outer))
  | first {text : String} {pending : Pending} {outer : List Pending} (holds : token.Holds text) :
      Step token next (.operand pending outer) (.term text pending outer)
  | relation {first relating : String} {pending : Pending} {outer : List Pending}
      (related : relation? token next = some relating) :
      Step token next (.term first pending outer) (.relation first relating pending outer)
  | noRelation {first : String} {pending : Pending} {outer : List Pending} {position : Position}
      (unrelated : relation? token next = none)
      (stepped : Step token next (.operator (pending.close (.ofTerm first)) outer) position) :
      Step token next (.term first pending outer) position
  | second {first relating text : String} {pending : Pending} {outer : List Pending}
      (holds : token.Holds text) :
      Step token next (.relation first relating pending outer)
        (.operator (pending.close (.clause (.related first relating text))) outer)
  | connective {left : Expression} {outer : List Pending} {word : String}
      {connective : Connective} (same : token = .word word)
      (named : Connective.ofWord? word = some connective) :
      Step token next (.operator left outer) (.operand (.joined left connective) outer)
  | closing {left : Expression} {pending : Pending} {outer : List Pending}
      (same : token = .closing) :
      Step token next (.operator left (pending :: outer)) (.operator (pending.close left) outer)

variable {position after : Position} {token : Token} {next : Option Token}

theorem step_of_stepOperator {left : Expression} {outer : List Pending}
    (stepped : stepOperator left outer token = .ok after) :
    Step token next (.operator left outer) after := by
  cases token with
  | word word =>
      unfold stepOperator at stepped
      dsimp only at stepped
      cases named : Connective.ofWord? word with
      | none =>
          rw [named] at stepped
          cases stepped
      | some connective =>
          rw [named] at stepped
          obtain rfl := Except.ok.inj stepped
          exact .connective rfl named
  | closing =>
      cases outer with
      | nil => cases stepped
      | cons pending outer =>
          obtain rfl := Except.ok.inj stepped
          exact .closing rfl
  | quoted text => cases outer <;> cases stepped
  | relation text => cases outer <;> cases stepped
  | opening => cases outer <;> cases stepped

theorem step_ok_iff : position.step token next = .ok after ↔ Step token next position after := by
  constructor
  · intro stepped
    cases position with
    | operand pending outer =>
        cases token with
        | opening =>
            obtain rfl := Except.ok.inj stepped
            exact .opening rfl
        | word text =>
            obtain rfl := Except.ok.inj stepped
            exact .first (Or.inl rfl)
        | quoted text =>
            obtain rfl := Except.ok.inj stepped
            exact .first (Or.inr rfl)
        | relation text => cases stepped
        | closing => cases stepped
    | term first pending outer =>
        rw [step_term] at stepped
        cases related : relation? token next with
        | none =>
            rw [related] at stepped
            exact .noRelation related (step_of_stepOperator stepped)
        | some relating =>
            rw [related] at stepped
            obtain rfl := Except.ok.inj stepped
            exact .relation related
    | relation first relating pending outer =>
        cases token with
        | word text =>
            obtain rfl := Except.ok.inj stepped
            exact .second (Or.inl rfl)
        | quoted text =>
            obtain rfl := Except.ok.inj stepped
            exact .second (Or.inr rfl)
        | relation text => cases stepped
        | opening => cases stepped
        | closing => cases stepped
    | operator left outer => exact step_of_stepOperator stepped
  · intro stepped
    induction stepped with
    | opening same => rw [same]; rfl
    | first holds => rcases holds with rfl | rfl <;> rfl
    | relation related => rw [step_term, related]
    | noRelation unrelated _ ih =>
        rw [step_term, unrelated]
        exact ih
    | second holds => rcases holds with rfl | rfl <;> rfl
    | connective same named =>
        rw [same]
        simp [step, stepOperator, named]
    | closing same => rw [same]; rfl

def under (below : List Pending) : Position → Position
  | .operand pending outer => .operand pending (outer ++ below)
  | .term first pending outer => .term first pending (outer ++ below)
  | .relation first relating pending outer => .relation first relating pending (outer ++ below)
  | .operator left outer => .operator left (outer ++ below)

theorem Step.under {other : Option Token} (stepped : Step token next position after)
    (same : other.any isTerm = next.any isTerm) (below : List Pending) :
    Step token other (position.under below) (after.under below) := by
  have sameRelation : relation? token other = relation? token next := by
    unfold relation?
    rw [same]
  induction stepped with
  | opening same => exact .opening same
  | first holds => exact .first holds
  | relation related => exact .relation (sameRelation.trans related)
  | noRelation unrelated _ ih => exact .noRelation (sameRelation.trans unrelated) ih
  | second holds => exact .second holds
  | connective same named => exact .connective same named
  | closing same => exact .closing same

theorem readTokens_step {tokens : List Token} (stepped : Step token tokens.head? position after) :
    position.readTokens (token :: tokens) = after.readTokens tokens := by
  rw [readTokens, step_ok_iff.mpr stepped]

theorem readTokens_cons_ok {tokens : List Token} {query : Expression}
    (read : position.readTokens (token :: tokens) = .ok query) :
    ∃ after, Step token tokens.head? position after ∧ after.readTokens tokens = .ok query := by
  cases stepped : position.step token tokens.head? with
  | error error =>
      rw [readTokens, stepped] at read
      cases read
  | ok after =>
      rw [readTokens, stepped] at read
      exact ⟨after, step_ok_iff.mp stepped, read⟩

theorem finish_ok {query : Expression} (finished : position.finish = .ok query) :
    position = .operator query [] ∨
      ∃ first pending, position = .term first pending [] ∧
        query = pending.close (.ofTerm first) := by
  cases position with
  | operand pending outer => cases finished
  | term first pending outer =>
      cases outer with
      | nil =>
          obtain rfl := Except.ok.inj finished
          exact Or.inr ⟨first, pending, rfl, rfl⟩
      | cons _ _ => cases finished
  | relation first relating pending outer => cases finished
  | operator left outer =>
      cases outer with
      | nil =>
          obtain rfl := Except.ok.inj finished
          exact Or.inl rfl
      | cons _ _ => cases finished

/-- Tokens that are read to their end are read alike inside of parentheses. -/
theorem readTokens_under {position : Position} {tokens : List Token} {value : Expression}
    (read : position.readTokens tokens = .ok value) (pending : Pending) (outer : List Pending)
    (rest : List Token) :
    (position.under (pending :: outer)).readTokens (tokens ++ .closing :: rest) =
      (Position.operator (pending.close value) outer).readTokens rest := by
  induction tokens generalizing position with
  | nil =>
      rcases finish_ok read with rfl | ⟨first, held, rfl, rfl⟩
      · rfl
      · rfl
  | cons token tokens ih =>
      have same : (tokens ++ .closing :: rest).head?.any isTerm = tokens.head?.any isTerm := by
        cases tokens <;> rfl
      obtain ⟨after, stepped, readRest⟩ := readTokens_cons_ok read
      rw [List.cons_append, readTokens_step (stepped.under same (pending :: outer))]
      exact ih readRest

end Position

def IsOperand (text : List Char) (value : Expression) : Prop :=
  ∃ tokens, tokens? text = some tokens ∧ tokens ≠ [] ∧
    ∀ pending outer rest, endsOperand rest = true →
      (Position.operand pending outer).readTokens (tokens ++ rest) =
        (Position.operator (pending.close value) outer).readTokens rest

/-- The text behind an operand goes on to the end of the query, and makes this of what stands left
of it. -/
def IsTail (text : List Char) (extend : Expression → Expression) : Prop :=
  (∀ c ∈ text.head?, separates c = true) ∧ ∃ tokens, tokens? text = some tokens ∧
    endsOperand tokens = true ∧
    ∀ left, (Position.operator left []).readTokens tokens = .ok (extend left)

theorem isOperand_group {text : List Char} {value : Expression}
    (parsed : parse (String.ofList text) = .ok value) :
    IsOperand ('(' :: text ++ [')']) value := by
  obtain ⟨tokens, found, someTokens, read⟩ := parse_ok_iff.mp parsed
  rw [String.toList_ofList] at found
  have closed : ∀ c ∈ [')'].head?, separates c = true := by
    rintro _ ⟨⟩
    rfl
  refine ⟨.opening :: tokens ++ [.closing], ?_, by simp, ?_⟩
  · rw [List.cons_append, tokens?_opening, tokens?_append found closed, tokens?_closing]
    rfl
  · intro pending outer rest _
    rw [List.append_assoc, List.cons_append, Position.readTokens_step (.opening rfl)]
    exact Position.readTokens_under read pending outer rest

theorem isTail_nil : IsTail [] id :=
  ⟨by simp, [], rfl, rfl, fun _ => rfl⟩

theorem isTail_cons {word : String} {connective : Connective}
    (named : Connective.ofWord? word = some connective) {text more : List Char}
    {value : Expression} {extend : Expression → Expression} (operand : IsOperand text value)
    (tail : IsTail more extend) :
    IsTail (' ' :: (word.toList ++ ' ' :: (text ++ more)))
      fun left => extend (connective.join left value) := by
  obtain ⟨tokens, found, someTokens, readOperand⟩ := operand
  obtain ⟨separated, others, foundOthers, ends, readTail⟩ := tail
  have blank : isBlank ' ' = true := by decide
  have endsAtBlank : endsWord ' ' = true := by decide
  have separates : separates ' ' = true := by decide
  refine ⟨by simpa using separates, .word word :: (tokens ++ others), ?_, ?_, ?_⟩
  · rw [tokens?_blank blank, tokens?_word (isWord_of_ofWord? named) (by simpa using endsAtBlank),
      tokens?_blank blank, tokens?_append found separated, foundOthers]
    simp
  · simp [endsOperand, named]
  · intro left
    rw [Position.readTokens_step (.connective rfl named), readOperand _ _ _ ends, readTail]
    rfl

/-- An operand and what stands behind it are read as a whole. -/
theorem parse_of_parts {first others : List Char} {value : Expression}
    {extend : Expression → Expression} (operand : IsOperand first value)
    (tail : IsTail others extend) :
    parse (String.ofList (first ++ others)) = .ok (extend value) := by
  obtain ⟨tokens, found, someTokens, readOperand⟩ := operand
  obtain ⟨separated, more, foundMore, ends, readTail⟩ := tail
  rw [parse_ok_iff, String.toList_ofList]
  refine ⟨tokens ++ more, ?_, by simp [someTokens], ?_⟩
  · rw [tokens?_append found separated, foundMore]
    rfl
  · rw [readOperand _ _ _ ends, readTail]
    rfl

end FederatedSearch
