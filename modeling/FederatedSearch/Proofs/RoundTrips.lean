import FederatedSearch.Proofs.ParsedQueries
import FederatedSearch.Proofs.WrittenQueries
import Mathlib.Algebra.GroupWithZero.Nat
import Mathlib.Algebra.Order.BigOperators.Group.List
import Mathlib.Algebra.Order.Group.Nat

/-! When a query that was read is read again from its text. An index is written as it is, so it has
to be a word. That no other index can be read again is shown by counting quote marks and
backslashes: to be read an index that is no word must stand between quotes, which takes more of
them than are written. -/

namespace FederatedSearch

def textWeight (text : List Char) : Nat :=
  text.countP fun c => c = '\\' || c = '"'

theorem textWeight_append (first second : List Char) :
    textWeight (first ++ second) = textWeight first + textWeight second :=
  List.countP_append

theorem textWeight_cons (c : Char) (text : List Char) :
    textWeight (c :: text) = textWeight [c] + textWeight text :=
  textWeight_append [c] text

theorem textWeight_blank (text : List Char) : textWeight (' ' :: text) = textWeight text := by
  rw [textWeight_cons]
  exact Nat.zero_add _

theorem textWeight_reverse (text : List Char) : textWeight text.reverse = textWeight text :=
  List.countP_reverse

theorem textWeight_quoted (text : List Char) :
    textWeight (text.flatMap quotedChar) = 2 * textWeight text := by
  induction text with
  | nil => rfl
  | cons c text ih =>
      have doubled : textWeight (quotedChar c) = 2 * textWeight [c] := by
        by_cases special : c = '\\' ∨ c = '"'
        · rcases special with rfl | rfl <;> rfl
        · rw [not_or] at special
          simp [quotedChar, special, textWeight]
      rw [List.flatMap_cons, textWeight_append, doubled, ih, textWeight_cons c text]
      omega

theorem termChars_of_isWord {text : List Char} (isWord : IsWord text) : termChars text = text := by
  unfold termChars
  rw [if_neg]
  simpa [IsWord] using isWord

theorem textWeight_termChars {text : List Char} (notWord : ¬IsWord text) :
    textWeight (termChars text) = 2 + 2 * textWeight text := by
  unfold termChars
  rw [if_pos]
  · have marks : textWeight ['"'] = 1 := rfl
    rw [List.cons_append, textWeight_cons, textWeight_append, textWeight_quoted, marks]
    omega
  · simpa [IsWord, or_iff_not_imp_left] using notWord

theorem textWeight_le_termChars (text : List Char) :
    textWeight text ≤ textWeight (termChars text) := by
  by_cases isWord : IsWord text
  · rw [termChars_of_isWord isWord]
  · rw [textWeight_termChars isWord]
    omega

theorem textWeight_termChars_le (text : List Char) :
    textWeight (termChars text) ≤ 2 + 2 * textWeight text := by
  by_cases isWord : IsWord text
  · rw [termChars_of_isWord isWord]
    omega
  · rw [textWeight_termChars isWord]

/-! What tokens take -/

def Token.weight : Token → Nat
  | .word text => textWeight text.toList
  | .quoted text => 2 + 2 * textWeight text.toList
  | _ => 0

def tokensWeight (tokens : List Token) : Nat :=
  (tokens.map Token.weight).sum

theorem tokensWeight_append (first second : List Token) :
    tokensWeight (first ++ second) = tokensWeight first + tokensWeight second := by
  simp [tokensWeight]

theorem textWeight_le_weight {token : Token} {text : String} (holds : token.Holds text)
    (read : token.IsRead) : textWeight (termChars text.toList) ≤ token.weight := by
  rcases holds with rfl | rfl
  · rw [termChars_of_isWord read]
    rfl
  · exact textWeight_termChars_le text.toList

namespace Reading

def weight : Reading → Nat
  | .gap => 0
  | .word read => textWeight read
  | .quoted read => 1 + 2 * textWeight read
  | .escape read => 2 + 2 * textWeight read
  | .relation _ => 0

theorem weight_finish {reading : Reading} {last : List Token}
    (finished : reading.finish = some last) : tokensWeight last = reading.weight := by
  cases reading with
  | gap =>
      obtain rfl := Option.some.inj finished
      rfl
  | word read =>
      obtain rfl := Option.some.inj finished
      simp [tokensWeight, Token.weight, weight, textWeight_reverse]
  | quoted read => cases finished
  | escape read => cases finished
  | relation mark =>
      obtain rfl := Option.some.inj finished
      rfl

theorem weight_begin (c : Char) :
    tokensWeight (begin c).1 + (begin c).2.weight ≤ textWeight [c] := by
  unfold begin
  split
  next => simp [tokensWeight, weight]
  next =>
    split
    next => simp [tokensWeight, weight, Token.weight]
    next =>
      split
      next => simp [tokensWeight, weight, Token.weight]
      next =>
        split
        next isQuote => rw [isQuote]; decide
        next =>
          split
          next => simp [tokensWeight, weight]
          next => simp [tokensWeight, weight]

theorem weight_step (reading : Reading) (c : Char) :
    tokensWeight (reading.step c).1 + (reading.step c).2.weight ≤
      reading.weight + textWeight [c] := by
  have stepped := reading.step_cases c
  generalize reading.step c = result at stepped ⊢
  cases stepped with
  | begins finished =>
      have ofLast := weight_finish finished
      have ofBegin := weight_begin c
      dsimp only
      rw [tokensWeight_append]
      omega
  | @inWord read _ =>
      have more := textWeight_cons c read
      simp only [weight, tokensWeight, List.map_nil, List.sum_nil]
      omega
  | backslash same =>
      have one : textWeight [c] = 1 := by rw [same]; rfl
      simp only [weight, tokensWeight, List.map_nil, List.sum_nil]
      omega
  | closes same =>
      have one : textWeight [c] = 1 := by rw [same]; rfl
      simp [weight, tokensWeight, Token.weight, textWeight_reverse]
      omega
  | @inQuotes read notBackslash notQuote =>
      have more := textWeight_cons c read
      have none : textWeight [c] = 0 := by
        simp [textWeight, notBackslash, notQuote]
      simp only [weight, tokensWeight, List.map_nil, List.sum_nil]
      omega
  | @escaped read =>
      have more := textWeight_cons c read
      have atMostOne : textWeight [c] ≤ 1 := List.countP_le_length
      simp only [weight, tokensWeight, List.map_nil, List.sum_nil]
      omega
  | pair _ => simp [weight, tokensWeight, Token.weight]

theorem weight_tokensOf? {reading : Reading} {text : List Char} {tokens : List Token}
    (found : reading.tokensOf? text = some tokens) :
    tokensWeight tokens ≤ reading.weight + textWeight text := by
  induction text generalizing reading tokens with
  | nil =>
      obtain ⟨last, finished, rfl⟩ := Option.map_eq_some_iff.mp found
      have ofLast : tokensWeight last = reading.weight := weight_finish finished
      have nothing : tokensWeight (reading.readChars []).1 = 0 := rfl
      rw [tokensWeight_append, nothing, ofLast]
      omega
  | cons c text ih =>
      rw [tokensOf?_cons] at found
      obtain ⟨later, foundLater, rfl⟩ := Option.map_eq_some_iff.mp found
      have ofStep := weight_step reading c
      have ofLater := ih foundLater
      have whole := textWeight_cons c text
      rw [tokensWeight_append]
      omega

end Reading

/-! What queries take -/

def Clause.weight (clause : Clause) : Nat :=
  (clause.index.elim 0 fun index => textWeight (termChars index.toList)) +
    textWeight (termChars clause.term.toList)

namespace Expression

def weight (query : Expression) : Nat :=
  (query.clauses.map Clause.weight).sum

theorem clauses_joined {parts : Expression → List Expression}
    {wrap : List Expression → Expression}
    (ofWrap : ∀ operands, (wrap operands).clauses = operands.flatMap clauses)
    (ofParts : ∀ query, (parts query).flatMap clauses = query.clauses)
    (queries : List Expression) :
    (joined parts wrap queries).clauses = queries.flatMap clauses := by
  have ofAll : (queries.flatMap parts).flatMap clauses = queries.flatMap clauses := by
    rw [List.flatMap_assoc]
    simp only [ofParts]
  rw [← ofAll]
  unfold joined
  match queries.flatMap parts with
  | [] => exact ofWrap []
  | [query] => simp
  | _ :: _ :: _ => exact ofWrap _

theorem clauses_conjunction (queries : List Expression) :
    (conjunction queries).clauses = queries.flatMap clauses := by
  rw [conjunction_eq]
  refine clauses_joined (fun operands => ?_) (fun query => ?_) queries
  · rw [clauses, clausesOf_eq_flatMap]
  · cases query <;> simp [conjuncts, clauses, clausesOf_eq_flatMap]

theorem clauses_disjunction (queries : List Expression) :
    (disjunction queries).clauses = queries.flatMap clauses := by
  rw [disjunction_eq]
  refine clauses_joined (fun operands => ?_) (fun query => ?_) queries
  · rw [clauses, clausesOf_eq_flatMap]
  · cases query <;> simp [disjuncts, clauses, clausesOf_eq_flatMap]

theorem clauses_join (connective : Connective) (left right : Expression) :
    (connective.join left right).clauses = left.clauses ++ right.clauses := by
  cases connective with
  | and => exact (clauses_conjunction [left, right]).trans (by simp)
  | or => exact (clauses_disjunction [left, right]).trans (by simp)
  | not => exact (clauses_conjunction [left, .not right]).trans (by simp [clauses])

theorem weight_join (connective : Connective) (left right : Expression) :
    (connective.join left right).weight = left.weight + right.weight := by
  unfold weight
  rw [clauses_join, List.map_append, List.sum_append]

theorem weight_ofTerm (term : String) :
    (ofTerm term).weight = textWeight (termChars term.toList) := by
  simp [weight, ofTerm, clauses, Clause.weight, Clause.ofTerm]

theorem weight_related (index relation term : String) :
    weight (.clause (.related index relation term)) =
      textWeight (termChars index.toList) + textWeight (termChars term.toList) := by
  simp [weight, clauses, Clause.weight, Clause.related]

end Expression

def Pending.weight : Pending → Nat
  | .start => 0
  | .joined left _ => left.weight

theorem Pending.weight_close (pending : Pending) (query : Expression) :
    (pending.close query).weight = pending.weight + query.weight := by
  cases pending with
  | start => exact (Nat.zero_add _).symm
  | joined left connective => exact Expression.weight_join connective left query

namespace Position

def weightOfPending (held : List Pending) : Nat :=
  (held.map Pending.weight).sum

theorem weightOfPending_cons (pending : Pending) (held : List Pending) :
    weightOfPending (pending :: held) = pending.weight + weightOfPending held := by
  simp [weightOfPending]

def weight : Position → Nat
  | .operand pending outer => weightOfPending (pending :: outer)
  | .term first pending outer =>
    textWeight (termChars first.toList) + weightOfPending (pending :: outer)
  | .relation first _ pending outer =>
    textWeight (termChars first.toList) + weightOfPending (pending :: outer)
  | .operator left outer => left.weight + weightOfPending outer

variable {position after : Position} {token : Token} {next : Option Token}

theorem weight_step (read : token.IsRead) (stepped : Step token next position after) :
    after.weight ≤ position.weight + token.weight := by
  induction stepped with
  | opening _ =>
      rw [weight, weight, weightOfPending_cons, Pending.weight]
      omega
  | first holds =>
      have ofToken := textWeight_le_weight holds read
      rw [weight, weight]
      omega
  | relation _ =>
      rw [weight, weight]
      omega
  | noRelation _ _ ih =>
      rw [weight, Pending.weight_close, Expression.weight_ofTerm] at ih
      rw [weight, weightOfPending_cons]
      omega
  | second holds =>
      have ofToken := textWeight_le_weight holds read
      rw [weight, weight, Pending.weight_close, Expression.weight_related, weightOfPending_cons]
      omega
  | connective _ _ =>
      rw [weight, weight, weightOfPending_cons, Pending.weight]
      omega
  | closing _ =>
      rw [weight, weight, Pending.weight_close, weightOfPending_cons]
      omega

theorem weight_readTokens {tokens : List Token} {query : Expression}
    (read : ∀ token ∈ tokens, token.IsRead) (found : position.readTokens tokens = .ok query) :
    query.weight ≤ position.weight + tokensWeight tokens := by
  induction tokens generalizing position with
  | nil =>
      rcases finish_ok found with rfl | ⟨first, pending, rfl, rfl⟩
      · rw [weight]
        omega
      · rw [Pending.weight_close, Expression.weight_ofTerm, weight, weightOfPending_cons]
        omega
  | cons token tokens ih =>
      obtain ⟨ofToken, ofOthers⟩ := List.forall_mem_cons.mp read
      obtain ⟨after, stepped, readRest⟩ := readTokens_cons_ok found
      have ofStep := weight_step ofToken stepped
      have ofRest := ih ofOthers readRest
      have whole := tokensWeight_append [token] tokens
      have single : tokensWeight [token] = token.weight := Nat.add_zero _
      rw [List.singleton_append] at whole
      omega

end Position

/-- A text takes at least what the query takes that is read from it. -/
theorem weight_le_of_parse {text : String} {query : Expression} (parsed : parse text = .ok query) :
    query.weight ≤ textWeight text.toList := by
  obtain ⟨tokens, found, _, read⟩ := parse_ok_iff.mp parsed
  have ofTokens := Position.weight_readTokens (isRead_of_tokens? found) read
  have ofText := Reading.weight_tokensOf? found
  have start : (Position.operand .start []).weight = 0 := rfl
  have gap : Reading.gap.weight = 0 := rfl
  omega

/-! What written queries take -/

namespace Clause

theorem textWeight_relation {relation : String} (known : relation ∈ relationNames) :
    textWeight relation.toList = 0 := by
  revert relation
  decide

theorem textWeight_related {index relation : String} (known : relation ∈ relationNames)
    (term : String) : textWeight (related index relation term).chars =
      textWeight index.toList + textWeight (termChars term.toList) := by
  have ofRelation := textWeight_relation known
  unfold chars related
  dsimp only [relationText, Option.getD_some]
  split
  next =>
    rw [List.append_assoc, textWeight_append, List.cons_append, textWeight_blank,
      textWeight_append, textWeight_blank, ofRelation, Nat.zero_add]
  next => rw [textWeight_append, textWeight_append, ofRelation, Nat.add_zero]

variable {leaf : Clause}

theorem textWeight_chars_le (canonical : leaf.IsCanonical) :
    textWeight leaf.chars ≤ leaf.weight := by
  cases canonical with
  | ofTerm term => exact Nat.le_add_left _ _
  | @related index relation term known =>
      have ofIndex := textWeight_le_termChars index.toList
      rw [textWeight_related known]
      exact Nat.add_le_add_right ofIndex _

theorem textWeight_chars_lt (canonical : leaf.IsCanonical) {index : String}
    (hasIndex : leaf.index = some index) (notWord : ¬IsWord index.toList) :
    textWeight leaf.chars < leaf.weight := by
  cases canonical with
  | ofTerm term => cases hasIndex
  | @related _ relation term known =>
      obtain rfl := Option.some.inj hasIndex
      have ofIndex := textWeight_termChars notWord
      rw [textWeight_related known]
      refine Nat.add_lt_add_right ?_ _
      change _ < textWeight (termChars _)
      omega

end Clause

namespace Expression

theorem textWeight_enclosed (query : Expression) (written : List Char) :
    textWeight (query.enclosed written) = textWeight written := by
  have grouped : textWeight ('(' :: written ++ [')']) = textWeight written := by
    have marks : textWeight ['('] = 0 ∧ textWeight [')'] = 0 := ⟨rfl, rfl⟩
    rw [List.cons_append, textWeight_cons, textWeight_append, marks.1, marks.2]
    omega
  cases query with
  | clause leaf => rfl
  | all operands => exact grouped
  | any operands => exact grouped
  | not operand => exact grouped

theorem textWeight_unnegated (query : Expression) :
    textWeight (query.unnegated.enclosed query.unnegated.chars) = textWeight query.chars := by
  cases query with
  | not operand =>
      have before : textWeight (anyTerm.toList ++ " NOT ".toList) = 0 := by decide
      rw [chars, textWeight_append, before, Nat.zero_add]
      rfl
  | clause leaf => rfl
  | all operands => exact textWeight_enclosed _ _
  | any operands => exact textWeight_enclosed _ _

theorem textWeight_conjunctWord (query : Expression) :
    textWeight query.conjunctWord.toList = 0 := by
  have word : textWeight "AND".toList = 0 := by decide
  cases query with
  | not operand => exact (by decide : textWeight "NOT".toList = 0)
  | clause leaf => exact word
  | all operands => exact word
  | any operands => exact word

def textWeights (leaves : List Clause) : Nat :=
  (leaves.map fun leaf => textWeight leaf.chars).sum

theorem textWeights_append (first second : List Clause) :
    textWeights (first ++ second) = textWeights first + textWeights second := by
  simp [textWeights]

mutual

theorem textWeight_chars : (query : Expression) →
    textWeight query.chars = textWeights query.clauses
  | .clause leaf => by simp [chars, clauses, textWeights]
  | .all [] => rfl
  | .all (first :: others) => by
      rw [chars, textWeight_append, textWeight_enclosed, textWeight_chars first,
        textWeight_conjunctChars others, clauses, clausesOf, textWeights_append]
  | .any [] => rfl
  | .any (first :: others) => by
      rw [chars, textWeight_append, textWeight_enclosed, textWeight_chars first,
        textWeight_disjunctChars others, clauses, clausesOf, textWeights_append]
  | .not operand => by
      rw [← textWeight_unnegated, unnegated, textWeight_enclosed, textWeight_chars operand, clauses]

theorem textWeight_conjunctChars : (queries : List Expression) →
    textWeight (conjunctChars queries) = textWeights (clausesOf queries)
  | [] => rfl
  | query :: queries => by
      rw [conjunctChars_cons, textWeight_blank, textWeight_append, textWeight_blank,
        textWeight_append, textWeight_conjunctWord, textWeight_unnegated, Nat.zero_add,
        textWeight_chars query, textWeight_conjunctChars queries, clausesOf, textWeights_append]

theorem textWeight_disjunctChars : (queries : List Expression) →
    textWeight (disjunctChars queries) = textWeights (clausesOf queries)
  | [] => rfl
  | query :: queries => by
      have word : textWeight "OR".toList = 0 := by decide
      rw [disjunctChars_cons, textWeight_blank, textWeight_append, textWeight_blank,
        textWeight_append, textWeight_enclosed, word, Nat.zero_add, textWeight_chars query,
        textWeight_disjunctChars queries, clausesOf, textWeights_append]

end

/-! When a query is read again -/

theorem isWritable_of_isCanonical {query : Expression} (canonical : query.IsCanonical)
    (words : ∀ leaf ∈ query.clauses, ∀ index ∈ leaf.index, IsWord index.toList) :
    query.IsWritable := by
  induction canonical with
  | @clause leaf ofLeaf =>
      have isWord := words leaf List.mem_cons_self
      refine .clause fun index hasIndex => ⟨isWord index hasIndex, ?_⟩
      cases ofLeaf with
      | ofTerm term => cases hasIndex
      | related known =>
          rintro _ ⟨⟩
          exact known
  | @all first others _ _ _ _ ihFirst ihOthers =>
      rw [clauses, clausesOf, clausesOf_eq_flatMap] at words
      refine .all (List.cons_ne_nil first others) (List.forall_mem_cons.mpr ⟨?_, ?_⟩)
      · exact ihFirst fun leaf member => words leaf (List.mem_append_left _ member)
      · intro operand inOthers
        have ofOperand := ihOthers operand inOthers fun leaf member =>
          words leaf (List.mem_append_right _ (List.mem_flatMap.mpr
            ⟨operand, inOthers, clauses_unnegated operand ▸ member⟩))
        cases operand with
        | not negated => exact .not ofOperand
        | clause leaf => exact ofOperand
        | all operands => exact ofOperand
        | any operands => exact ofOperand
  | @any operands several _ _ ih =>
      rw [clauses, clausesOf_eq_flatMap] at words
      refine .any (List.length_pos_iff.mp (by omega)) fun operand member => ?_
      exact ih operand member fun leaf inOperand =>
        words leaf (List.mem_flatMap.mpr ⟨operand, member, inOperand⟩)

theorem parse_text_of_words {query : Expression} (canonical : query.IsCanonical)
    (words : ∀ leaf ∈ query.clauses, ∀ index ∈ leaf.index, IsWord index.toList) :
    parse query.text = .ok query := by
  have whole := (isRead_of_isWritable (isWritable_of_isCanonical canonical words)).whole
  rwa [normal_of_isCanonical canonical] at whole

theorem words_of_parse_text {query : Expression} (canonical : query.IsCanonical)
    (parsed : parse query.text = .ok query) :
    ∀ leaf ∈ query.clauses, ∀ index ∈ leaf.index, IsWord index.toList := by
  intro leaf member index hasIndex
  by_contra notWord
  have ofClauses := isCanonical_of_mem_clauses canonical
  have taken : query.weight ≤ textWeights query.clauses := by
    have ofText := weight_le_of_parse parsed
    rwa [text, String.toList_ofList, textWeight_chars] at ofText
  have fewer : textWeights query.clauses < query.weight :=
    List.sum_lt_sum (fun leaf : Clause => textWeight leaf.chars) Clause.weight
      (fun other inQuery => Clause.textWeight_chars_le (ofClauses other inQuery))
      ⟨leaf, member, Clause.textWeight_chars_lt (ofClauses leaf member) hasIndex notWord⟩
  omega

end Expression

/-- A query that was read is read again from its text exactly if each index in it is a word. An
index that was written between quotes need not be one. -/
theorem parse_text_iff {text : String} {query : Expression} (parsed : parse text = .ok query) :
    parse query.text = .ok query ↔
      ∀ leaf ∈ query.clauses, ∀ index ∈ leaf.index, IsWord index.toList := by
  have canonical := isCanonical_of_parse parsed
  exact ⟨Expression.words_of_parse_text canonical, Expression.parse_text_of_words canonical⟩

theorem parse_text_titleBook : ∃ query, parse "title exact \"a (b\" NOT (x or \"or\")" = .ok query ∧
    parse query.text = .ok query := by
  have parsed : parse "title exact \"a (b\" NOT (x or \"or\")" = .ok
      (.all [.clause (.related "title" "exact" "a (b"),
        .not (.any [.ofTerm "x", .ofTerm "or"])]) := by
    decide +kernel
  exact ⟨_, parsed, (parse_text_iff parsed).mpr (by decide +kernel)⟩

theorem parse_text_quotedIndex : ¬∀ text query, parse text = .ok query →
    parse query.text = .ok query := by
  intro reads
  have parsed : parse "\"my index\"=x" = .ok (.clause (.related "my index" "=" "x")) := by
    decide +kernel
  have again := reads _ _ parsed
  revert again
  decide +kernel

end FederatedSearch
