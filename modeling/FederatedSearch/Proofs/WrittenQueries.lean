import FederatedSearch.Proofs.CanonicalQueries
import FederatedSearch.Proofs.OperandReading

/-! A written query is read again in its canonical form. -/

namespace FederatedSearch

def Clause.IsWritable (clause : Clause) : Prop :=
  ∀ index ∈ clause.index, IsWord index.toList ∧
    ∀ relation ∈ clause.relation, relation ∈ relationNames

/-! Clauses -/

theorem equals_mem_relationNames : "=" ∈ relationNames := by
  decide

theorem endsWord_head_relation {relation : String} (isMarks : relation ∈ relationMarks)
    (rest : List Char) : ∀ c ∈ (relation.toList ++ rest).head?, endsWord c = true := by
  simp only [relationMarks, List.mem_cons, List.not_mem_nil, or_false] at isMarks
  rcases isMarks with rfl | rfl | rfl | rfl | rfl | rfl | rfl <;> simp <;> decide

theorem isWord_of_relationWord {relation : String} (isWord : relation ∈ relationWords) :
    IsWord relation.toList ∧ relationOfWord? relation = some relation ∧
      relation.toList.all isAlphabetic = true := by
  revert relation
  decide

theorem not_alphabetic_of_relationMarks {relation : String} (isMarks : relation ∈ relationMarks) :
    relation.toList.all isAlphabetic = false := by
  revert relation
  decide

theorem not_mark_of_not_endsWord {c : Char} (dark : endsWord c = false) : c ≠ '=' ∧ c ≠ '>' := by
  constructor
  · rintro rfl
    revert dark
    decide
  · rintro rfl
    revert dark
    decide

theorem tokens?_termChars (term : String) : ∃ token : Token, token.Holds term ∧
    tokens? (termChars term.toList) = some [token] ∧
      ∀ c ∈ (termChars term.toList).head?, c ≠ '=' ∧ c ≠ '>' := by
  unfold termChars
  split
  next quoted =>
    refine ⟨.quoted term, Or.inr rfl, ?_, ?_⟩
    · rw [tokens?_quoted, tokens?_nil, String.ofList_toList]
      rfl
    · simp
  next plain =>
    have isWord : IsWord term.toList := by
      simpa [IsWord] using plain
    refine ⟨.word term, Or.inl rfl, ?_, ?_⟩
    · have alone := @tokens?_word term.toList [] isWord (by simp)
      rw [List.append_nil, tokens?_nil, String.ofList_toList] at alone
      exact alone
    · intro c first
      exact not_mark_of_not_endsWord (isWord.2 c (List.mem_of_mem_head? first))

theorem tokens?_related {index relation : String} (isWord : IsWord index.toList)
    (known : relation ∈ relationNames) (term : String) :
    ∃ relating token : Token, token.Holds term ∧
      Position.relation? relating (some token) = some relation ∧
      tokens? (Clause.related index relation term).chars =
        some [.word index, relating, token] := by
  obtain ⟨token, holds, found, apart⟩ := tokens?_termChars term
  have isTerm : Position.isTerm token = true := by
    rcases holds with rfl | rfl <;> rfl
  have written : (Clause.related index relation term).chars =
      if relation.toList.all isAlphabetic then
        index.toList ++ ' ' :: (relation.toList ++ ' ' :: termChars term.toList)
      else index.toList ++ (relation.toList ++ termChars term.toList) := by
    simp [Clause.chars, Clause.related, Clause.relationText]
  have blank : isBlank ' ' = true := by decide
  have endsAtBlank : endsWord ' ' = true := by decide
  rw [written]
  rcases List.mem_append.mp known with isMarks | isRelationWord
  · refine ⟨.relation relation, token, holds, rfl, ?_⟩
    rw [not_alphabetic_of_relationMarks isMarks, if_neg Bool.false_ne_true,
      tokens?_word isWord (endsWord_head_relation isMarks _), tokens?_marks isMarks apart, found,
      String.ofList_toList]
    rfl
  · obtain ⟨relationIsWord, named, alphabetic⟩ := isWord_of_relationWord isRelationWord
    refine ⟨.word relation, token, holds, ?_, ?_⟩
    · simp [Position.relation?, isTerm, named]
    · rw [alphabetic, if_pos rfl, tokens?_word isWord (by simpa using endsAtBlank),
        tokens?_blank blank, tokens?_word relationIsWord (by simpa using endsAtBlank),
        tokens?_blank blank, found, String.ofList_toList, String.ofList_toList]
      rfl

theorem isOperand_ofTerm (term : String) :
    IsOperand (Clause.ofTerm term).chars (.clause (.ofTerm term)) := by
  obtain ⟨token, holds, found, _⟩ := tokens?_termChars term
  refine ⟨[token], found, by simp, ?_⟩
  intro pending outer rest ends
  rw [List.singleton_append, Position.readTokens_step (.first holds),
    Position.readTokens_term ends]
  rfl

theorem isOperand_of_tokens {text : List Char} {first relating second : Token}
    {index relation term : String} (ofIndex : first.Holds index)
    (relates : Position.relation? relating (some second) = some relation)
    (ofTerm : second.Holds term) (found : tokens? text = some [first, relating, second]) :
    IsOperand text (.clause (.related index relation term)) := by
  refine ⟨_, found, by simp, ?_⟩
  intro pending outer rest ends
  calc (Position.operand pending outer).readTokens (first :: relating :: second :: rest)
      = (Position.term index pending outer).readTokens (relating :: second :: rest) :=
        Position.readTokens_step (.first ofIndex)
    _ = (Position.relation index relation pending outer).readTokens (second :: rest) :=
        Position.readTokens_step (.relation relates)
    _ = _ := Position.readTokens_step (.second ofTerm)

theorem isOperand_related {index relation : String} (isWord : IsWord index.toList)
    (known : relation ∈ relationNames) (term : String) :
    IsOperand (Clause.related index relation term).chars
      (.clause (.related index relation term)) := by
  obtain ⟨relating, token, holds, relates, found⟩ := tokens?_related isWord known term
  exact isOperand_of_tokens (Or.inl rfl) relates holds found

theorem isOperand_clause {leaf : Clause} (writable : leaf.IsWritable) :
    IsOperand leaf.chars (.clause leaf.normal) := by
  obtain ⟨index, relation, term⟩ := leaf
  cases index with
  | none => exact isOperand_ofTerm term
  | some index =>
      obtain ⟨isWord, known⟩ := writable index rfl
      cases relation with
      | none => exact isOperand_related isWord equals_mem_relationNames term
      | some relation => exact isOperand_related isWord (known relation rfl) term

/-! Queries -/

namespace Expression

inductive IsWritable : Expression → Prop
  | clause {leaf : Clause} (writable : leaf.IsWritable) : IsWritable (.clause leaf)
  | all {operands : List Expression} (someOperand : operands ≠ [])
      (each : ∀ operand ∈ operands, IsWritable operand) : IsWritable (.all operands)
  | any {operands : List Expression} (someOperand : operands ≠ [])
      (each : ∀ operand ∈ operands, IsWritable operand) : IsWritable (.any operands)
  | not {operand : Expression} (writable : IsWritable operand) : IsWritable (.not operand)

theorem isCanonical_normal {query : Expression} (writable : query.IsWritable) :
    IsCanonical query.normal := by
  induction writable with
  | @clause leaf writable =>
      obtain ⟨index, relation, term⟩ := leaf
      cases index with
      | none => exact .clause (.ofTerm term)
      | some index =>
          have known := (writable index rfl).2
          cases relation with
          | none => exact .clause (.related equals_mem_relationNames)
          | some relation => exact .clause (.related (known relation rfl))
  | @all operands someOperand _ ih =>
      cases operands with
      | nil => exact absurd rfl someOperand
      | cons first others =>
          rw [normal]
          refine .conjunction (ih first List.mem_cons_self) ?_
          rw [normalConjuncts_eq_map, List.forall_mem_map]
          exact fun operand member =>
            isCanonical_normalConjunct (ih operand (List.mem_cons_of_mem first member))
  | any someOperand _ ih =>
      rw [normal]
      refine .disjunction ?_ ?_
      · simpa [normalDisjuncts_eq_map] using someOperand
      · rw [normalDisjuncts_eq_map, List.forall_mem_map]
        exact ih
  | not _ ih =>
      refine .all (by simp) (by simp [isAll, matchAll]) (.clause (.ofTerm _)) ?_
      simpa [unnegated] using ih

theorem conjunction_singleton {query : Expression} (canonical : IsCanonical query) :
    conjunction [query] = query := by
  cases canonical with
  | clause _ => rfl
  | any _ _ _ => rfl
  | @all first others several flat _ _ =>
      cases others with
      | nil => exact absurd rfl several
      | cons second more => simp [conjunction_eq, joined, conjuncts]

theorem disjunction_singleton {query : Expression} (canonical : IsCanonical query) :
    disjunction [query] = query := by
  cases canonical with
  | clause _ => rfl
  | all _ _ _ _ => rfl
  | @any operands several flat _ =>
      match operands, several with
      | _ :: _ :: _, _ => simp [disjunction_eq, joined, disjuncts]

/-- What stands behind the first operand of an "all of" takes it in. -/
theorem foldl_both {first : Expression} {others : List Expression} (ofFirst : IsCanonical first)
    (ofOthers : ∀ operand ∈ others, IsCanonical operand.unnegated) :
    others.foldl both first = conjunction (first :: others) := by
  have flat : ∀ operand ∈ ([first] ++ others).flatMap conjuncts,
      operand.conjuncts = [operand] := by
    intro operand member
    obtain ⟨query, inList, inQuery⟩ := List.mem_flatMap.mp member
    refine conjuncts_of_isAll ?_
    rcases List.mem_cons.mp inList with rfl | later
    · have unnegated := ofFirst.unnegated_eq.symm ▸ ofFirst
      exact (unnegated.conjuncts_of_unnegated.2 operand inQuery).1
    · exact ((ofOthers query later).conjuncts_of_unnegated.2 operand inQuery).1
  have folded := @foldl_joined conjuncts .all [first] (fun _ => rfl) others flat
  simp only [← conjunction_eq] at folded
  rw [conjunction_singleton ofFirst] at folded
  exact folded

theorem foldl_either {first : Expression} {others : List Expression}
    (each : ∀ operand ∈ first :: others, IsCanonical operand) :
    others.foldl either first = disjunction (first :: others) := by
  have flat : ∀ operand ∈ ([first] ++ others).flatMap disjuncts,
      operand.disjuncts = [operand] := by
    intro operand member
    obtain ⟨query, inList, inQuery⟩ := List.mem_flatMap.mp member
    exact disjuncts_of_isAny ((each query inList).disjuncts.2 operand inQuery).1
  have folded := @foldl_joined disjuncts .any [first] (fun _ => rfl) others flat
  simp only [← disjunction_eq] at folded
  rw [disjunction_singleton (each first List.mem_cons_self)] at folded
  exact folded

structure IsRead (query : Expression) : Prop where
  whole : parse (String.ofList query.chars) = .ok query.normal
  operand : IsOperand (query.enclosed query.chars) query.normal
  unnegated : IsOperand (query.unnegated.enclosed query.unnegated.chars) query.unnegated.normal

def conjunctWord : Expression → String
  | .not _ => "NOT"
  | _ => "AND"

def conjunctConnective : Expression → Connective
  | .not _ => .not
  | _ => .and

theorem ofWord?_not : Connective.ofWord? "NOT" = some .not := by
  decide

theorem ofWord?_conjunctWord (query : Expression) :
    Connective.ofWord? query.conjunctWord = some query.conjunctConnective := by
  have named : Connective.ofWord? "AND" = some .and := by decide
  cases query with
  | not operand => exact ofWord?_not
  | clause leaf => exact named
  | all operands => exact named
  | any operands => exact named

theorem join_conjunctConnective (query left : Expression) :
    query.conjunctConnective.join left query.unnegated.normal =
      left.both (normalConjunct query) := by
  cases query <;> rfl

theorem conjunctChars_cons (query : Expression) (others : List Expression) :
    conjunctChars (query :: others) = ' ' :: (query.conjunctWord.toList ++
      ' ' :: (query.unnegated.enclosed query.unnegated.chars ++ conjunctChars others)) := by
  cases query <;> simp [conjunctChars, conjunctWord, unnegated]

theorem disjunctChars_cons (query : Expression) (others : List Expression) :
    disjunctChars (query :: others) =
      ' ' :: ("OR".toList ++ ' ' :: (query.enclosed query.chars ++ disjunctChars others)) := by
  simp [disjunctChars]

theorem isTail_conjuncts {queries : List Expression} (read : ∀ query ∈ queries, query.IsRead) :
    IsTail (conjunctChars queries) ((normalConjuncts queries).foldl both ·) := by
  induction queries with
  | nil => exact isTail_nil
  | cons query queries ih =>
      obtain ⟨ofQuery, ofOthers⟩ := List.forall_mem_cons.mp read
      have tail := isTail_cons (ofWord?_conjunctWord query) ofQuery.unnegated (ih ofOthers)
      rw [conjunctChars_cons, normalConjuncts_cons]
      simpa only [join_conjunctConnective, List.foldl_cons] using tail

theorem isTail_disjuncts {queries : List Expression} (read : ∀ query ∈ queries, query.IsRead) :
    IsTail (disjunctChars queries) ((normalDisjuncts queries).foldl either ·) := by
  induction queries with
  | nil => exact isTail_nil
  | cons query queries ih =>
      obtain ⟨ofQuery, ofOthers⟩ := List.forall_mem_cons.mp read
      have named : Connective.ofWord? "OR" = some .or := by decide
      have tail := isTail_cons named ofQuery.operand (ih ofOthers)
      rw [disjunctChars_cons, normalDisjuncts]
      simpa only [Connective.join, List.foldl_cons] using tail

/-- A query that is no clause stands in parentheses wherever it is an operand. -/
theorem isRead_of_whole {query : Expression} (enclosed : query.enclosed = fun written =>
      '(' :: written ++ [')']) (positive : query.unnegated = query)
    (whole : parse (String.ofList query.chars) = .ok query.normal) : query.IsRead := by
  have operand : IsOperand (query.enclosed query.chars) query.normal := by
    rw [enclosed]
    exact isOperand_group whole
  exact ⟨whole, operand, by rwa [positive]⟩

theorem isRead_of_isWritable {query : Expression} (writable : query.IsWritable) :
    query.IsRead := by
  induction writable with
  | clause writable =>
      have operand := isOperand_clause writable
      have whole := parse_of_parts operand isTail_nil
      rw [List.append_nil] at whole
      exact ⟨whole, operand, operand⟩
  | @all operands someOperand each ih =>
      cases operands with
      | nil => exact absurd rfl someOperand
      | cons first others =>
          obtain ⟨readFirst, readOthers⟩ := List.forall_mem_cons.mp ih
          obtain ⟨ofFirst, ofOthers⟩ := List.forall_mem_cons.mp each
          have canonicalOthers : ∀ operand ∈ normalConjuncts others,
              IsCanonical operand.unnegated := by
            rw [normalConjuncts_eq_map, List.forall_mem_map]
            exact fun operand member =>
              isCanonical_normalConjunct (isCanonical_normal (ofOthers operand member))
          have whole := parse_of_parts readFirst.operand (isTail_conjuncts readOthers)
          rw [foldl_both (isCanonical_normal ofFirst) canonicalOthers] at whole
          exact isRead_of_whole rfl rfl whole
  | @any operands someOperand each ih =>
      cases operands with
      | nil => exact absurd rfl someOperand
      | cons first others =>
          obtain ⟨readFirst, readOthers⟩ := List.forall_mem_cons.mp ih
          have canonical : ∀ operand ∈ first.normal :: normalDisjuncts others,
              IsCanonical operand := by
            rw [normalDisjuncts_eq_map, ← List.map_cons, List.forall_mem_map]
            exact fun operand member => isCanonical_normal (each operand member)
          have whole := parse_of_parts readFirst.operand (isTail_disjuncts readOthers)
          rw [foldl_either canonical] at whole
          exact isRead_of_whole rfl rfl whole
  | @not operand _ ih =>
      have tail := isTail_cons ofWord?_not ih.operand isTail_nil
      have whole := parse_of_parts (isOperand_ofTerm anyTerm) tail
      have written : (Expression.not operand).chars = (Clause.ofTerm anyTerm).chars ++
          ' ' :: ("NOT".toList ++ ' ' :: (operand.enclosed operand.chars ++ [])) := by
        have star : (Clause.ofTerm anyTerm).chars = anyTerm.toList := by decide
        rw [star]
        simp [chars]
      rw [← written] at whole
      have enclosed := isOperand_group whole
      exact ⟨whole, enclosed, ih.operand⟩

end Expression

/-- The text of a query is read as its canonical form, which matches the same documents. -/
theorem parse_text_eq_normal {query : Expression} (writable : query.IsWritable) :
    parse query.text = .ok query.normal ∧
      ∀ document, query.normal.matchedBy document = query.matchedBy document :=
  ⟨(Expression.isRead_of_isWritable writable).whole,
    fun document => Expression.matchedBy_normal document query⟩

def crampedQuery : Expression :=
  .all [.not (.ofTerm "and"), .any [.clause ⟨some "title", none, "x \"y"⟩],
    .not (.all [.not (.ofTerm ""), .clause ⟨none, some "<", "all"⟩])]

theorem parse_text_crampedQuery :
    crampedQuery.text = "(* NOT and) AND (title=\"x \\\"y\") NOT ((* NOT \"\") AND all)" ∧
    crampedQuery.normal = .all [.matchAll, .not (.ofTerm "and"),
      .clause (.related "title" "=" "x \"y"),
      .not (.all [.matchAll, .not (.ofTerm ""), .ofTerm "all"])] ∧
    parse crampedQuery.text = .ok crampedQuery.normal := by
  have term (text : String) : (Expression.ofTerm text).IsWritable := .clause (by rintro _ ⟨⟩)
  have title : Expression.IsWritable (.clause ⟨some "title", none, "x \"y"⟩) := by
    refine .clause ?_
    rintro _ ⟨⟩
    exact ⟨by decide, by simp⟩
  have anywhere : Expression.IsWritable (.clause ⟨none, some "<", "all"⟩) :=
    .clause (by rintro _ ⟨⟩)
  have writable : crampedQuery.IsWritable := by
    refine .all (by simp) ?_
    simp only [List.forall_mem_cons]
    refine ⟨.not (term "and"), .any (by simp) (by simpa using title), ?_, by simp⟩
    exact .not (.all (by simp) (by simpa using ⟨.not (term ""), anywhere⟩))
  exact ⟨by decide +kernel, by decide +kernel, (parse_text_eq_normal writable).1⟩

end FederatedSearch
