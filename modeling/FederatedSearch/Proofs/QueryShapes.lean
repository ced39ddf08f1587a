import FederatedSearch.Proofs.ParsedQueries
import FederatedSearch.Proofs.WrittenQueries

/-! The shape of the queries that are read from texts, told node by node. All that are read have it,
and all that have it are read: from a text in which the indexes stand between quotes. -/

namespace FederatedSearch

def Clause.IsRegular (leaf : Clause) : Prop :=
  leaf.index.isSome = leaf.relation.isSome ∧ ∀ relation ∈ leaf.relation,
    relation ∈ ["=", "==", "exact", "<>", "<", ">", "<=", ">=", "any", "all", "adj"]

theorem mem_relationNames_iff {relation : String} : relation ∈ relationNames ↔
    relation ∈ ["=", "==", "exact", "<>", "<", ">", "<=", ">=", "any", "all", "adj"] := by
  have same : relationNames.Perm
      ["=", "==", "exact", "<>", "<", ">", "<=", ">=", "any", "all", "adj"] := by
    decide
  exact same.mem_iff

theorem Clause.isCanonical_iff {leaf : Clause} : leaf.IsCanonical ↔ leaf.IsRegular := by
  constructor
  · intro canonical
    cases canonical with
    | ofTerm term => exact ⟨rfl, by rintro _ ⟨⟩⟩
    | related known =>
        refine ⟨rfl, ?_⟩
        rintro _ ⟨⟩
        exact mem_relationNames_iff.mp known
  · obtain ⟨index, relation, term⟩ := leaf
    rintro ⟨both, known⟩
    cases index with
    | none =>
        cases relation with
        | none => exact .ofTerm term
        | some relation => cases both
    | some index =>
        cases relation with
        | none => cases both
        | some relation => exact .related (mem_relationNames_iff.mpr (known relation rfl))

namespace Expression

/-! Nodes -/

mutual

def nodes : Expression → List Expression
  | .clause leaf => [.clause leaf]
  | .all operands => .all operands :: nodesOf operands
  | .any operands => .any operands :: nodesOf operands
  | .not operand => .not operand :: operand.nodes

def nodesOf : List Expression → List Expression
  | [] => []
  | query :: queries => query.nodes ++ nodesOf queries

end

theorem nodesOf_eq_flatMap (queries : List Expression) :
    nodesOf queries = queries.flatMap nodes := by
  induction queries with
  | nil => rfl
  | cons query queries ih => simp [nodesOf, ih]

def isNot : Expression → Bool
  | .not _ => true
  | _ => false

theorem unnegated_of_isNot {query : Expression} (positive : query.isNot = false) :
    query.unnegated = query := by
  cases query with
  | not operand => cases positive
  | clause leaf => rfl
  | all operands => rfl
  | any operands => rfl

def IsRegular : Expression → Prop
  | .clause leaf => leaf.IsRegular
  | .all operands => 2 ≤ operands.length ∧ (∀ operand ∈ operands, operand.isAll = false) ∧
      ∀ first ∈ operands.head?, first.isNot = false
  | .any operands => 2 ≤ operands.length ∧
      ∀ operand ∈ operands, operand.isAny = false ∧ operand.isNot = false
  | .not operand => operand.isNot = false

def AllRegular (query : Expression) : Prop :=
  ∀ node ∈ query.nodes, node.IsRegular

namespace IsCanonical

variable {query : Expression}

theorem isNot_eq_false (canonical : query.IsCanonical) : query.isNot = false := by
  cases canonical <;> rfl

theorem allRegular_of_unnegated (canonical : query.unnegated.IsCanonical)
    (regular : query.unnegated.AllRegular) : query.AllRegular := by
  cases query with
  | not operand => exact List.forall_mem_cons.mpr ⟨canonical.isNot_eq_false, regular⟩
  | clause leaf => exact regular
  | all operands => exact regular
  | any operands => exact regular

theorem allRegular (canonical : query.IsCanonical) : query.AllRegular := by
  induction canonical with
  | clause ofLeaf => exact List.forall_mem_singleton.mpr (Clause.isCanonical_iff.mp ofLeaf)
  | @all first others several flat ofFirst ofOthers ihFirst ihOthers =>
      refine List.forall_mem_cons.mpr ⟨⟨?_, flat, ?_⟩, ?_⟩
      · have someOther := List.length_pos_iff.mpr several
        rw [List.length_cons]
        omega
      · rintro _ ⟨⟩
        exact ofFirst.isNot_eq_false
      · rw [nodesOf_eq_flatMap, List.flatMap_cons, List.forall_mem_append]
        refine ⟨ihFirst, fun node member => ?_⟩
        obtain ⟨operand, inOthers, inOperand⟩ := List.mem_flatMap.mp member
        exact allRegular_of_unnegated (ofOthers operand inOthers) (ihOthers operand inOthers)
          node inOperand
  | @any operands several flat each ih =>
      refine List.forall_mem_cons.mpr ⟨⟨several, fun operand member => ?_⟩, ?_⟩
      · exact ⟨flat operand member, (each operand member).isNot_eq_false⟩
      · rw [nodesOf_eq_flatMap]
        intro node member
        obtain ⟨operand, inList, inOperand⟩ := List.mem_flatMap.mp member
        exact ih operand inList node inOperand

end IsCanonical

mutual

theorem isCanonical_of_allRegular : (query : Expression) → query.AllRegular →
    query.unnegated.IsCanonical
  | .clause leaf, regular => by
      have ofLeaf : leaf.IsRegular := regular _ List.mem_cons_self
      exact .clause (Clause.isCanonical_iff.mpr ofLeaf)
  | .all operands, regular => by
      obtain ⟨⟨several, flat, positive⟩, below⟩ := List.forall_mem_cons.mp regular
      have canonical := isCanonical_of_regularOf operands below
      match operands with
      | first :: second :: others =>
          obtain ⟨ofFirst, ofOthers⟩ := List.forall_mem_cons.mp canonical
          rw [unnegated_of_isNot (positive first rfl)] at ofFirst
          exact .all (List.cons_ne_nil second others) flat ofFirst ofOthers
  | .any operands, regular => by
      obtain ⟨⟨several, each⟩, below⟩ := List.forall_mem_cons.mp regular
      have canonical := isCanonical_of_regularOf operands below
      refine .any several (fun operand member => (each operand member).1) fun operand member => ?_
      rw [← unnegated_of_isNot (each operand member).2]
      exact canonical operand member
  | .not operand, regular => by
      obtain ⟨positive, below⟩ := List.forall_mem_cons.mp regular
      have canonical := isCanonical_of_allRegular operand below
      rwa [unnegated_of_isNot positive] at canonical

theorem isCanonical_of_regularOf : (queries : List Expression) →
    (∀ node ∈ nodesOf queries, node.IsRegular) → ∀ query ∈ queries, query.unnegated.IsCanonical
  | [], _ => List.forall_mem_nil _
  | query :: queries, regular => by
      obtain ⟨ofQuery, ofOthers⟩ := List.forall_mem_append.mp regular
      exact List.forall_mem_cons.mpr ⟨isCanonical_of_allRegular query ofQuery,
        isCanonical_of_regularOf queries ofOthers⟩

end

theorem isCanonical_iff {query : Expression} :
    query.IsCanonical ↔ query.isNot = false ∧ query.AllRegular := by
  constructor
  · intro canonical
    exact ⟨canonical.isNot_eq_false, canonical.allRegular⟩
  · rintro ⟨positive, regular⟩
    rw [← unnegated_of_isNot positive]
    exact isCanonical_of_allRegular query regular

end Expression

/-! Texts -/

theorem tokens?_relation {relation : String} (known : relation ∈ relationNames) {token : Token}
    (isTerm : Position.isTerm token = true) (rest : List Char) :
    ∃ relating : Token, Position.relation? relating (some token) = some relation ∧
      tokens? (relation.toList ++ ' ' :: rest) = (tokens? rest).map (relating :: ·) := by
  have blank : isBlank ' ' = true := by decide
  rcases List.mem_append.mp known with isMarks | isRelationWord
  · have apart : ∀ c ∈ (' ' :: rest).head?, c ≠ '=' ∧ c ≠ '>' := by
      rintro _ ⟨⟩
      decide
    exact ⟨.relation relation, rfl, by rw [tokens?_marks isMarks apart, tokens?_blank blank]⟩
  · obtain ⟨isWord, named, -⟩ := isWord_of_relationWord isRelationWord
    have ended : ∀ c ∈ (' ' :: rest).head?, endsWord c = true := by
      rintro _ ⟨⟩
      decide
    refine ⟨.word relation, by simp [Position.relation?, isTerm, named], ?_⟩
    rw [tokens?_word isWord ended, tokens?_blank blank, String.ofList_toList]

/-- A clause with its index between quotes, where any text can stand. -/
theorem exists_isOperand_related {index relation : String} (known : relation ∈ relationNames)
    (term : String) : ∃ text, IsOperand text (.clause (.related index relation term)) := by
  obtain ⟨second, holds, found, -⟩ := tokens?_termChars term
  have isTerm : Position.isTerm second = true := by
    rcases holds with rfl | rfl <;> rfl
  obtain ⟨relating, relates, related⟩ := tokens?_relation known isTerm (termChars term.toList)
  refine ⟨'"' :: index.toList.flatMap quotedChar ++
    '"' :: ' ' :: (relation.toList ++ ' ' :: termChars term.toList), ?_⟩
  refine isOperand_of_tokens (.inr rfl) relates holds ?_
  rw [tokens?_quoted, tokens?_blank (by decide), related, found, String.ofList_toList]
  rfl

namespace Expression

theorem exists_isTail_disjuncts {operands : List Expression}
    (each : ∀ operand ∈ operands, ∃ text, IsOperand text operand) :
    ∃ text, IsTail text (operands.foldl either ·) := by
  induction operands with
  | nil => exact ⟨[], isTail_nil⟩
  | cons operand others ih =>
      obtain ⟨⟨text, ofOperand⟩, ofOthers⟩ := List.forall_mem_cons.mp each
      obtain ⟨more, tail⟩ := ih ofOthers
      have named : Connective.ofWord? "OR" = some .or := by decide
      exact ⟨_, isTail_cons named ofOperand tail⟩

theorem join_unnegated (operand left : Expression) :
    operand.conjunctConnective.join left operand.unnegated = left.both operand := by
  cases operand <;> rfl

theorem exists_isTail_conjuncts {operands : List Expression}
    (each : ∀ operand ∈ operands, ∃ text, IsOperand text operand.unnegated) :
    ∃ text, IsTail text (operands.foldl both ·) := by
  induction operands with
  | nil => exact ⟨[], isTail_nil⟩
  | cons operand others ih =>
      obtain ⟨⟨text, ofOperand⟩, ofOthers⟩ := List.forall_mem_cons.mp each
      obtain ⟨more, tail⟩ := ih ofOthers
      have longer := isTail_cons (ofWord?_conjunctWord operand) ofOperand tail
      simp only [join_unnegated] at longer
      exact ⟨_, longer⟩

theorem exists_isOperand {query : Expression} (canonical : query.IsCanonical) :
    ∃ text, IsOperand text query := by
  induction canonical with
  | @clause leaf ofLeaf =>
      cases ofLeaf with
      | ofTerm term => exact ⟨_, isOperand_ofTerm term⟩
      | related known => exact exists_isOperand_related known _
  | @all first others several flat ofFirst ofOthers ihFirst ihOthers =>
      obtain ⟨text, operand⟩ := ihFirst
      obtain ⟨more, tail⟩ := exists_isTail_conjuncts ihOthers
      have whole := parse_of_parts operand tail
      have length : 2 ≤ (first :: others).length := by
        have someOther := List.length_pos_iff.mpr several
        rw [List.length_cons]
        omega
      rw [foldl_both ofFirst ofOthers, conjunction_of_flat length flat] at whole
      exact ⟨_, isOperand_group whole⟩
  | @any operands several flat each ih =>
      match operands with
      | first :: second :: others =>
          obtain ⟨⟨text, operand⟩, ihOthers⟩ := List.forall_mem_cons.mp ih
          obtain ⟨more, tail⟩ := exists_isTail_disjuncts ihOthers
          have whole := parse_of_parts operand tail
          rw [foldl_either each, disjunction_of_flat several flat] at whole
          exact ⟨_, isOperand_group whole⟩

end Expression

/-- The queries that are read from texts are those that are no negation and in which each node has
under it what it may: an "all of" or "any of" two operands or more and none of its own kind, a "not"
none, and a "not" stands behind another operand of an "all of". -/
theorem exists_parse_iff (query : Expression) : (∃ text, parse text = .ok query) ↔
    query.isNot = false ∧ ∀ node ∈ query.nodes, node.IsRegular := by
  constructor
  · rintro ⟨text, parsed⟩
    exact Expression.isCanonical_iff.mp (isCanonical_of_parse parsed)
  · rintro ⟨positive, regular⟩
    have canonical := Expression.isCanonical_iff.mpr ⟨positive, regular⟩
    obtain ⟨text, operand⟩ := Expression.exists_isOperand canonical
    exact ⟨_, parse_of_parts operand isTail_nil⟩

end FederatedSearch
