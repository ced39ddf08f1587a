import FederatedSearch.Proofs.TokenTexts
import FederatedSearch.Query.Parser
import FederatedSearch.Store.Evaluation

/-! Canonical queries, the form in which queries are read, and the canonical query that any other
one is written as. It matches the same documents. -/

namespace FederatedSearch

def relationNames : List String :=
  relationMarks ++ relationWords

inductive Clause.IsCanonical : Clause → Prop
  | ofTerm (term : String) : IsCanonical (.ofTerm term)
  | related {index relation term : String} (known : relation ∈ relationNames) :
      IsCanonical (.related index relation term)

def Clause.normal (clause : Clause) : Clause :=
  match clause.index with
  | none => .ofTerm clause.term
  | some index => .related index clause.relationText clause.term

namespace Expression

def conjunction (queries : List Expression) : Expression :=
  (allOf queries).getD (.all [])

def disjunction (queries : List Expression) : Expression :=
  (anyOf queries).getD (.any [])

mutual

def normal : Expression → Expression
  | .clause leaf => .clause leaf.normal
  | .all [] => .all []
  | .all (first :: others) => conjunction (first.normal :: normalConjuncts others)
  | .any operands => disjunction (normalDisjuncts operands)
  | .not operand => .all [matchAll, .not operand.normal]

def normalConjuncts : List Expression → List Expression
  | [] => []
  | .not operand :: others => .not operand.normal :: normalConjuncts others
  | operand :: others => operand.normal :: normalConjuncts others

def normalDisjuncts : List Expression → List Expression
  | [] => []
  | operand :: others => operand.normal :: normalDisjuncts others

end

def isAll : Expression → Bool
  | .all _ => true
  | _ => false

def isAny : Expression → Bool
  | .any _ => true
  | _ => false

def unnegated : Expression → Expression
  | .not operand => operand
  | query => query

/-- No node has fewer than two operands or an operand of its own kind, and what is negated stands
behind another operand of an "all of". -/
inductive IsCanonical : Expression → Prop
  | clause {leaf : Clause} (canonical : leaf.IsCanonical) : IsCanonical (.clause leaf)
  | all {first : Expression} {others : List Expression} (several : others ≠ [])
      (flat : ∀ operand ∈ first :: others, operand.isAll = false) (ofFirst : IsCanonical first)
      (ofOthers : ∀ operand ∈ others, IsCanonical operand.unnegated) :
      IsCanonical (.all (first :: others))
  | any {operands : List Expression} (several : 2 ≤ operands.length)
      (flat : ∀ operand ∈ operands, operand.isAny = false)
      (each : ∀ operand ∈ operands, IsCanonical operand) : IsCanonical (.any operands)

/-! Nodes made of the operands of other nodes of their kind -/

section Joined

variable (parts : Expression → List Expression) (wrap : List Expression → Expression)

def joined (queries : List Expression) : Expression :=
  match queries.flatMap parts with
  | [] => wrap []
  | [query] => query
  | operands => wrap operands

theorem conjunction_eq (queries : List Expression) :
    conjunction queries = joined conjuncts .all queries := by
  unfold conjunction allOf joined
  match queries.flatMap conjuncts with
  | [] => rfl
  | [_] => rfl
  | _ :: _ :: _ => rfl

theorem disjunction_eq (queries : List Expression) :
    disjunction queries = joined disjuncts .any queries := by
  unfold disjunction anyOf joined
  match queries.flatMap disjuncts with
  | [] => rfl
  | [_] => rfl
  | _ :: _ :: _ => rfl

variable {parts wrap}

theorem joined_congr {queries others : List Expression}
    (same : queries.flatMap parts = others.flatMap parts) :
    joined parts wrap queries = joined parts wrap others := by
  unfold joined
  rw [same]

variable {queries : List Expression}

theorem joined_of_several (several : 2 ≤ (queries.flatMap parts).length) :
    joined parts wrap queries = wrap (queries.flatMap parts) := by
  unfold joined
  match listed : queries.flatMap parts with
  | [] => simp [listed] at several
  | [_] => simp [listed] at several
  | _ :: _ :: _ => rfl

theorem flatMap_of_flat (flat : ∀ query ∈ queries, parts query = [query]) :
    queries.flatMap parts = queries := by
  induction queries with
  | nil => rfl
  | cons query queries ih =>
      rw [List.flatMap_cons, flat query List.mem_cons_self,
        ih fun other member => flat other (List.mem_cons_of_mem query member)]
      rfl

variable (unwraps : ∀ operands, parts (wrap operands) = operands)
include unwraps

theorem parts_joined (flat : ∀ operand ∈ queries.flatMap parts, parts operand = [operand]) :
    parts (joined parts wrap queries) = queries.flatMap parts := by
  unfold joined
  match listed : queries.flatMap parts with
  | [] => exact unwraps []
  | [only] => exact flat only (by simp [listed])
  | _ :: _ :: _ => exact unwraps _

/-- Taking in one query after the other is taking in all of them at once. -/
theorem foldl_joined {others : List Expression}
    (flat : ∀ operand ∈ (queries ++ others).flatMap parts, parts operand = [operand]) :
    others.foldl (fun left right => joined parts wrap [left, right]) (joined parts wrap queries) =
      joined parts wrap (queries ++ others) := by
  induction others generalizing queries with
  | nil => simp
  | cons query others ih =>
      have flatBefore : ∀ operand ∈ queries.flatMap parts, parts operand = [operand] := by
        intro operand member
        exact flat operand (by simp [List.flatMap_append, member])
      have added : joined parts wrap [joined parts wrap queries, query] =
          joined parts wrap (queries ++ [query]) := by
        refine joined_congr ?_
        simp [parts_joined unwraps flatBefore]
      rw [List.foldl_cons, added, ih (by simpa using flat)]
      simp

end Joined

/-! Canonical queries stay canonical when they are joined -/

theorem conjuncts_of_isAll {query : Expression} (other : query.isAll = false) :
    query.conjuncts = [query] := by
  cases query with
  | all operands => cases other
  | clause leaf => rfl
  | any operands => rfl
  | not operand => rfl

theorem disjuncts_of_isAny {query : Expression} (other : query.isAny = false) :
    query.disjuncts = [query] := by
  cases query with
  | any operands => cases other
  | clause leaf => rfl
  | all operands => rfl
  | not operand => rfl

theorem conjunction_of_flat {operands : List Expression} (several : 2 ≤ operands.length)
    (flat : ∀ operand ∈ operands, operand.isAll = false) :
    conjunction operands = .all operands := by
  have parts : operands.flatMap conjuncts = operands :=
    flatMap_of_flat fun operand member => conjuncts_of_isAll (flat operand member)
  rw [conjunction_eq, joined_of_several (by rwa [parts]), parts]

theorem disjunction_of_flat {operands : List Expression} (several : 2 ≤ operands.length)
    (flat : ∀ operand ∈ operands, operand.isAny = false) :
    disjunction operands = .any operands := by
  have parts : operands.flatMap disjuncts = operands :=
    flatMap_of_flat fun operand member => disjuncts_of_isAny (flat operand member)
  rw [disjunction_eq, joined_of_several (by rwa [parts]), parts]

namespace IsCanonical

variable {query left right : Expression}

theorem unnegated_eq (canonical : IsCanonical query) : query.unnegated = query := by
  cases canonical <;> rfl

theorem conjuncts (canonical : IsCanonical query) : ∃ first others,
    query.conjuncts = first :: others ∧ IsCanonical first ∧
      (∀ operand ∈ first :: others, operand.isAll = false) ∧
      ∀ operand ∈ others, IsCanonical operand.unnegated := by
  cases canonical with
  | clause ofLeaf => exact ⟨_, [], rfl, .clause ofLeaf, by simp [isAll], by simp⟩
  | all several flat ofFirst ofOthers => exact ⟨_, _, rfl, ofFirst, flat, ofOthers⟩
  | any several flat each => exact ⟨_, [], rfl, .any several flat each, by simp [isAll], by simp⟩

theorem disjuncts (canonical : IsCanonical query) : query.disjuncts ≠ [] ∧
    ∀ operand ∈ query.disjuncts, operand.isAny = false ∧ IsCanonical operand := by
  cases canonical with
  | clause ofLeaf => simp [Expression.disjuncts, isAny, IsCanonical.clause ofLeaf]
  | all several flat ofFirst ofOthers =>
      simp [Expression.disjuncts, isAny, IsCanonical.all several flat ofFirst ofOthers]
  | @any operands several flat each =>
      have someOperand : operands ≠ [] := List.length_pos_iff.mp (by omega)
      exact ⟨someOperand, fun operand member => ⟨flat operand member, each operand member⟩⟩

/-- The operands of a query that may stand behind others in an "all of". -/
theorem conjuncts_of_unnegated (canonical : IsCanonical query.unnegated) :
    query.conjuncts ≠ [] ∧
      ∀ operand ∈ query.conjuncts, operand.isAll = false ∧ IsCanonical operand.unnegated := by
  have ofOther (same : query.unnegated = query) : query.conjuncts ≠ [] ∧
      ∀ operand ∈ query.conjuncts, operand.isAll = false ∧ IsCanonical operand.unnegated := by
    rw [same] at canonical
    obtain ⟨first, others, listed, ofFirst, flat, ofOthers⟩ := canonical.conjuncts
    rw [listed]
    refine ⟨List.cons_ne_nil first others, fun operand member => ⟨flat operand member, ?_⟩⟩
    rcases List.mem_cons.mp member with rfl | later
    · rwa [ofFirst.unnegated_eq]
    · exact ofOthers operand later
  cases query with
  | not operand => simpa [Expression.conjuncts, isAll] using canonical
  | clause leaf => exact ofOther rfl
  | all operands => exact ofOther rfl
  | any operands => exact ofOther rfl

theorem conjunction {first : Expression} {others : List Expression} (ofFirst : IsCanonical first)
    (ofOthers : ∀ operand ∈ others, IsCanonical operand.unnegated) :
    IsCanonical (conjunction (first :: others)) := by
  obtain ⟨head, tail, listed, ofHead, flat, ofTail⟩ := ofFirst.conjuncts
  have all : (first :: others).flatMap Expression.conjuncts =
      head :: (tail ++ others.flatMap Expression.conjuncts) := by
    simp [listed]
  rw [conjunction_eq]
  cases rest : tail ++ others.flatMap Expression.conjuncts with
  | nil =>
      unfold joined
      rw [all, rest]
      exact ofHead
  | cons second more =>
      rw [joined_of_several (by simp [all, rest]), all]
      refine .all (by simp [rest]) ?_ ofHead ?_
      · intro operand member
        rcases List.mem_cons.mp member with rfl | later
        · exact flat operand List.mem_cons_self
        rcases List.mem_append.mp later with inTail | inOthers
        · exact flat operand (List.mem_cons_of_mem head inTail)
        · obtain ⟨other, inList, inOther⟩ := List.mem_flatMap.mp inOthers
          exact ((conjuncts_of_unnegated (ofOthers other inList)).2 operand inOther).1
      · intro operand member
        rcases List.mem_append.mp member with inTail | inOthers
        · exact ofTail operand inTail
        · obtain ⟨other, inList, inOther⟩ := List.mem_flatMap.mp inOthers
          exact ((conjuncts_of_unnegated (ofOthers other inList)).2 operand inOther).2

theorem disjunction {queries : List Expression} (someQuery : queries ≠ [])
    (each : ∀ query ∈ queries, IsCanonical query) : IsCanonical (disjunction queries) := by
  have ofParts : ∀ operand ∈ queries.flatMap Expression.disjuncts,
      operand.isAny = false ∧ IsCanonical operand := by
    intro operand member
    obtain ⟨query, inList, inQuery⟩ := List.mem_flatMap.mp member
    exact (each query inList).disjuncts.2 operand inQuery
  rw [disjunction_eq]
  match listed : queries.flatMap Expression.disjuncts with
  | [] =>
      obtain ⟨query, inList⟩ := List.exists_mem_of_ne_nil queries someQuery
      exact absurd (List.flatMap_eq_nil_iff.mp listed query inList) (each query inList).disjuncts.1
  | [only] =>
      unfold joined
      rw [listed]
      exact (ofParts only (by simp [listed])).2
  | _ :: _ :: _ =>
      rw [joined_of_several (by simp [listed])]
      exact .any (by simp [listed]) (fun operand member => (ofParts operand member).1)
        fun operand member => (ofParts operand member).2

theorem join (ofLeft : IsCanonical left) (ofRight : IsCanonical right) (connective : Connective) :
    IsCanonical (connective.join left right) := by
  cases connective with
  | and =>
      refine conjunction ofLeft ?_
      simpa [ofRight.unnegated_eq] using ofRight
  | or =>
      refine disjunction (by simp) ?_
      simpa using ⟨ofLeft, ofRight⟩
  | not =>
      refine conjunction ofLeft ?_
      simpa [unnegated] using ofRight

end IsCanonical

theorem clauses_unnegated (query : Expression) : query.unnegated.clauses = query.clauses := by
  cases query <;> rfl

theorem isCanonical_of_mem_clauses {query : Expression} (canonical : query.IsCanonical) :
    ∀ leaf ∈ query.clauses, leaf.IsCanonical := by
  induction canonical with
  | clause ofLeaf => simpa [clauses] using ofLeaf
  | @all first others _ _ _ _ ihFirst ihOthers =>
      rw [clauses, clausesOf, clausesOf_eq_flatMap]
      intro leaf member
      rcases List.mem_append.mp member with inFirst | inOthers
      · exact ihFirst leaf inFirst
      · obtain ⟨operand, inList, inOperand⟩ := List.mem_flatMap.mp inOthers
        exact ihOthers operand inList leaf (clauses_unnegated operand ▸ inOperand)
  | @any operands _ _ _ ih =>
      rw [clauses, clausesOf_eq_flatMap]
      intro leaf member
      obtain ⟨operand, inList, inOperand⟩ := List.mem_flatMap.mp member
      exact ih operand inList leaf inOperand

/-! The canonical form of a query -/

def normalConjunct : Expression → Expression
  | .not operand => .not operand.normal
  | query => query.normal

theorem normalConjuncts_cons (query : Expression) (others : List Expression) :
    normalConjuncts (query :: others) = normalConjunct query :: normalConjuncts others := by
  cases query <;> rfl

theorem normalConjuncts_eq_map (queries : List Expression) :
    normalConjuncts queries = queries.map normalConjunct := by
  induction queries with
  | nil => rfl
  | cons query queries ih => rw [normalConjuncts_cons, ih, List.map_cons]

theorem normalDisjuncts_eq_map (queries : List Expression) :
    normalDisjuncts queries = queries.map normal := by
  induction queries with
  | nil => rfl
  | cons query queries ih => rw [normalDisjuncts, ih, List.map_cons]

theorem normalConjunct_of_unnegated {query : Expression}
    (same : query.unnegated.normal = query.unnegated) : normalConjunct query = query := by
  cases query with
  | not operand => exact congrArg Expression.not same
  | clause leaf => exact same
  | all operands => exact same
  | any operands => exact same

theorem isCanonical_normalConjunct {query : Expression} (canonical : IsCanonical query.normal) :
    IsCanonical (normalConjunct query).unnegated := by
  cases query with
  | not operand =>
      cases canonical with
      | all _ _ _ ofOthers => exact ofOthers (.not operand.normal) List.mem_cons_self
  | clause leaf => exact canonical.unnegated_eq.symm ▸ canonical
  | all operands => exact canonical.unnegated_eq.symm ▸ canonical
  | any operands => exact canonical.unnegated_eq.symm ▸ canonical

theorem normal_of_isCanonical {query : Expression} (canonical : IsCanonical query) :
    query.normal = query := by
  induction canonical with
  | clause ofLeaf => cases ofLeaf <;> rfl
  | @all first others several flat _ _ ihFirst ihOthers =>
      have sameOthers : normalConjuncts others = others := by
        rw [normalConjuncts_eq_map]
        exact (List.map_congr_left fun operand member =>
          normalConjunct_of_unnegated (ihOthers operand member)).trans (List.map_id others)
      have length : 2 ≤ (first :: others).length := by
        have someOther := List.length_pos_iff.mpr several
        rw [List.length_cons]
        omega
      rw [normal, ihFirst, sameOthers, conjunction_of_flat length flat]
  | @any operands several flat _ ih =>
      have same : normalDisjuncts operands = operands := by
        rw [normalDisjuncts_eq_map]
        exact (List.map_congr_left ih).trans (List.map_id operands)
      rw [normal, same, disjunction_of_flat several flat]

/-! What canonical forms match -/

variable (document : Document)

theorem allMatchedBy_append (first second : List Expression) :
    allMatchedBy document (first ++ second) =
      match allMatchedBy document first with
      | .ok true => allMatchedBy document second
      | other => other := by
  induction first with
  | nil => rfl
  | cons query queries ih =>
      rw [List.cons_append, allMatchedBy, allMatchedBy, ih]
      cases query.matchedBy document with
      | error error => rfl
      | ok matched => cases matched <;> rfl

theorem anyMatchedBy_append (first second : List Expression) :
    anyMatchedBy document (first ++ second) =
      match anyMatchedBy document first with
      | .ok false => anyMatchedBy document second
      | other => other := by
  induction first with
  | nil => rfl
  | cons query queries ih =>
      rw [List.cons_append, anyMatchedBy, anyMatchedBy, ih]
      cases query.matchedBy document with
      | error error => rfl
      | ok matched => cases matched <;> rfl

theorem allMatchedBy_singleton (query : Expression) :
    allMatchedBy document [query] = query.matchedBy document := by
  rw [allMatchedBy]
  cases query.matchedBy document with
  | error error => rfl
  | ok matched => cases matched <;> rfl

theorem anyMatchedBy_singleton (query : Expression) :
    anyMatchedBy document [query] = query.matchedBy document := by
  rw [anyMatchedBy]
  cases query.matchedBy document with
  | error error => rfl
  | ok matched => cases matched <;> rfl

theorem allMatchedBy_conjuncts (queries : List Expression) :
    allMatchedBy document (queries.flatMap conjuncts) = allMatchedBy document queries := by
  induction queries with
  | nil => rfl
  | cons query queries ih =>
      have ofQuery : allMatchedBy document query.conjuncts = query.matchedBy document := by
        cases query with
        | all operands => rfl
        | clause leaf => exact allMatchedBy_singleton document _
        | any operands => exact allMatchedBy_singleton document _
        | not operand => exact allMatchedBy_singleton document _
      rw [List.flatMap_cons, allMatchedBy_append, ofQuery, ih, allMatchedBy]
      cases query.matchedBy document with
      | error error => rfl
      | ok matched => cases matched <;> rfl

theorem anyMatchedBy_disjuncts (queries : List Expression) :
    anyMatchedBy document (queries.flatMap disjuncts) = anyMatchedBy document queries := by
  induction queries with
  | nil => rfl
  | cons query queries ih =>
      have ofQuery : anyMatchedBy document query.disjuncts = query.matchedBy document := by
        cases query with
        | any operands => rfl
        | clause leaf => exact anyMatchedBy_singleton document _
        | all operands => exact anyMatchedBy_singleton document _
        | not operand => exact anyMatchedBy_singleton document _
      rw [List.flatMap_cons, anyMatchedBy_append, ofQuery, ih, anyMatchedBy]
      cases query.matchedBy document with
      | error error => rfl
      | ok matched => cases matched <;> rfl

theorem matchedBy_conjunction (queries : List Expression) :
    (conjunction queries).matchedBy document = allMatchedBy document queries := by
  rw [conjunction_eq, ← allMatchedBy_conjuncts]
  unfold joined
  match queries.flatMap conjuncts with
  | [] => rfl
  | [query] => exact (allMatchedBy_singleton document query).symm
  | _ :: _ :: _ => rfl

theorem matchedBy_disjunction (queries : List Expression) :
    (disjunction queries).matchedBy document = anyMatchedBy document queries := by
  rw [disjunction_eq, ← anyMatchedBy_disjuncts]
  unfold joined
  match queries.flatMap disjuncts with
  | [] => rfl
  | [query] => exact (anyMatchedBy_singleton document query).symm
  | _ :: _ :: _ => rfl

/-- A query that stands under "not" is taken away from all documents, or from those that what
stands before it matches. -/
theorem matchedBy_normalConjunct (query : Expression) :
    (normalConjunct query).matchedBy document = query.normal.matchedBy document := by
  cases query with
  | not operand => exact (allMatchedBy_singleton document (.not operand.normal)).symm
  | clause leaf => rfl
  | all operands => rfl
  | any operands => rfl

end Expression

theorem Clause.matchedBy_normal (clause : Clause) (document : Document) :
    clause.normal.matchedBy document = clause.matchedBy document := by
  obtain ⟨index, relation, term⟩ := clause
  cases index with
  | none => rfl
  | some index => cases relation <;> rfl

namespace Expression

mutual

theorem matchedBy_normal (document : Document) : (query : Expression) →
    query.normal.matchedBy document = query.matchedBy document
  | .clause leaf => leaf.matchedBy_normal document
  | .all [] => rfl
  | .all (first :: others) => by
      rw [normal, matchedBy_conjunction, allMatchedBy, matchedBy_normal document first,
        allMatchedBy_normal document others, matchedBy, allMatchedBy]
  | .any operands => by
      rw [normal, matchedBy_disjunction, anyMatchedBy_normal document operands, matchedBy]
  | .not operand => by
      rw [← matchedBy_normalConjunct, normalConjunct, matchedBy, matchedBy,
        matchedBy_normal document operand]

theorem allMatchedBy_normal (document : Document) : (queries : List Expression) →
    allMatchedBy document (normalConjuncts queries) = allMatchedBy document queries
  | [] => rfl
  | query :: queries => by
      rw [normalConjuncts_cons, allMatchedBy, allMatchedBy, matchedBy_normalConjunct,
        matchedBy_normal document query, allMatchedBy_normal document queries]

theorem anyMatchedBy_normal (document : Document) : (queries : List Expression) →
    anyMatchedBy document (normalDisjuncts queries) = anyMatchedBy document queries
  | [] => rfl
  | query :: queries => by
      rw [normalDisjuncts, anyMatchedBy, anyMatchedBy, matchedBy_normal document query,
        anyMatchedBy_normal document queries]

end

end Expression

end FederatedSearch
