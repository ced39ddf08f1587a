import FederatedSearch.Proofs.AnsweredSearches
import FederatedSearch.Proofs.ConvertedQueries

/-! What the relations of clauses have to do with each other. Where a clause can be told by another
query it can be replaced by it anywhere: no search of any store comes out differently. -/

namespace FederatedSearch

/-! Queries with other queries in the place of their clauses -/

namespace Expression

section Replace

variable (change : Clause → Expression)

mutual

def replace : Expression → Expression
  | .clause leaf => change leaf
  | .all operands => .all (replaceOf operands)
  | .any operands => .any (replaceOf operands)
  | .not operand => .not operand.replace

def replaceOf : List Expression → List Expression
  | [] => []
  | query :: queries => query.replace :: replaceOf queries

end

variable {change} {document : Document}

mutual

theorem matchedBy_replace
    (same : ∀ leaf, (change leaf).matchedBy document = leaf.matchedBy document) :
    (query : Expression) → (query.replace change).matchedBy document = query.matchedBy document
  | .clause leaf => by rw [replace, same leaf, matchedBy]
  | .all operands => by rw [replace, matchedBy, matchedBy, allMatchedBy_replaceOf same operands]
  | .any operands => by rw [replace, matchedBy, matchedBy, anyMatchedBy_replaceOf same operands]
  | .not operand => by rw [replace, matchedBy, matchedBy, matchedBy_replace same operand]

theorem allMatchedBy_replaceOf
    (same : ∀ leaf, (change leaf).matchedBy document = leaf.matchedBy document) :
    (queries : List Expression) →
      allMatchedBy document (replaceOf change queries) = allMatchedBy document queries
  | [] => by rw [replaceOf]
  | query :: queries => by
      rw [replaceOf, allMatchedBy, allMatchedBy, matchedBy_replace same query,
        allMatchedBy_replaceOf same queries]

theorem anyMatchedBy_replaceOf
    (same : ∀ leaf, (change leaf).matchedBy document = leaf.matchedBy document) :
    (queries : List Expression) →
      anyMatchedBy document (replaceOf change queries) = anyMatchedBy document queries
  | [] => by rw [replaceOf]
  | query :: queries => by
      rw [replaceOf, anyMatchedBy, anyMatchedBy, matchedBy_replace same query,
        anyMatchedBy_replaceOf same queries]

end

end Replace

theorem allMatchedBy_map {change : Expression → Expression} {document : Document}
    (same : ∀ query, (change query).matchedBy document = query.matchedBy document)
    (queries : List Expression) :
    allMatchedBy document (queries.map change) = allMatchedBy document queries := by
  induction queries with
  | nil => rfl
  | cons query queries ih => rw [List.map_cons, allMatchedBy, allMatchedBy, same, ih]

end Expression

section Convert

variable {change : Expression → Expression}
  (same : ∀ query document, (change query).matchedBy document = query.matchedBy document)

include same

theorem CoreSearch.finds_convert (search : CoreSearch Expression) (document : Document) :
    (search.convert change).finds document = search.finds document := by
  have queries : (search.convert change).queries = search.queries.map change := by
    unfold queries convert
    rw [List.map_append]
    cases search.query <;> rfl
  unfold finds
  rw [queries, Expression.allMatchedBy_map (same · document)]
  rfl

theorem CoreSearch.score_convert (search : CoreSearch Expression) (document : Document) :
    (search.convert change).score document = search.score document := by
  unfold score convert
  cases search.rankQuery with
  | none => rfl
  | some rank => simp only [Option.map_some, same]

/-- Queries that every document matches alike are found alike in every store. -/
theorem Store.search_convert (store : Store) (request : CoreSearch Expression) :
    store.search (request.convert change) = store.search request := by
  have alike : (request.convert change).found store.documents = request.found store.documents :=
    CoreSearch.found_congr (request.finds_convert same) (request.score_convert same)
  unfold search
  rw [alike]
  rfl

end Convert

/-! `<>` and `=` -/

namespace Clause

variable {index relation term : String} {known : Relation}

theorem matchedBy_related (isKnown : Relation.ofText? relation = some known) (document : Document) :
    (related index relation term).matchedBy document =
      .ok (if term = anyTerm then !(document.values index).isEmpty
        else known.holds (document.values index) term) := by
  unfold matchedBy related
  dsimp only
  split
  · rfl
  · rw [Option.getD_some, isKnown]

/-- A clause of `<>` as one of `=` under a "not". The term `*` asks for any value, whatever the
relation, and its clauses are left as they are. -/
def withoutUnequal (clause : Clause) : Expression :=
  match clause.index with
  | some index =>
    if clause.relation = some "<>" ∧ clause.term ≠ anyTerm then .not (.ofField index clause.term)
    else .clause clause
  | none => .clause clause

theorem matchedBy_unequal (other : term ≠ anyTerm) (document : Document) :
    (related index "<>" term).matchedBy document =
      (Expression.not (.ofField index term)).matchedBy document := by
  rw [Expression.matchedBy, Expression.ofField, Expression.matchedBy,
    matchedBy_related rfl, matchedBy_related rfl, if_neg other, if_neg other]
  rfl

theorem matchedBy_withoutUnequal (clause : Clause) (document : Document) :
    clause.withoutUnequal.matchedBy document = clause.matchedBy document := by
  obtain ⟨index, relation, term⟩ := clause
  cases index with
  | none => rfl
  | some index =>
      unfold withoutUnequal
      dsimp only
      split
      next unequal =>
        obtain ⟨rfl, other⟩ := unequal
        exact (matchedBy_unequal other document).symm
      next => rfl

end Clause

/-- Two clauses on one index and one term, of `<>` and of `=`. For any term but `*` just one of them
is matched, so either is told by the other under a "not", wherever it stands in the queries of a
search; for `*` both are matched by the documents with a value in the index. -/
theorem unequal_negates_iff (index term : String) :
    (∀ document, ∃ equal unequal,
      (Clause.related index "=" term).matchedBy document = .ok equal ∧
      (Clause.related index "<>" term).matchedBy document = .ok unequal ∧
      if term = anyTerm then unequal = equal ∧ equal = !(document.values index).isEmpty
      else unequal = !equal) ∧
    ((∀ document, (Clause.related index "<>" term).matchedBy document =
      (Expression.not (.ofField index term)).matchedBy document) ↔ term ≠ anyTerm) ∧
    ∀ (store : Store) request,
      store.search (request.convert (.replace Clause.withoutUnequal)) = store.search request := by
  refine ⟨?_, ⟨?_, Clause.matchedBy_unequal⟩, ?_⟩
  · intro document
    refine ⟨_, _, Clause.matchedBy_related rfl document, Clause.matchedBy_related rfl document, ?_⟩
    by_cases isAny : term = anyTerm
    · rw [if_pos isAny, if_pos isAny, if_pos isAny]
      exact ⟨rfl, rfl⟩
    · rw [if_neg isAny, if_neg isAny, if_neg isAny]
      rfl
  · rintro negates rfl
    have one := negates { id := index }
    rw [Expression.matchedBy, Expression.ofField, Expression.matchedBy,
      Clause.matchedBy_related rfl, Clause.matchedBy_related rfl, if_pos rfl, if_pos rfl] at one
    simp [Except.map] at one
  · intro store request
    refine Store.search_convert (fun query document => ?_) store request
    exact Expression.matchedBy_replace (Clause.matchedBy_withoutUnequal · document) query

def shelf : Store :=
  .ofDocuments "shelf" [({ id := "1" } : Document).addValue "title" "dune", { id := "2" }]

theorem shelf_anyTitle :
    (∃ response, shelf.search { query := some (.clause (.related "title" "<>" "*")) } =
      .answered response ∧ response.hits.map (·.id) = ["1"]) ∧
    (∃ response, shelf.search { query := some (.not (.ofField "title" "*")) } =
      .answered response ∧ response.hits.map (·.id) = ["2"]) ∧
    ∀ document ∈ shelf.documents, (Clause.related "title" "<>" "*").matchedBy document =
      (Clause.related "title" "=" "*").matchedBy document := by
  refine ⟨⟨_, rfl, by decide +kernel⟩, ⟨_, rfl, by decide +kernel⟩, ?_⟩
  decide +kernel

end FederatedSearch
