import FederatedSearch.Proofs.AnsweredSearches
import FederatedSearch.Proofs.CanonicalQueries

/-! Queries combined into one. Taking operands out of nodes of their kind, leaving out nodes without
operands and letting one operand stand for itself keep the order in which the operands are reached,
so that documents are matched, and fail, just as they are with all of the queries under one node. -/

namespace FederatedSearch

namespace Expression

variable (document : Document) (queries : List Expression)

theorem allMatchedBy_allOf :
    allMatchedBy document (allOf queries).toList = allMatchedBy document queries := by
  rw [← allMatchedBy_conjuncts document queries]
  unfold allOf
  match queries.flatMap conjuncts with
  | [] => rfl
  | [_] => rfl
  | _ :: _ :: _ => exact allMatchedBy_singleton document _

theorem anyMatchedBy_anyOf :
    anyMatchedBy document (anyOf queries).toList = anyMatchedBy document queries := by
  rw [← anyMatchedBy_disjuncts document queries]
  unfold anyOf
  match queries.flatMap disjuncts with
  | [] => rfl
  | [_] => rfl
  | _ :: _ :: _ => exact anyMatchedBy_singleton document _

theorem elim_allOf : (allOf queries).elim (.ok true) (·.matchedBy document) =
    (all queries).matchedBy document := by
  rw [matchedBy, ← allMatchedBy_allOf]
  cases allOf queries with
  | none => rfl
  | some whole => exact (allMatchedBy_singleton document whole).symm

theorem elim_anyOf : (anyOf queries).elim (.ok false) (·.matchedBy document) =
    (any queries).matchedBy document := by
  rw [matchedBy, ← anyMatchedBy_anyOf]
  cases anyOf queries with
  | none => rfl
  | some whole => exact (anyMatchedBy_singleton document whole).symm

/-- Among other queries that all have to be matched, those combined stand for their node. -/
theorem allMatchedBy_among (before after : List Expression) :
    allMatchedBy document (before ++ (allOf queries).toList ++ after) =
      allMatchedBy document (before ++ .all queries :: after) := by
  have node : allMatchedBy document [.all queries] = allMatchedBy document queries :=
    allMatchedBy_singleton document (.all queries)
  rw [← List.singleton_append, ← List.append_assoc]
  simp only [allMatchedBy_append, allMatchedBy_allOf, node]

end Expression

structure CoreSearch.SameRest (request other : CoreSearch Expression) : Prop where
  drilldowns : other.drilldowns = request.drilldowns
  keyFilters : other.keyFilters = request.keyFilters
  facets : other.facets = request.facets
  collectKeys : other.collectKeys = request.collectKeys
  options : other.options = request.options

namespace CoreSearch

variable {request other : CoreSearch Expression}

theorem finds_congr (rest : SameRest request other)
    {document : Document} (same : Expression.allMatchedBy document other.queries =
      Expression.allMatchedBy document request.queries) :
    other.finds document = request.finds document := by
  unfold finds
  rw [same, rest.drilldowns, rest.keyFilters]

/-- Searches that take every document alike come to the same. -/
theorem search_congr (rest : SameRest request other)
    (finds : ∀ document, other.finds document = request.finds document)
    (score : ∀ document, other.score document = request.score document) (store : Store) :
    store.search other = store.search request := by
  have alike : other.found store.documents = request.found store.documents :=
    found_congr finds score
  unfold Store.search Store.respond
  rw [alike, rest.facets, rest.collectKeys, rest.options]

end CoreSearch

namespace Store

variable (store : Store) (request : CoreSearch Expression) (queries : List Expression)

theorem search_allOf : store.search { request with query := Expression.allOf queries } =
    store.search { request with query := some (.all queries) } := by
  apply CoreSearch.search_congr
  case rest => constructor <;> rfl
  case score => exact fun _ => rfl
  case finds =>
    intro document
    apply CoreSearch.finds_congr
    case rest => constructor <;> rfl
    case same => exact Expression.allMatchedBy_among document queries [] request.filters

theorem search_filters (before after : List Expression) :
    store.search { request with filters := before ++ (Expression.allOf queries).toList ++ after } =
      store.search { request with filters := before ++ .all queries :: after } := by
  apply CoreSearch.search_congr
  case rest => constructor <;> rfl
  case score => exact fun _ => rfl
  case finds =>
    intro document
    apply CoreSearch.finds_congr
    case rest => constructor <;> rfl
    case same =>
      have among := Expression.allMatchedBy_among document queries
        (request.query.toList ++ before) after
      simpa only [CoreSearch.queries, List.append_assoc] using among

theorem search_anyOf : store.search { request with rankQuery := Expression.anyOf queries } =
    store.search { request with rankQuery := some (.any queries) } := by
  apply CoreSearch.search_congr
  case rest => constructor <;> rfl
  case finds => exact fun _ => rfl
  case score =>
    intro document
    have combined := Expression.elim_anyOf document queries
    unfold CoreSearch.score
    cases given : Expression.anyOf queries with
    | none =>
        rw [given] at combined
        simp only [← combined, Option.elim_none]
        rfl
    | some whole =>
        rw [given] at combined
        simp only [← combined, Option.elim_some]

end Store

open Expression in
/-- Queries combined by `allOf` or `anyOf` are to every document what they are under one node: it
matches, or does not, or fails on the same relation. Where they come to no query at all, every
document matches all of them and none matches any of them. So a search comes to the same outcome
with them combined as its query or among its filters, and likewise as what it ranks by. -/
theorem combined_matchedBy_eq (queries : List Expression) :
    (∀ document,
      (allOf queries).elim (.ok true) (·.matchedBy document) =
        (Expression.all queries).matchedBy document ∧
      (anyOf queries).elim (.ok false) (·.matchedBy document) =
        (Expression.any queries).matchedBy document) ∧
    ∀ (store : Store) (request : CoreSearch Expression),
      store.search { request with query := allOf queries } =
        store.search { request with query := some (.all queries) } ∧
      (∀ before after,
        store.search { request with filters := before ++ (allOf queries).toList ++ after } =
          store.search { request with filters := before ++ .all queries :: after }) ∧
      store.search { request with rankQuery := anyOf queries } =
        store.search { request with rankQuery := some (.any queries) } := by
  refine ⟨fun document => ⟨elim_allOf document queries, elim_anyOf document queries⟩, ?_⟩
  intro store request
  exact ⟨store.search_allOf request queries, store.search_filters request queries,
    store.search_anyOf request queries⟩

end FederatedSearch
