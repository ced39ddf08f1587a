import FederatedSearch.Proofs.AnsweredSearches

/-! Which documents a store finds. Where every relation is known no query can fail on a document:
it accepts the document or does not, operand by operand, and a search finds the documents that all
its parts accept. -/

namespace FederatedSearch

def Clause.isSupported (clause : Clause) : Bool :=
  clause.relation.all fun relation => (Relation.ofText? relation).isSome

def Clause.accepts (clause : Clause) (document : Document) : Bool :=
  match clause.matchedBy document with
  | .ok matched => matched
  | .error _ => false

theorem Clause.matchedBy_eq {clause : Clause} (supported : clause.isSupported = true)
    (document : Document) : clause.matchedBy document = .ok (clause.accepts document) := by
  have known : (Relation.ofText? (clause.relation.getD "=")).isSome = true := by
    unfold Clause.isSupported at supported
    cases given : clause.relation with
    | none => rfl
    | some relation =>
        rw [given] at supported
        exact supported
  unfold Clause.accepts
  cases found : clause.matchedBy document with
  | ok matched => rfl
  | error unsupported =>
      unfold Clause.matchedBy at found
      cases index : clause.index with
      | none =>
          rw [index] at found
          cases found
      | some name =>
          simp only [index] at found
          split at found
          · cases found
          · split at found
            · cases found
            next unknown =>
              rw [unknown] at known
              cases known

namespace Expression

def Supported (query : Expression) : Prop :=
  ∀ leaf ∈ query.clauses, leaf.isSupported = true

instance (query : Expression) : Decidable query.Supported :=
  inferInstanceAs (Decidable (∀ leaf ∈ query.clauses, leaf.isSupported = true))

mutual

def accepts (document : Document) : Expression → Bool
  | .clause leaf => leaf.accepts document
  | .all operands => allAccept document operands
  | .any operands => anyAccepts document operands
  | .not operand => !operand.accepts document

def allAccept (document : Document) : List Expression → Bool
  | [] => true
  | query :: queries => query.accepts document && allAccept document queries

def anyAccepts (document : Document) : List Expression → Bool
  | [] => false
  | query :: queries => query.accepts document || anyAccepts document queries

end

theorem allAccept_eq_all (document : Document) (queries : List Expression) :
    allAccept document queries = queries.all (·.accepts document) := by
  induction queries with
  | nil => rfl
  | cons query queries ih => rw [allAccept, ih, List.all_cons]

theorem supported_of_mem {operands : List Expression} {operand : Expression}
    (supported : ∀ leaf ∈ clausesOf operands, leaf.isSupported = true)
    (member : operand ∈ operands) : operand.Supported := by
  intro leaf inOperand
  rw [clausesOf_eq_flatMap] at supported
  exact supported leaf (List.mem_flatMap.mpr ⟨operand, member, inOperand⟩)

mutual

theorem matchedBy_eq (document : Document) : (query : Expression) → query.Supported →
    query.matchedBy document = .ok (query.accepts document)
  | .clause leaf, supported => by
      rw [matchedBy, accepts]
      exact Clause.matchedBy_eq (supported leaf (by simp [clauses])) document
  | .all operands, supported => by
      rw [matchedBy, accepts]
      exact allMatchedBy_eq document operands fun _ member => supported_of_mem supported member
  | .any operands, supported => by
      rw [matchedBy, accepts]
      exact anyMatchedBy_eq document operands fun _ member => supported_of_mem supported member
  | .not operand, supported => by
      rw [matchedBy, accepts, matchedBy_eq document operand supported]
      rfl

theorem allMatchedBy_eq (document : Document) : (queries : List Expression) →
    (∀ query ∈ queries, query.Supported) →
    allMatchedBy document queries = .ok (allAccept document queries)
  | [], _ => rfl
  | query :: queries, supported => by
      have first := matchedBy_eq document query (supported query List.mem_cons_self)
      have rest := allMatchedBy_eq document queries fun other member =>
        supported other (List.mem_cons_of_mem query member)
      rw [allMatchedBy, allAccept, first]
      cases query.accepts document with
      | false => rfl
      | true => exact rest

theorem anyMatchedBy_eq (document : Document) : (queries : List Expression) →
    (∀ query ∈ queries, query.Supported) →
    anyMatchedBy document queries = .ok (anyAccepts document queries)
  | [], _ => rfl
  | query :: queries, supported => by
      have first := matchedBy_eq document query (supported query List.mem_cons_self)
      have rest := anyMatchedBy_eq document queries fun other member =>
        supported other (List.mem_cons_of_mem query member)
      rw [anyMatchedBy, anyAccepts, first]
      cases query.accepts document with
      | false => exact rest
      | true => rfl

end

end Expression

def Scored.under (rank : Option Expression) (document : Document) : Scored where
  document
  score := if rank.any (·.accepts document) then 2 else 1

namespace CoreSearch

variable {search : CoreSearch Expression}

def Supported (search : CoreSearch Expression) : Prop :=
  (∀ query ∈ search.queries, query.Supported) ∧ ∀ rank ∈ search.rankQuery, rank.Supported

def admits (search : CoreSearch Expression) (document : Document) : Bool :=
  search.queries.all (·.accepts document) && search.drilldowns.all (·.holds document) &&
    search.keyFilters.all (·.holds document)

theorem finds_eq (supported : search.Supported) (document : Document) :
    search.finds document = .ok (search.admits document) := by
  unfold finds admits
  rw [Expression.allMatchedBy_eq document _ supported.1, Expression.allAccept_eq_all]
  rfl

theorem score_eq (supported : search.Supported) (document : Document) :
    search.score document = .ok (Scored.under search.rankQuery document).score := by
  unfold score Scored.under
  cases given : search.rankQuery with
  | none => rfl
  | some rank =>
      have known := supported.2 rank given
      simp only [Expression.matchedBy_eq document rank known]
      rfl

theorem found_eq (supported : search.Supported) (documents : List Document) :
    search.found documents =
      .ok ((documents.filter search.admits).map (Scored.under search.rankQuery)) := by
  induction documents with
  | nil => rfl
  | cons document rest ih =>
      unfold found
      rw [finds_eq supported, ih, score_eq supported]
      cases admitted : search.admits document with
      | false =>
          rw [List.filter_cons_of_neg (by simp [admitted])]
          rfl
      | true =>
          rw [List.filter_cons_of_pos admitted, List.map_cons]
          rfl

end CoreSearch

namespace Store

variable {store : Store} {request : CoreSearch Expression}

theorem search_eq (supported : request.Supported) :
    store.search request =
      match request.options.ordered
        ((store.documents.filter request.admits).map (Scored.under request.rankQuery)) with
      | none => .panicked
      | some ordered => .answered (store.respond request
          ((store.documents.filter request.admits).map (Scored.under request.rankQuery))
          ordered) :=
  search_of_found (CoreSearch.found_eq supported store.documents)

def answer (store : Store) (request : CoreSearch Expression) : CoreResponse :=
  match store.search request with
  | .answered response => response
  | _ => {}

theorem search_unordered (store : Store) (supported : request.Supported)
    (unordered : request.options.sortKeys = []) :
    store.search request = .answered (store.answer request) ∧
      ∃ ordered, store.answer request = store.respond request
        ((store.documents.filter request.admits).map (Scored.under request.rankQuery)) ordered := by
  have searched : store.search request = _ := search_eq supported
  unfold QueryOptions.ordered Scored.rank at searched
  rw [unordered] at searched
  unfold answer
  rw [searched]
  exact ⟨rfl, _, rfl⟩

theorem documents_scored {rank : Option Expression} {documents : List Document} :
    (documents.map (Scored.under rank)).map (·.document) = documents := by
  rw [List.map_map]
  exact List.map_id documents

theorem facets_answer (supported : request.Supported)
    (unordered : request.options.sortKeys = []) : (store.answer request).facets =
      if request.facets.isEmpty then none
      else some (request.facets.map (·.count (store.documents.filter request.admits))) := by
  obtain ⟨ordered, answered⟩ := (store.search_unordered supported unordered).2
  rw [answered]
  unfold respond
  rw [documents_scored]

theorem collectedKeys_answer (supported : request.Supported)
    (unordered : request.options.sortKeys = []) : (store.answer request).collectedKeys =
      request.collectKeys.map fun field =>
        SortedSet.ofList ((store.documents.filter request.admits).flatMap (·.values field)) := by
  obtain ⟨ordered, answered⟩ := (store.search_unordered supported unordered).2
  rw [answered]
  unfold respond
  rw [documents_scored]

end Store

end FederatedSearch
