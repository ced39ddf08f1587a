import FederatedSearch.Proofs.ListResults
import FederatedSearch.Store.Basic

/-! What an answered search is made of: the documents it finds, each looked at on its own, and the
order they are brought into. -/

namespace FederatedSearch

theorem Expression.allMatchedBy_eq_true_iff {document : Document} {queries : List Expression} :
    allMatchedBy document queries = .ok true ↔
      ∀ query ∈ queries, query.matchedBy document = .ok true := by
  induction queries with
  | nil => simp [allMatchedBy]
  | cons query rest ih =>
      rw [List.forall_mem_cons, ← ih, allMatchedBy]
      split
      next isTrue => simp [isTrue]
      next isFalse => simp [isFalse]
      next isError => simp [isError]

namespace CoreSearch

variable {search narrowed : CoreSearch Expression} {document : Document}
  {documents : List Document} {found : List Scored}

theorem found_cons_ok_iff : search.found (document :: documents) = .ok found ↔
    (search.finds document = .ok false ∧ search.found documents = .ok found) ∨
      search.finds document = .ok true ∧ ∃ score others, search.score document = .ok score ∧
        search.found documents = .ok others ∧ found = ⟨document, score⟩ :: others := by
  rw [CoreSearch.found, bind_ok_iff]
  constructor
  · rintro ⟨taken, isTaken, rest⟩
    cases taken with
    | false => exact Or.inl ⟨isTaken, rest⟩
    | true =>
        obtain ⟨score, isScore, rest⟩ := bind_ok_iff.mp rest
        obtain ⟨others, isOthers, isFound⟩ := bind_ok_iff.mp rest
        exact Or.inr ⟨isTaken, score, others, isScore, isOthers, (Except.ok.inj isFound).symm⟩
  · rintro (⟨isLeft, rest⟩ | ⟨isTaken, score, others, isScore, isOthers, rfl⟩)
    · exact ⟨false, isLeft, rest⟩
    · refine ⟨true, isTaken, bind_ok_iff.mpr ⟨score, isScore, bind_ok_iff.mpr ?_⟩⟩
      exact ⟨others, isOthers, rfl⟩

theorem documents_of_found (isFound : search.found documents = .ok found) :
    found.map (·.document) =
      documents.filter fun document => (search.finds document).toOption = some true := by
  induction documents generalizing found with
  | nil =>
      cases isFound
      rfl
  | cons document rest ih =>
      rcases found_cons_ok_iff.mp isFound with
        ⟨isLeft, isRest⟩ | ⟨isTaken, score, others, -, isOthers, rfl⟩
      · rw [List.filter_cons_of_neg (by simp [isLeft, Except.toOption])]
        exact ih isRest
      · rw [List.filter_cons_of_pos (by simp [isTaken, Except.toOption]), List.map_cons,
          ih isOthers]

theorem found_congr {other : CoreSearch Expression}
    (finds : ∀ document, other.finds document = search.finds document)
    (score : ∀ document, other.score document = search.score document) :
    other.found documents = search.found documents := by
  induction documents with
  | nil => rfl
  | cons document rest ih => rw [CoreSearch.found, CoreSearch.found, finds, score, ih]

/-- A search that asks one thing more of a document finds those of the documents found for which it
holds, with the scores they have. -/
theorem found_filter {holds : Document → Bool}
    (finds : ∀ document,
      narrowed.finds document = (search.finds document).map (· && holds document))
    (score : ∀ document, narrowed.score document = search.score document)
    (isFound : search.found documents = .ok found) :
    narrowed.found documents = .ok (found.filter (holds ·.document)) := by
  induction documents generalizing found with
  | nil =>
      cases isFound
      rfl
  | cons document rest ih =>
      rw [found_cons_ok_iff, finds, score]
      rcases found_cons_ok_iff.mp isFound with
        ⟨isLeft, isRest⟩ | ⟨isTaken, own, others, isOwn, isOthers, rfl⟩
      · rw [isLeft]
        exact Or.inl ⟨rfl, ih isRest⟩
      · rw [isTaken]
        cases held : holds document with
        | false =>
            rw [List.filter_cons_of_neg (by simp [held])]
            exact Or.inl ⟨by simp [Except.map], ih isOthers⟩
        | true =>
            rw [List.filter_cons_of_pos (by simp [held])]
            exact Or.inr ⟨by simp [Except.map], own, _, isOwn, ih isOthers, rfl⟩

end CoreSearch

theorem QueryOptions.ordered_eq_rank {options : QueryOptions} (keepsAll : options.dedupField = none)
    (found : List Scored) : options.ordered found = Scored.rank options.sortKeys found := by
  rw [QueryOptions.ordered, keepsAll]
  exact Option.map_id'

theorem Scored.rank_isSome {keys : List SortKey} {found : List Scored}
    (orderly : found.length ≤ insertionLength ∨
      ∀ key ∈ keys, IsPreorderOn compareValues (valuesUnder key found)) :
    (rank keys found).isSome = true := by
  rcases orderly with few | consistent
  · unfold rank
    dsimp only
    split
    · rfl
    · unfold sortOrBreak
      rw [if_pos few]
      rfl
  · rw [rank_eq_stableSort consistent]
    rfl

namespace Store

variable {store : Store} {request : CoreSearch Expression} {found : List Scored}

theorem search_of_found (isFound : request.found store.documents = .ok found) :
    store.search request =
      match request.options.ordered found with
      | none => .panicked
      | some ordered => .answered (store.respond request found ordered) := by
  cases isOrdered : request.options.ordered found <;> simp only [search, isFound, isOrdered]

theorem search_answered_iff {response : CoreResponse} :
    store.search request = .answered response ↔ ∃ found ordered,
      request.found store.documents = .ok found ∧ request.options.ordered found = some ordered ∧
        response = store.respond request found ordered := by
  constructor
  · intro answers
    cases isFound : request.found store.documents with
    | error unsupported => simp [search, isFound] at answers
    | ok found =>
        rw [search_of_found isFound] at answers
        cases isOrdered : request.options.ordered found with
        | none => simp [isOrdered] at answers
        | some ordered =>
            rw [isOrdered] at answers
            exact ⟨found, ordered, rfl, isOrdered, (Outcome.answered.inj answers).symm⟩
  · rintro ⟨found, ordered, isFound, isOrdered, rfl⟩
    rw [search_of_found isFound, isOrdered]

end Store

end FederatedSearch
