import FederatedSearch.Federation.Execution
import FederatedSearch.Proofs.PagedHits

/-! Searches that ask for more. What such a search of a store finds is part of what the other finds,
in the same order and with the same scores; so it has no more hits, not even after dedup, and no
more keys. -/

namespace FederatedSearch

namespace CoreSearch

variable {search narrowed : CoreSearch Expression} {document : Document}
  {documents : List Document} {found fewer : List Scored}

theorem finds_eq_true_iff : search.finds document = .ok true ↔
    (∀ query ∈ search.queries, query.matchedBy document = .ok true) ∧
      (∀ drilldown ∈ search.drilldowns, drilldown.holds document = true) ∧
        ∀ filter ∈ search.keyFilters, filter.holds document = true := by
  rw [finds, ← Expression.allMatchedBy_eq_true_iff]
  cases Expression.allMatchedBy document search.queries with
  | error unsupported => simp [Except.map]
  | ok matched => simp [Except.map, and_assoc]

structure Narrows (narrowed search : CoreSearch Expression) : Prop where
  queries : search.queries ⊆ narrowed.queries
  drilldowns : search.drilldowns ⊆ narrowed.drilldowns
  keyFilters : ∀ document, (∀ filter ∈ narrowed.keyFilters, filter.holds document = true) →
    ∀ filter ∈ search.keyFilters, filter.holds document = true
  rankQuery : narrowed.rankQuery = search.rankQuery
  options : ∃ start stop, narrowed.options = { search.options with start, stop }

namespace Narrows

variable (narrows : narrowed.Narrows search)

include narrows

theorem finds_of_finds (finds : narrowed.finds document = .ok true) :
    search.finds document = .ok true := by
  rw [finds_eq_true_iff] at finds ⊢
  obtain ⟨queries, drilldowns, keyFilters⟩ := finds
  exact ⟨fun query member => queries query (narrows.queries member),
    fun drilldown member => drilldowns drilldown (narrows.drilldowns member),
    narrows.keyFilters document keyFilters⟩

theorem score_eq (document : Document) : narrowed.score document = search.score document := by
  rw [score, score, narrows.rankQuery]

theorem found_sublist (isFound : search.found documents = .ok found)
    (isFewer : narrowed.found documents = .ok fewer) : fewer.Sublist found := by
  induction documents generalizing found fewer with
  | nil =>
      cases isFound
      cases isFewer
      exact List.Sublist.refl []
  | cons document rest ih =>
      rcases found_cons_ok_iff.mp isFewer with
        ⟨-, isRest⟩ | ⟨isTaken, score, others, isScore, isOthers, rfl⟩
      · rcases found_cons_ok_iff.mp isFound with
          ⟨-, wasRest⟩ | ⟨-, wasScore, wereOthers, -, wasRest, rfl⟩
        · exact ih wasRest isRest
        · exact (ih wasRest isRest).cons _
      · rcases found_cons_ok_iff.mp isFound with
          ⟨wasLeft, -⟩ | ⟨-, wasScore, wereOthers, isWasScore, wasRest, rfl⟩
        · rw [narrows.finds_of_finds isTaken] at wasLeft
          cases wasLeft
        · rw [narrows.score_eq, isWasScore] at isScore
          rw [Except.ok.inj isScore]
          exact (ih wasRest isOthers).cons_cons _

end Narrows

end CoreSearch

theorem Scored.countApart_le {found fewer : List Scored} (field : String)
    (sublist : fewer.Sublist found) : countApart field fewer ≤ countApart field found := by
  refine Nat.add_le_add sublist.countP_le (Finset.card_le_card fun value member => ?_)
  rw [List.mem_toFinset] at member ⊢
  exact (sublist.filterMap _).subset member

namespace QueryOptions

variable {options : QueryOptions} {found fewer ordered orderedFewer : List Scored}

theorem length_ordered_le (sublist : fewer.Sublist found)
    (isOrdered : options.ordered found = some ordered)
    (isOrderedFewer : options.ordered fewer = some orderedFewer) :
    orderedFewer.length ≤ ordered.length := by
  rw [Scored.length_ordered isOrdered, Scored.length_ordered isOrderedFewer]
  cases options.dedupField with
  | none => exact sublist.length_le
  | some field => exact Scored.countApart_le field sublist

theorem page_sublist {α : Type} (options : QueryOptions) (items : List α) :
    (options.page items).Sublist items :=
  (List.take_sublist _ _).trans (List.drop_sublist _ _)

theorem page_eq {α : Type} {items : List α} (fromFirst : options.pageStart = 0)
    (toLast : items.length ≤ options.pageStop) : options.page items = items := by
  rw [page, fromFirst, List.drop_zero, Nat.sub_zero, List.take_of_length_le toLast]

end QueryOptions

namespace Store

variable {store : Store} {search narrowed : CoreSearch Expression} {first second : CoreResponse}
  (narrows : narrowed.Narrows search) (isFirst : store.search search = .answered first)
  (isSecond : store.search narrowed = .answered second)

include narrows isFirst isSecond

theorem total_le_of_narrows : second.total ≤ first.total := by
  obtain ⟨found, ordered, isFound, isOrdered, rfl⟩ := search_answered_iff.mp isFirst
  obtain ⟨fewer, orderedFewer, isFewer, isOrderedFewer, rfl⟩ := search_answered_iff.mp isSecond
  obtain ⟨start, stop, options⟩ := narrows.options
  rw [options] at isOrderedFewer
  exact QueryOptions.length_ordered_le (narrows.found_sublist isFound isFewer) isOrdered
    isOrderedFewer

/-- Without dedup no page has a new hit, if all hits there were stand on one page. -/
theorem hits_subperm_of_narrows (keepsAll : search.options.dedupField = none)
    (fromFirst : search.options.pageStart = 0) (toLast : first.total ≤ search.options.pageStop) :
    second.hits.Subperm first.hits := by
  obtain ⟨found, ordered, isFound, isOrdered, rfl⟩ := search_answered_iff.mp isFirst
  obtain ⟨fewer, orderedFewer, isFewer, isOrderedFewer, rfl⟩ := search_answered_iff.mp isSecond
  obtain ⟨start, stop, options⟩ := narrows.options
  have keepsFewer : narrowed.options.dedupField = none := by
    rw [options]
    exact keepsAll
  have part : (narrowed.options.page orderedFewer).Subperm ordered :=
    (QueryOptions.page_sublist narrowed.options orderedFewer).subperm.trans
      ((QueryOptions.ordered_perm keepsFewer isOrderedFewer).subperm.trans
        ((narrows.found_sublist isFound isFewer).subperm.trans
          (QueryOptions.ordered_perm keepsAll isOrdered).symm.subperm))
  change ((narrowed.options.page orderedFewer).map (·.hit)).Subperm
    ((search.options.page ordered).map (·.hit))
  rw [QueryOptions.page_eq fromFirst toLast]
  obtain ⟨middle, perm, within⟩ := part
  exact ⟨middle.map _, perm.map _, within.map _⟩

theorem keys_of_narrows (collects : narrowed.collectKeys = search.collectKeys) {key : String}
    (collected : second.keys.contains key = true) : first.keys.contains key = true := by
  obtain ⟨found, ordered, isFound, -, rfl⟩ := search_answered_iff.mp isFirst
  obtain ⟨fewer, orderedFewer, isFewer, -, rfl⟩ := search_answered_iff.mp isSecond
  have sublist := narrows.found_sublist isFound isFewer
  unfold CoreResponse.keys respond at collected ⊢
  rw [collects] at collected
  cases isField : search.collectKeys with
  | none => simp [isField] at collected
  | some field =>
      simp only [isField, Option.map_some, Option.getD_some, SortedSet.contains_ofList,
        List.mem_flatMap] at collected ⊢
      obtain ⟨document, member, hasKey⟩ := collected
      exact ⟨document, (sublist.map _).subset member, hasKey⟩

end Store

end FederatedSearch
