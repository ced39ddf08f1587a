import FederatedSearch.Proofs.AnsweredSearches
import FederatedSearch.Proofs.ConsistentOrder

/-! Facets and drilling down. A facet counts the documents found under each of its terms; searching
again with the term as a drilldown finds those documents. -/

namespace FederatedSearch

theorem SortedSet.toList_ascending {κ : Type} [Ord κ] (set : SortedSet κ) :
    set.toList.Pairwise fun first second => compare first second = .lt :=
  List.pairwise_map.mpr set.members.ascending

theorem concat_isPrefix_iff {α : Type} {path longer : List α} {last : α} :
    path ++ [last] <+: longer ↔ path <+: longer ∧ longer[path.length]? = some last := by
  constructor
  · rintro ⟨rest, rfl⟩
    refine ⟨⟨last :: rest, by simp⟩, by simp⟩
  · rintro ⟨⟨rest, rfl⟩, isNext⟩
    rw [List.getElem?_append_right (Nat.le_refl _), Nat.sub_self, ← List.head?_eq_getElem?,
      List.head?_eq_some_iff] at isNext
    obtain ⟨others, rfl⟩ := isNext
    exact ⟨others, by simp⟩

def FacetTerm.Precedes (sort : Option FacetSort) (first second : FacetTerm) : Prop :=
  match sort with
  | none => first.term < second.term
  | some .count =>
    second.count < first.count ∨ first.count = second.count ∧ first.term < second.term

theorem FacetTerm.Precedes.trans {sort : Option FacetSort} {first second third : FacetTerm}
    (precedes : Precedes sort first second) (precedes' : Precedes sort second third) :
    Precedes sort first third := by
  cases sort with
  | none => exact String.lt_trans precedes precedes'
  | some order =>
      cases order
      rcases precedes with more | ⟨same, below⟩
      · rcases precedes' with more' | ⟨same', -⟩
        · exact Or.inl (Nat.lt_trans more' more)
        · exact Or.inl (same' ▸ more)
      · rcases precedes' with more' | ⟨same', below'⟩
        · exact Or.inl (same ▸ more')
        · exact Or.inr ⟨same.trans same', String.lt_trans below below'⟩

namespace FacetRequest

variable {facet : FacetRequest} {documents : List Document} {document : Document} {term : String}

def drilldown (facet : FacetRequest) (term : String) : Drilldown where
  field := facet.field
  path := facet.path ++ [term]

theorem contains_termsOf_iff : (facet.termsOf document).contains term = true ↔
    (facet.drilldown term).holds document = true := by
  rw [termsOf, SortedSet.contains_ofList, List.mem_filterMap, Drilldown.holds, List.any_eq_true]
  refine exists_congr fun path => and_congr_right fun _ => ?_
  have stands : (facet.path ++ [term]).isPrefixOf path = true ↔
      facet.path.isPrefixOf path = true ∧ path[facet.path.length]? = some term := by
    simp only [List.isPrefixOf_iff_prefix, concat_isPrefix_iff]
  refine Iff.trans ?_ stands.symm
  split
  next within => simp [within]
  next apart => simp [apart]

theorem mem_counts_iff {entry : FacetTerm} : entry ∈ facet.counts documents ↔
    (∃ document ∈ documents, (facet.drilldown entry.term).holds document = true) ∧
      entry = ⟨entry.term, documents.countP (facet.drilldown entry.term).holds, none⟩ := by
  have counted (term : String) : (documents.map facet.termsOf).countP (·.contains term) =
      documents.countP (facet.drilldown term).holds := by
    rw [List.countP_map]
    exact List.countP_congr fun document _ => contains_termsOf_iff
  have occurs (term : String) :
      term ∈ (SortedSet.ofList ((documents.map facet.termsOf).flatMap (·.toList))).toList ↔
        ∃ document ∈ documents, (facet.drilldown term).holds document = true := by
    rw [SortedSet.mem_toList, SortedSet.contains_ofList, List.flatMap_map, List.mem_flatMap]
    refine exists_congr fun document => and_congr_right fun _ => ?_
    rw [SortedSet.mem_toList, contains_termsOf_iff]
  rw [counts, List.mem_map]
  constructor
  · rintro ⟨term, isTerm, rfl⟩
    exact ⟨(occurs term).mp isTerm, by rw [counted]⟩
  · rintro ⟨someDocument, isEntry⟩
    exact ⟨entry.term, (occurs entry.term).mpr someDocument, by rw [counted, ← isEntry]⟩

theorem counts_ascending (facet : FacetRequest) (documents : List Document) :
    (facet.counts documents).Pairwise fun first second => first.term < second.term := by
  refine List.pairwise_map.mpr ((SortedSet.toList_ascending _).imp ?_)
  intro first second below
  exact compareOfLessAndEq_eq_lt.mp below

theorem sorted_perm (facet : FacetRequest) (terms : List FacetTerm) :
    (facet.sorted terms).Perm terms := by
  unfold sorted
  cases facet.sort with
  | none => exact List.Perm.refl terms
  | some order =>
      cases order
      exact stableSort_perm _ terms

theorem sorted_ordered {terms : List FacetTerm}
    (ascending : terms.Pairwise fun first second => first.term < second.term) :
    (facet.sorted terms).Pairwise (FacetTerm.Precedes facet.sort) := by
  unfold sorted
  cases facet.sort with
  | none => exact ascending
  | some order =>
      cases order
      refine pairwise_stableSort ?_ ?_ (ascending.imp ?_)
      · intro first second third
        exact FacetTerm.Precedes.trans
      · intro first second before
        rw [beq_iff_eq, Ordering.then_eq_lt, Nat.compare_eq_lt, Nat.compare_eq_eq] at before
        rcases before with more | ⟨same, below⟩
        · exact Or.inl more
        · exact Or.inr ⟨same.symm, compareOfLessAndEq_eq_lt.mp below⟩
      · intro earlier later below notBefore
        rw [beq_eq_false_iff_ne, ne_eq, Ordering.then_eq_lt, Nat.compare_eq_lt] at notBefore
        rcases Nat.lt_or_eq_of_le (Nat.le_of_not_lt fun more => notBefore (Or.inl more)) with
          more | same
        · exact Or.inl more
        · exact Or.inr ⟨same.symm, below⟩

theorem limited_sublist (facet : FacetRequest) (terms : List FacetTerm) :
    (facet.limited terms).Sublist terms := by
  unfold limited
  split
  · exact List.Sublist.refl terms
  · exact List.take_sublist _ terms

end FacetRequest

/-! Searching again -/

section Drilling

variable {store : Store} {request : CoreSearch Expression} {facet : FacetRequest}
  {found ranked : List Scored}

def CoreSearch.drillingDown (search : CoreSearch Expression) (drilldown : Drilldown) :
    CoreSearch Expression :=
  { search with drilldowns := search.drilldowns ++ [drilldown] }

def Drilldown.within (drilldown : Drilldown) (found : List Scored) : List Scored :=
  found.filter (drilldown.holds ·.document)

theorem CoreSearch.finds_drillingDown (search : CoreSearch Expression) (drilldown : Drilldown)
    (document : Document) : (search.drillingDown drilldown).finds document =
      (search.finds document).map (· && drilldown.holds document) := by
  have sameQueries : (search.drillingDown drilldown).queries = search.queries := rfl
  have sameKeys : (search.drillingDown drilldown).keyFilters = search.keyFilters := rfl
  rw [finds, finds, sameQueries, sameKeys]
  cases Expression.allMatchedBy document search.queries with
  | error unsupported => rfl
  | ok matched =>
      simp only [drillingDown, Except.map, List.all_append, List.all_cons, List.all_nil,
        Bool.and_true]
      rw [← Bool.and_assoc, Bool.and_right_comm]

theorem CoreSearch.found_drillingDown (isFound : request.found store.documents = .ok found)
    (drilldown : Drilldown) :
    (request.drillingDown drilldown).found store.documents = .ok (drilldown.within found) :=
  CoreSearch.found_filter (request.finds_drillingDown drilldown) (fun _ => rfl) isFound

theorem Store.search_drillingDown (keepsAll : request.options.dedupField = none)
    (isFound : request.found store.documents = .ok found) (drilldown : Drilldown) :
    if (Scored.rank request.options.sortKeys (drilldown.within found)).isSome = true then
      ∃ drilled, store.search (request.drillingDown drilldown) = .answered drilled ∧
        drilled.total = (found.map (·.document)).countP drilldown.holds
    else store.search (request.drillingDown drilldown) = .panicked := by
  have isWithin := CoreSearch.found_drillingDown isFound drilldown
  have sameOrder : (request.drillingDown drilldown).options.ordered (drilldown.within found) =
      Scored.rank request.options.sortKeys (drilldown.within found) :=
    QueryOptions.ordered_eq_rank keepsAll _
  have searched := Store.search_of_found isWithin
  rw [sameOrder] at searched
  cases isRanked : Scored.rank request.options.sortKeys (drilldown.within found) with
  | none =>
      rw [isRanked] at searched
      exact searched
  | some ranked =>
      rw [isRanked] at searched
      refine ⟨_, searched, ?_⟩
      calc ranked.length
          = (drilldown.within found).length := (Scored.rank_perm isRanked).length_eq
        _ = (found.map (·.document)).countP drilldown.holds := by
            rw [Drilldown.within, ← List.countP_eq_length_filter, List.countP_map]
            rfl

theorem Scored.rank_isSome_within (drilldown : Drilldown)
    (orderly : (drilldown.within found).length ≤ insertionLength ∨
      ∀ key ∈ request.options.sortKeys, IsPreorderOn compareValues (Scored.valuesUnder key found)) :
    (Scored.rank request.options.sortKeys (drilldown.within found)).isSome = true := by
  refine Scored.rank_isSome (orderly.imp_right fun consistent key isKey => ?_)
  refine (consistent key isKey).mono fun value member => ?_
  obtain ⟨scored, inside, isValue⟩ := Scored.mem_valuesUnder_iff.mp member
  exact Scored.mem_valuesUnder_iff.mpr ⟨scored, List.mem_of_mem_filter inside, isValue⟩

/-- The block of a facet says for each of its terms what the total is of the search with the term as
a drilldown, and leaves out no term but those beyond the number asked for. -/
structure FacetBlock.Tallies (store : Store) (request : CoreSearch Expression)
    (facet : FacetRequest) (block : FacetBlock) : Prop where
  field : block.field = facet.field
  path : block.path = facet.path
  positive : ∀ entry ∈ block.terms, 1 ≤ entry.count
  total : ∀ entry ∈ block.terms, ∀ drilled,
    store.search (request.drillingDown (facet.drilldown entry.term)) = .answered drilled →
      drilled.total = entry.count
  complete : facet.maxTerms = 0 → ∀ term drilled,
    store.search (request.drillingDown (facet.drilldown term)) = .answered drilled →
      0 < drilled.total → term ∈ block.terms.map (·.term)
  distinct : (block.terms.map (·.term)).Nodup
  ordered : block.terms.Pairwise (FacetTerm.Precedes facet.sort)
  limited : 0 < facet.maxTerms → ∃ response whole,
    store.search { request with facets := [{ facet with maxTerms := 0 }] } = .answered response ∧
      response.facets = some [whole] ∧ block.terms = whole.terms.take facet.maxTerms

theorem Store.total_drillingDown (keepsAll : request.options.dedupField = none)
    (isFound : request.found store.documents = .ok found) {drilldown : Drilldown}
    {drilled : CoreResponse}
    (answers : store.search (request.drillingDown drilldown) = .answered drilled) :
    drilled.total = (found.map (·.document)).countP drilldown.holds := by
  have searched := Store.search_drillingDown keepsAll isFound drilldown
  split at searched
  · obtain ⟨drilled', answers', total⟩ := searched
    rw [answers] at answers'
    rw [Outcome.answered.inj answers', total]
  · rw [answers] at searched
    cases searched

theorem FacetRequest.tallies_count (keepsAll : request.options.dedupField = none)
    (isFound : request.found store.documents = .ok found)
    (isRanked : Scored.rank request.options.sortKeys found = some ranked) (facet : FacetRequest) :
    (facet.count (found.map (·.document))).Tallies store request facet := by
  generalize isDocuments : found.map (·.document) = documents
  have kept : (facet.limited (facet.sorted (facet.counts documents))).Sublist
      (facet.sorted (facet.counts documents)) := facet.limited_sublist _
  have sorted := facet.sorted_perm (facet.counts documents)
  have counted {entry : FacetTerm} (member : entry ∈ (facet.count documents).terms) :=
    mem_counts_iff.mp (sorted.mem_iff.mp (kept.subset member))
  have distinct : ((facet.counts documents).map (·.term)).Nodup := by
    refine List.pairwise_map.mpr ((facet.counts_ascending documents).imp ?_)
    intro first second below
    exact String.ne_of_lt below
  constructor
  case field => rfl
  case path => rfl
  case positive =>
      intro entry member
      obtain ⟨someDocument, isEntry⟩ := counted member
      rw [isEntry]
      exact List.countP_pos_iff.mpr someDocument
  case total =>
      intro entry member drilled answers
      rw [(counted member).2, Store.total_drillingDown keepsAll isFound answers, isDocuments]
  case complete =>
      intro all term drilled answers some
      rw [Store.total_drillingDown keepsAll isFound answers, isDocuments,
        List.countP_pos_iff] at some
      have inCounts : ⟨term, documents.countP (facet.drilldown term).holds, none⟩ ∈
          facet.counts documents := mem_counts_iff.mpr ⟨some, rfl⟩
      have unlimited : (facet.count documents).terms = facet.sorted (facet.counts documents) :=
        if_pos all
      rw [unlimited]
      exact List.mem_map_of_mem (sorted.mem_iff.mpr inCounts)
  case distinct => exact (kept.map _).nodup ((sorted.map _).nodup_iff.mpr distinct)
  case ordered => exact (sorted_ordered (facet.counts_ascending documents)).sublist kept
  case limited =>
      intro some
      have sameFound : CoreSearch.found { request with facets := [{ facet with maxTerms := 0 }] }
          store.documents = request.found store.documents :=
        CoreSearch.found_congr (fun _ => rfl) fun _ => rfl
      have isOrdered := QueryOptions.ordered_eq_rank keepsAll found
      refine ⟨_, ({ facet with maxTerms := 0 } : FacetRequest).count documents,
        Store.search_answered_iff.mpr
          ⟨found, ranked, sameFound.trans isFound, isOrdered.trans isRanked, rfl⟩,
        ?_, ?_⟩
      · rw [← isDocuments]
        rfl
      · exact if_neg (Nat.ne_of_gt some)

/-- In the answer to a search that keeps all documents found, the block of every facet asked for
gives the totals that drilling down to its terms has. The search with a drilldown answers unless the
documents left cannot be put in order; that happens only to more documents than are sorted by
insertion, and if the values they are sorted by cannot be ranked on a line. -/
theorem facets_drill_down {response : CoreResponse}
    (keepsAll : request.options.dedupField = none)
    (answers : store.search request = .answered response) :
    List.Forall₂ (FacetBlock.Tallies store request) request.facets (response.facets.getD []) ∧
      ∃ found, request.found store.documents = .ok found ∧ ∀ drilldown : Drilldown,
        (if (Scored.rank request.options.sortKeys (drilldown.within found)).isSome = true then
          ∃ drilled, store.search (request.drillingDown drilldown) = .answered drilled
        else store.search (request.drillingDown drilldown) = .panicked) ∧
        ((drilldown.within found).length ≤ insertionLength ∨
          (∀ key ∈ request.options.sortKeys,
            IsPreorderOn compareValues (Scored.valuesUnder key found)) →
          ∃ drilled, store.search (request.drillingDown drilldown) = .answered drilled) := by
  obtain ⟨found, ranked, isFound, isOrdered, rfl⟩ := Store.search_answered_iff.mp answers
  rw [QueryOptions.ordered_eq_rank keepsAll] at isOrdered
  have blocks : (store.respond request found ranked).facets.getD [] =
      request.facets.map (·.count (found.map (·.document))) := by
    unfold Store.respond
    cases request.facets <;> rfl
  refine ⟨?_, found, isFound, fun drilldown => ?_⟩
  · rw [blocks, List.forall₂_map_right_iff, List.forall₂_same]
    intro facet _
    exact facet.tallies_count keepsAll isFound isOrdered
  · have searched := Store.search_drillingDown keepsAll isFound drilldown
    constructor
    · split at searched
      next isRanked =>
        obtain ⟨drilled, answered, -⟩ := searched
        rw [if_pos isRanked]
        exact ⟨drilled, answered⟩
      next unranked =>
        rw [if_neg unranked]
        exact searched
    · intro orderly
      rw [if_pos (Scored.rank_isSome_within drilldown orderly)] at searched
      obtain ⟨drilled, answered, -⟩ := searched
      exact ⟨drilled, answered⟩

end Drilling

def stories : Store where
  name := "stories"
  documents := [
    ((Document.addPath { id := "1" } "genre" ["fiction", "crime"]).addPath "genre"
      ["fiction", "crime", "noir"]).addPath "genre" ["fiction", "horror"],
    Document.addPath { id := "2" } "genre" ["fiction", "crime"],
    Document.addPath { id := "3" } "genre" ["history", "crime"]]

def storiesRequest : CoreSearch Expression where
  facets := [⟨"genre", ["fiction"], 0, some .count⟩]

theorem stories_drill_down :
    storiesRequest.options.dedupField = none ∧ ∃ response drilled block,
      stories.search storiesRequest = .answered response ∧ response.facets = some [block] ∧
        block.terms.map (fun entry => (entry.term, entry.count)) = [("crime", 2), ("horror", 1)] ∧
        stories.search (storiesRequest.drillingDown ⟨"genre", ["fiction", "crime"]⟩) =
          .answered drilled ∧ drilled.total = 2 := by
  have answers : stories.search storiesRequest = .answered _ := rfl
  obtain ⟨tallies, found, isFound, drills⟩ := facets_drill_down rfl answers
  obtain ⟨drilled, isDrilled⟩ := (drills ⟨"genre", ["fiction", "crime"]⟩).2 (Or.inr nofun)
  cases tallies with
  | cons ofFacet _ =>
      refine ⟨rfl, _, drilled, _, answers, rfl, by decide +kernel, isDrilled, ?_⟩
      refine ofFacet.total ⟨"crime", 2, none⟩ ?_ drilled isDrilled
      exact List.mem_of_getElem? (i := 0) (by rfl)

/-- Years that go round in a circle, as they do in `years_circular`. All documents stand in one
rising row; without two of them that are not on the shelf the row is broken. -/
def shelvedYears : Store where
  name := "A"
  documents := (List.range 23).map fun index =>
    let dated := Document.addValue { id := toString index } "year"
      (["9", "10", "1a"][index % 3]?.getD "")
    if index % 9 = 8 then dated else dated.addPath "shelf" ["x"]

def shelvedRequest : CoreSearch Expression where
  facets := [⟨"shelf", [], 0, none⟩]
  options := { stop := some 0, sortKeys := [⟨"A", "year", false⟩] }

/-- The search counts 21 documents on the shelf, and the search for these breaks off. -/
theorem shelvedYears_break : shelvedRequest.options.dedupField = none ∧ (∃ response,
    shelvedYears.search shelvedRequest = .answered response ∧ response.total = 23 ∧
      response.facets.map (·.map fun block => block.terms.map fun entry =>
        (entry.term, entry.count)) = some [[("x", 21)]]) ∧
    shelvedYears.search (shelvedRequest.drillingDown ⟨"shelf", ["x"]⟩) = .panicked := by
  have keepsAll : shelvedRequest.options.dedupField = none := rfl
  generalize isWhole : shelvedYears.documents.map (⟨·, 1⟩ : Document → Scored) = found
  have isFound : shelvedRequest.found shelvedYears.documents = .ok found := by
    rw [← isWhole]
    rfl
  have ranked : (Scored.rank shelvedRequest.options.sortKeys found).map List.length = some 23 := by
    rw [← isWhole]
    decide +kernel
  have broken : (Scored.rank shelvedRequest.options.sortKeys
      (Drilldown.within ⟨"shelf", ["x"]⟩ found)).isSome = false := by
    rw [← isWhole]
    decide +kernel
  have counted : shelvedRequest.facets.map (fun facet =>
      (facet.count (found.map (·.document))).terms.map fun entry => (entry.term, entry.count)) =
        [[("x", 21)]] := by
    rw [← isWhole]
    decide +kernel
  obtain ⟨ordered, isRanked, total⟩ := Option.map_eq_some_iff.mp ranked
  have isOrdered := (QueryOptions.ordered_eq_rank keepsAll found).trans isRanked
  refine ⟨keepsAll, ⟨_, Store.search_answered_iff.mpr ⟨_, ordered, isFound, isOrdered, rfl⟩, total,
    congrArg some counted⟩, ?_⟩
  have searched := Store.search_drillingDown keepsAll isFound ⟨"shelf", ["x"]⟩
  rw [broken] at searched
  exact searched

end FederatedSearch
