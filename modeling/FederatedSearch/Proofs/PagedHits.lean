import FederatedSearch.Proofs.KeptDocuments

/-! What the order and the page of a search leave alone. Ranking changes which documents come first,
and of those taken as one perhaps which is kept, but not how many there are nor what is counted and
collected from them. Pages are cut out of one list, in which no document stands twice. -/

namespace FederatedSearch

/-! Stores, and the identifiers of their documents -/

inductive Store.Built : Store → Prop
  | ofDocuments (name : String) (documents : List Document) : Built (.ofDocuments name documents)
  | add {store : Store} (before : Built store) (document : Document) : Built (store.add document)
  | delete {store : Store} (before : Built store) (id : String) : Built (store.delete id)

theorem ids_putDocument (document : Document) (documents : List Document) :
    (putDocument document documents).map (·.id) =
      if document.id ∈ documents.map (·.id) then documents.map (·.id)
      else documents.map (·.id) ++ [document.id] := by
  induction documents with
  | nil => rfl
  | cons other rest ih =>
      rw [putDocument]
      by_cases same : other.id = document.id
      · simp [same]
      · rw [if_neg same, List.map_cons, List.map_cons, ih]
        simp only [List.mem_cons, Ne.symm same, false_or]
        split <;> rfl

theorem nodup_ids_putDocument (document : Document) {documents : List Document}
    (distinct : (documents.map (·.id)).Nodup) :
    ((putDocument document documents).map (·.id)).Nodup := by
  rw [ids_putDocument]
  split
  next => exact distinct
  next isNew => exact List.nodup_append.mpr ⟨distinct, by simp, by simpa using isNew⟩

namespace Store

theorem nodup_ids_foldl_add (documents : List Document) {store : Store}
    (distinct : (store.documents.map (·.id)).Nodup) :
    ((documents.foldl add store).documents.map (·.id)).Nodup := by
  induction documents generalizing store with
  | nil => exact distinct
  | cons document rest ih => exact ih (nodup_ids_putDocument document distinct)

theorem Built.nodup_ids {store : Store} (built : store.Built) :
    (store.documents.map (·.id)).Nodup := by
  induction built with
  | ofDocuments name documents => exact nodup_ids_foldl_add documents List.nodup_nil
  | add before document ih => exact nodup_ids_putDocument document ih
  | delete before id ih => exact (List.filter_sublist.map _).nodup ih

end Store

/-! The order of the hits -/

theorem Scored.countApart_congr {first second : List Scored} (field : String)
    (same : first.map (·.document) = second.map (·.document)) :
    countApart field first = countApart field second := by
  have ofDocuments (found : List Scored) : countApart field found =
      (found.map (·.document)).countP (·.firstValue? field = none) +
        ((found.map (·.document)).filterMap (·.firstValue? field)).toFinset.card := by
    rw [List.countP_map, List.filterMap_map]
    rfl
  rw [ofDocuments, ofDocuments, same]

theorem Scored.map_hit_id (found : List Scored) :
    (found.map (·.hit)).map (·.id) = (found.map (·.document)).map (·.id) := by
  simp [Scored.hit]

theorem Scored.dedup_sublist (field : String) (sortField : Option String) (ranked : List Scored) :
    (dedup field sortField ranked).Sublist ranked := by
  have kept := (List.filter_sublist (l := ranked.zipIdx)
    (p := fun entry => isKept field sortField ranked entry.1 entry.2)).map (·.1)
  rwa [List.zipIdx_map_fst] at kept

namespace QueryOptions

variable {options : QueryOptions} {found ordered : List Scored}

theorem ordered_subperm (isOrdered : options.ordered found = some ordered) :
    ordered.Subperm found := by
  obtain ⟨ranked, isRanked, rfl⟩ := Option.map_eq_some_iff.mp isOrdered
  refine List.Subperm.trans ?_ (Scored.rank_perm isRanked).subperm
  cases options.dedupField with
  | none => exact List.Subperm.refl ranked
  | some field => exact (Scored.dedup_sublist field _ ranked).subperm

theorem ordered_perm (keepsAll : options.dedupField = none)
    (isOrdered : options.ordered found = some ordered) : ordered.Perm found :=
  Scored.rank_perm ((ordered_eq_rank keepsAll found).symm.trans isOrdered)

end QueryOptions

/-! Searches that differ in the order and the page of their hits -/

namespace CoreSearch

variable {Q α : Type}

def reordered (search : CoreSearch Q) (rankQuery : Option Q) (sortKeys : List SortKey)
    (start stop : Option Nat) : CoreSearch Q :=
  { search with rankQuery, options := { search.options with sortKeys, start, stop } }

def onPage (search : CoreSearch Q) (start stop : Nat) : CoreSearch Q :=
  search.reordered search.rankQuery search.options.sortKeys (some start) (some stop)

theorem page_append (search : CoreSearch Q) (items : List α) {i j k : Nat} (before : i ≤ j)
    (behind : j ≤ k) :
    (search.onPage i j).options.page items ++ (search.onPage j k).options.page items =
      (search.onPage i k).options.page items := by
  change (items.drop i).take (j - i) ++ (items.drop j).take (k - j) = (items.drop i).take (k - i)
  have parts : k - i = (j - i) + (k - j) := by omega
  have next : i + (j - i) = j := by omega
  rw [parts, List.take_add, List.drop_drop, next]

theorem page_whole (search : CoreSearch Q) (items : List α) :
    (search.onPage 0 items.length).options.page items = items := by
  change (items.drop 0).take (items.length - 0) = items
  rw [List.drop_zero, Nat.sub_zero, List.take_length]

end CoreSearch

structure SameMatches (first second : CoreResponse) : Prop where
  total : first.total = second.total
  facets : first.facets = second.facets
  collectedKeys : first.collectedKeys = second.collectedKeys
  suggestions : first.suggestions = second.suggestions

namespace Store

variable {store : Store} {request : CoreSearch Expression} {rankQuery : Option Expression}
  {sortKeys : List SortKey} {start stop : Option Nat} {found ordered : List Scored}

theorem documents_of_reordered {again : List Scored}
    (isFound : request.found store.documents = .ok found)
    (isAgain : (request.reordered rankQuery sortKeys start stop).found store.documents =
      .ok again) :
    again.map (·.document) = found.map (·.document) := by
  rw [CoreSearch.documents_of_found isFound, CoreSearch.documents_of_found isAgain]
  rfl

theorem sameMatches_reordered {first second : CoreResponse}
    (isFirst : store.search request = .answered first)
    (isSecond : store.search (request.reordered rankQuery sortKeys start stop) =
      .answered second) :
    SameMatches first second := by
  obtain ⟨found, ordered, isFound, isOrdered, rfl⟩ := search_answered_iff.mp isFirst
  obtain ⟨again, ordered', isAgain, isOrdered', rfl⟩ := search_answered_iff.mp isSecond
  have same := documents_of_reordered isFound isAgain
  have counted : ordered.length = ordered'.length := by
    have sameField : (request.reordered rankQuery sortKeys start stop).options.dedupField =
        request.options.dedupField := rfl
    rw [Scored.length_ordered isOrdered, Scored.length_ordered isOrdered', sameField]
    cases request.options.dedupField with
    | none => simpa using (congrArg List.length same).symm
    | some field => exact Scored.countApart_congr field same.symm
  constructor
  case total => exact counted
  case suggestions => rfl
  case facets | collectedKeys =>
      simp only [respond, same]
      rfl

theorem search_onPage (isFound : request.found store.documents = .ok found)
    (isOrdered : request.options.ordered found = some ordered) (start stop : Nat) :
    ∃ response, store.search (request.onPage start stop) = .answered response ∧
      response.hits = ((request.onPage start stop).options.page ordered).map (·.hit) := by
  have alike : (request.onPage start stop).found store.documents = request.found store.documents :=
    CoreSearch.found_congr (fun _ => rfl) (fun _ => rfl)
  exact ⟨_, search_answered_iff.mpr ⟨found, ordered, alike.trans isFound, isOrdered, rfl⟩, rfl⟩

/-- The page of all hits. -/
theorem search_whole (isFound : request.found store.documents = .ok found)
    (isOrdered : request.options.ordered found = some ordered) :
    ∃ whole, store.search (request.onPage 0 ordered.length) = .answered whole ∧
      whole.hits = ordered.map (·.hit) := by
  obtain ⟨whole, isWhole, hits⟩ := search_onPage isFound isOrdered 0 ordered.length
  exact ⟨whole, isWhole, by rw [hits, CoreSearch.page_whole]⟩

theorem ids_perm_reordered {first second : CoreResponse}
    (keepsAll : request.options.dedupField = none)
    (isFirst : store.search request = .answered first)
    (isSecond : store.search (request.reordered rankQuery sortKeys start stop) =
      .answered second) :
    ∃ whole whole', store.search (request.onPage 0 first.total) = .answered whole ∧
      store.search ((request.reordered rankQuery sortKeys start stop).onPage 0 second.total) =
        .answered whole' ∧
      (whole.hits.map (·.id)).Perm (whole'.hits.map (·.id)) := by
  obtain ⟨found, ordered, isFound, isOrdered, rfl⟩ := search_answered_iff.mp isFirst
  obtain ⟨again, ordered', isAgain, isOrdered', rfl⟩ := search_answered_iff.mp isSecond
  obtain ⟨whole, isWhole, hits⟩ := search_whole isFound isOrdered
  obtain ⟨whole', isWhole', hits'⟩ := search_whole isAgain isOrdered'
  have keepsAll' : (request.reordered rankQuery sortKeys start stop).options.dedupField = none :=
    keepsAll
  have perm := (QueryOptions.ordered_perm keepsAll isOrdered).map (·.document)
  have perm' := (QueryOptions.ordered_perm keepsAll' isOrdered').map (·.document)
  rw [documents_of_reordered isFound isAgain] at perm'
  refine ⟨whole, whole', isWhole, isWhole', ?_⟩
  rw [hits, hits', Scored.map_hit_id, Scored.map_hit_id]
  exact (perm.trans perm'.symm).map _

theorem hits_append {response : CoreResponse} (answers : store.search request = .answered response)
    {i j k : Nat} (before : i ≤ j) (behind : j ≤ k) :
    ∃ first second both, store.search (request.onPage i j) = .answered first ∧
      store.search (request.onPage j k) = .answered second ∧
      store.search (request.onPage i k) = .answered both ∧
      first.hits ++ second.hits = both.hits := by
  obtain ⟨found, ordered, isFound, isOrdered, -⟩ := search_answered_iff.mp answers
  obtain ⟨first, isFirst, hitsOfFirst⟩ := search_onPage isFound isOrdered i j
  obtain ⟨second, isSecond, hitsOfSecond⟩ := search_onPage isFound isOrdered j k
  obtain ⟨both, isBoth, hitsOfBoth⟩ := search_onPage isFound isOrdered i k
  refine ⟨first, second, both, isFirst, isSecond, isBoth, ?_⟩
  rw [hitsOfFirst, hitsOfSecond, hitsOfBoth, ← List.map_append,
    request.page_append ordered before behind]

theorem nodup_ids_ordered (built : store.Built)
    (isFound : request.found store.documents = .ok found)
    (isOrdered : request.options.ordered found = some ordered) :
    ((ordered.map (·.document)).map (·.id)).Nodup := by
  obtain ⟨kept, perm, sublist⟩ := QueryOptions.ordered_subperm isOrdered
  have stored : ((found.map (·.document)).map (·.id)).Sublist (store.documents.map (·.id)) := by
    rw [CoreSearch.documents_of_found isFound]
    exact List.filter_sublist.map _
  have distinct := ((sublist.map (·.document)).map (·.id)).nodup (stored.nodup built.nodup_ids)
  exact ((perm.map (·.document)).map (·.id)).nodup_iff.mp distinct

theorem whole_distinct {response : CoreResponse} (built : store.Built)
    (answers : store.search request = .answered response) :
    ∃ whole, store.search (request.onPage 0 response.total) = .answered whole ∧
      whole.hits.length = response.total ∧ (whole.hits.map (·.id)).Nodup := by
  obtain ⟨found, ordered, isFound, isOrdered, rfl⟩ := search_answered_iff.mp answers
  obtain ⟨whole, isWhole, hits⟩ := search_whole isFound isOrdered
  refine ⟨whole, isWhole, ?_, ?_⟩
  · rw [hits, List.length_map]
    rfl
  · rw [hits, Scored.map_hit_id]
    exact nodup_ids_ordered built isFound isOrdered

end Store

/-- A search tells the same of what it matches in any order and on any page, and, unless documents
are taken as one, the hits of all of them together are the same but for their order. The pages of an
answered search are answered and put together as they are cut; that of all hits has as many as are
counted, and no document twice. -/
theorem order_and_page_keep_matches {store : Store} (built : store.Built)
    (request : CoreSearch Expression) :
    (∀ rankQuery sortKeys start stop first second,
      store.search request = .answered first →
      store.search (request.reordered rankQuery sortKeys start stop) = .answered second →
        SameMatches first second ∧
        (request.options.dedupField = none →
          ∃ whole whole', store.search (request.onPage 0 first.total) = .answered whole ∧
            store.search ((request.reordered rankQuery sortKeys start stop).onPage 0
              second.total) = .answered whole' ∧
            (whole.hits.map (·.id)).Perm (whole'.hits.map (·.id)))) ∧
    ∀ response, store.search request = .answered response →
      (∀ i j k, i ≤ j → j ≤ k →
        ∃ first second both, store.search (request.onPage i j) = .answered first ∧
          store.search (request.onPage j k) = .answered second ∧
          store.search (request.onPage i k) = .answered both ∧
          first.hits ++ second.hits = both.hits) ∧
      ∃ whole, store.search (request.onPage 0 response.total) = .answered whole ∧
        whole.hits.length = response.total ∧ (whole.hits.map (·.id)).Nodup := by
  refine ⟨?_, ?_⟩
  · intro rankQuery sortKeys start stop first second isFirst isSecond
    refine ⟨Store.sameMatches_reordered isFirst isSecond, fun keepsAll => ?_⟩
    exact Store.ids_perm_reordered keepsAll isFirst isSecond
  · intro response answers
    refine ⟨fun i j k before behind => ?_, Store.whole_distinct built answers⟩
    exact Store.hits_append answers before behind

def latestPrints : CoreSearch Expression :=
  .reordered {} (some (.ofField "year" "999")) [⟨"prints", "year", true⟩] (some 1) (some 3)

theorem prints_reordered :
    Scored.prints.Built ∧
    (∃ first second, Scored.prints.search {} = .answered first ∧
      Scored.prints.search latestPrints = .answered second ∧
      first.hits.map (·.id) = ["a", "b", "c", "d"] ∧ second.hits.map (·.id) = ["c", "a"] ∧
      SameMatches first second ∧
      ∃ whole whole', Scored.prints.search (.onPage {} 0 first.total) = .answered whole ∧
        Scored.prints.search (latestPrints.onPage 0 second.total) = .answered whole' ∧
        (whole.hits.map (·.id)).Perm (whole'.hits.map (·.id))) ∧
    ∃ response, Scored.prints.search Scored.worksRequest = .answered response ∧
      response.total = 2 ∧
      (∃ first second both, Scored.prints.search (Scored.worksRequest.onPage 0 1) =
          .answered first ∧
        Scored.prints.search (Scored.worksRequest.onPage 1 4) = .answered second ∧
        Scored.prints.search (Scored.worksRequest.onPage 0 4) = .answered both ∧
        first.hits ++ second.hits = both.hits) ∧
      ∃ whole, Scored.prints.search (Scored.worksRequest.onPage 0 response.total) =
          .answered whole ∧
        whole.hits.length = response.total ∧ (whole.hits.map (·.id)).Nodup := by
  have built : Scored.prints.Built := by
    have filled : Scored.prints = .ofDocuments "prints" Scored.prints.documents := by
      decide +kernel
    exact filled ▸ .ofDocuments "prints" Scored.prints.documents
  have isFound : latestPrints.found Scored.prints.documents =
      .ok (List.zipWith Scored.mk Scored.prints.documents [2, 1, 1, 1]) := rfl
  have ranks : (latestPrints.options.ordered
      (List.zipWith Scored.mk Scored.prints.documents [2, 1, 1, 1])).map
        (·.map (·.document.id)) = some ["b", "c", "a", "d"] := by
    decide +kernel
  obtain ⟨ordered, isOrdered, ids⟩ := Option.map_eq_some_iff.mp ranks
  have isSecond := Store.search_answered_iff.mpr ⟨_, ordered, isFound, isOrdered, rfl⟩
  obtain ⟨alike, -⟩ := order_and_page_keep_matches built {}
  obtain ⟨same, perm⟩ := alike _ _ _ _ _ _ rfl isSecond
  obtain ⟨-, pages⟩ := order_and_page_keep_matches built Scored.worksRequest
  obtain ⟨cut, whole⟩ := pages _ rfl
  refine ⟨built, ⟨_, _, rfl, isSecond, by decide +kernel, ?_, same, perm rfl⟩, ?_⟩
  · calc (((ordered.drop 1).take 2).map (·.hit)).map (·.id)
        = ((ordered.map (·.document.id)).drop 1).take 2 := by
          rw [Scored.map_hit_id, List.map_map, List.map_take, List.map_drop]
          rfl
      _ = ["c", "a"] := by rw [ids]; rfl
  · exact ⟨_, rfl, by decide +kernel, cut 0 1 4 (by decide) (by decide), whole⟩

end FederatedSearch
