import FederatedSearch.Federation.Backend
import FederatedSearch.Proofs.Admission
import FederatedSearch.Proofs.CollectedKeys
import FederatedSearch.Proofs.Counterparts
import FederatedSearch.Proofs.Executions

/-! Requests to stores: the documents a request finds, said of the documents of both cores at once,
without phases and keys. A document of the results core is joined if it has what is asked of it, if
a document of the counterpart that has what is asked of that shares a key with it, and if a document
of some unite does. -/

namespace FederatedSearch

variable {Q : Type}

def SharesKey (one : Document) (field : String) (other : Document) (otherField : String) : Prop :=
  ∃ key ∈ one.values field, key ∈ other.values otherField

instance (one : Document) (field : String) (other : Document) (otherField : String) :
    Decidable (SharesKey one field other otherField) :=
  inferInstanceAs (Decidable (∃ key ∈ one.values field, key ∈ other.values otherField))

namespace ComposedQuery

def everyQuery (query : ComposedQuery Q) : List Q :=
  query.bundles.flatMap (fun bundle =>
    bundle.query.toList ++ bundle.filters ++ bundle.rankQuery.toList) ++
  query.unites.map (·.query)

variable (query : ComposedQuery Expression) (stores : String → Store)

def Supported : Prop :=
  ∀ part ∈ query.everyQuery, part.Supported

def Satisfied (core : String) (document : Document) : Prop :=
  (∀ part ∈ query.queriesFor core, part.accepts document = true) ∧
    ∀ drilldown ∈ query.drilldownsFor core, drilldown.holds document = true

instance (core : String) (document : Document) : Decidable (query.Satisfied core document) :=
  inferInstanceAs (Decidable (_ ∧ _))

def Joined (results : String) (document : Document) : Prop :=
  query.Satisfied results document ∧
    (∀ other ∈ query.counterpart?, query.constrains other.core = true →
      ∃ partner ∈ (stores other.core).documents, query.Satisfied other.core partner ∧
        SharesKey partner other.key document other.resultsKey) ∧
    (query.unites ≠ [] → ∃ other ∈ query.counterpart?, ∃ unite ∈ query.unites,
      ∃ partner ∈ (stores unite.core).documents, unite.query.accepts partner = true ∧
        SharesKey partner unite.keyName document other.resultsKey)

instance (results : String) (document : Document) :
    Decidable (query.Joined stores results document) :=
  inferInstanceAs (Decidable (_ ∧ _ ∧ _))

def joined (results : String) : List Document :=
  (stores results).documents.filter fun document => query.Joined stores results document

/-- The documents of the counterpart that have what is asked of them and share a key with a joined
document, in the order of the store. -/
def joinedAt (results : String) (other : Counterpart) : List Document :=
  (stores other.core).documents.filter fun document =>
    query.Satisfied other.core document ∧
      ∃ found ∈ query.joined stores results,
        SharesKey document other.key found other.resultsKey

def facetBlocks (results : String) : List FacetBlock :=
  (query.facetsFor results).map (fun facet =>
    (facet.count (query.joined stores results)).tagged results) ++
  query.counterpart?.toList.flatMap fun other =>
    (query.facetsFor other.core).map fun facet =>
      (facet.count (query.joinedAt stores results other)).tagged other.core

def rankedHits (results : String) : Option (List Scored) :=
  (query.options.forCore results).ordered
    ((query.joined stores results).map (Scored.under (query.rankQueryFor results)))

end ComposedQuery

def Backends.federator {Q : Type} (backends : Backends Q) (config : FederatorConfig) : Federator :=
  ⟨config, SortedSet.ofList backends.keys⟩

def Backends.Serve (backends : Backends Expression) (stores : String → Store)
    (query : ComposedQuery Expression) : Prop :=
  ∀ plan, JoinPlan.ofQuery query = .ok plan →
    ∀ core ∈ plan.cores, backends.get? core = some (stores core).backend

variable {query : ComposedQuery Expression} {stores : String → Store} {results core : String}
  {search : CoreSearch Expression}

/-! What a search of the request asks is supported. -/

namespace ComposedQuery

theorem mem_everyQuery_of_bundle {bundle : Bundle Q} {query : ComposedQuery Q} {core : String}
    (found : query.bundle? core = some bundle) {part : Q}
    (member : part ∈ bundle.query.toList ++ bundle.filters ++ bundle.rankQuery.toList) :
    part ∈ query.everyQuery := by
  have inBundles : bundle ∈ query.bundles := List.mem_of_find?_eq_some found
  exact List.mem_append_left _ (List.mem_flatMap.mpr ⟨bundle, inBundles, member⟩)

theorem Supported.queriesFor (supported : query.Supported) :
    ∀ part ∈ query.queriesFor core, part.Supported := by
  intro part member
  unfold ComposedQuery.queriesFor queryFor filtersFor at member
  cases found : query.bundle? core with
  | none => simp [found] at member
  | some bundle =>
      refine supported part (mem_everyQuery_of_bundle found (List.mem_append_left _ ?_))
      simpa [found] using member

theorem Supported.rankQueryFor (supported : query.Supported) :
    ∀ rank ∈ query.rankQueryFor core, rank.Supported := by
  intro rank member
  unfold ComposedQuery.rankQueryFor at member
  cases found : query.bundle? core with
  | none => simp [found] at member
  | some bundle =>
      refine supported rank (mem_everyQuery_of_bundle found (List.mem_append_right _ ?_))
      simpa [found] using member

theorem Supported.unite (supported : query.Supported) {unite : Unite Expression}
    (member : unite ∈ query.unites) : unite.query.Supported :=
  supported _ (List.mem_append_right _ (List.mem_map_of_mem member))

end ComposedQuery

theorem supported_joinSearch (supported : query.Supported) (key : String) :
    (joinSearch query core key).Supported :=
  ⟨supported.queriesFor, by simp [joinSearch, coreSearch]⟩

theorem supported_facetSearch (supported : query.Supported) (key : String)
    (keys : SortedSet String) : (facetSearch query core key keys).Supported :=
  ⟨supported.queriesFor, by simp [facetSearch, coreSearch]⟩

theorem supported_uniteSearch (supported : query.Supported) {unite : Unite Expression}
    (member : unite ∈ query.unites) : (uniteSearch unite).Supported := by
  refine ⟨?_, by simp [uniteSearch]⟩
  intro part inSearch
  have isQuery : part = unite.query := by
    simpa [uniteSearch, CoreSearch.queries] using inSearch
  rw [isQuery]
  exact supported.unite member

/-! Which documents a search of the request admits. -/

theorem KeyFilter.holds_iff {filter : KeyFilter} {document : Document} :
    filter.holds document = true ↔
      ∃ key ∈ document.values filter.field, filter.keys.contains key = true := by
  unfold KeyFilter.holds
  exact List.any_eq_true

theorem CoreSearch.admits_iff {document : Document}
    (queries : search.queries = query.queriesFor core)
    (drilldowns : search.drilldowns = query.drilldownsFor core) :
    search.admits document = true ↔ query.Satisfied core document ∧
      ∀ filter ∈ search.keyFilters, filter.holds document = true := by
  unfold CoreSearch.admits ComposedQuery.Satisfied
  rw [queries, drilldowns, Bool.and_eq_true, Bool.and_eq_true, List.all_eq_true, List.all_eq_true,
    List.all_eq_true]

theorem admits_joinSearch {key : String} {document : Document} :
    (joinSearch query core key).admits document = true ↔ query.Satisfied core document := by
  rw [CoreSearch.admits_iff rfl rfl]
  simp [joinSearch, coreSearch]

theorem admits_uniteSearch {unite : Unite Expression} {document : Document} :
    (uniteSearch unite).admits document = true ↔ unite.query.accepts document = true := by
  simp [CoreSearch.admits, uniteSearch, CoreSearch.queries]

theorem contains_keys_answer {store : Store} {request : CoreSearch Expression}
    (supported : request.Supported) (unordered : request.options.sortKeys = []) {field key : String}
    (collects : request.collectKeys = some field) :
    (store.answer request).keys.contains key = true ↔
      ∃ document ∈ store.documents, request.admits document = true ∧
        key ∈ document.values field := by
  unfold CoreResponse.keys
  rw [Store.collectedKeys_answer supported unordered, collects]
  simp only [Option.map_some, Option.getD_some, SortedSet.contains_ofList, List.mem_flatMap,
    List.mem_filter]
  constructor
  · rintro ⟨document, ⟨inStore, admitted⟩, hasKey⟩
    exact ⟨document, inStore, admitted, hasKey⟩
  · rintro ⟨document, inStore, admitted, hasKey⟩
    exact ⟨document, ⟨inStore, admitted⟩, hasKey⟩

theorem holds_keys_answer {store : Store} {request : CoreSearch Expression}
    (supported : request.Supported) (unordered : request.options.sortKeys = [])
    {field resultsKey : String} (collects : request.collectKeys = some field)
    {document : Document} :
    (KeyFilter.mk resultsKey (store.answer request).keys).holds document = true ↔
      ∃ partner ∈ store.documents, request.admits partner = true ∧
        SharesKey partner field document resultsKey := by
  rw [KeyFilter.holds_iff]
  constructor
  · rintro ⟨key, hasKey, collected⟩
    obtain ⟨partner, inStore, admitted, partnerHasKey⟩ :=
      (contains_keys_answer supported unordered collects).mp collected
    exact ⟨partner, inStore, admitted, key, partnerHasKey, hasKey⟩
  · rintro ⟨partner, inStore, admitted, key, partnerHasKey, hasKey⟩
    exact ⟨key, hasKey, (contains_keys_answer supported unordered collects).mpr
      ⟨partner, inStore, admitted, partnerHasKey⟩⟩

theorem holds_unionOf {sets : List (SortedSet String)} {field : String} {document : Document} :
    (KeyFilter.mk field (unionOf sets)).holds document = true ↔
      ∃ keys ∈ sets, (KeyFilter.mk field keys).holds document = true := by
  simp only [KeyFilter.holds_iff, contains_unionOf]
  constructor
  · rintro ⟨key, hasKey, keys, inSets, collected⟩
    exact ⟨keys, inSets, key, hasKey, collected⟩
  · rintro ⟨keys, inSets, key, hasKey, collected⟩
    exact ⟨key, hasKey, keys, inSets, collected⟩

theorem holds_keyFilters {collected : List PurposedKeys} {field : String} {document : Document} :
    (∀ filter ∈ (combineKeys collected).map (KeyFilter.mk field), filter.holds document = true) ↔
      (∀ keys, (Purpose.join, keys) ∈ collected →
        (KeyFilter.mk field keys).holds document = true) ∧
      ((∃ keys, (Purpose.unite, keys) ∈ collected) →
        ∃ keys, (Purpose.unite, keys) ∈ collected ∧
          (KeyFilter.mk field keys).holds document = true) := by
  simp only [← mem_keysFor]
  rw [combineKeys_eq, List.forall_mem_map]
  cases united : keysFor .unite collected with
  | nil => simp
  | cons first others =>
      simp only [List.isEmpty_cons, Bool.false_eq_true, if_false, List.forall_mem_append,
        List.forall_mem_singleton, holds_unionOf]
      have some : ∃ keys, keys ∈ first :: others := ⟨first, List.mem_cons_self⟩
      simp only [some, forall_const]

/-! What is collected from stores. -/

def storeAnswer (stores : String → Store) (core : String) (search : CoreSearch Expression) :
    CoreResponse :=
  (stores core).answer search

def storeKeys (stores : String → Store) (search : String × Purpose × CoreSearch Expression) :
    PurposedKeys :=
  (search.2.1, (storeAnswer stores search.1 search.2.2).keys)

section Joins

variable {plan : JoinPlan} {other : Counterpart} {collected : List PurposedKeys}

theorem mem_planned_join (joins : plan.Joins query results other) {keys : SortedSet String} :
    (Purpose.join, keys) ∈
        (plannedSearches query (plan.joinCores.map (·, other.key))).map (storeKeys stores) ↔
      query.constrains other.core = true ∧
        keys = ((stores other.core).answer (joinSearch query other.core other.key)).keys := by
  unfold plannedSearches
  rw [joins.joinCores]
  cases query.constrains other.core <;> simp [storeKeys, storeAnswer, eq_comm]

theorem mem_planned_unite {joinKeys : List (String × String)} {keys : SortedSet String} :
    (Purpose.unite, keys) ∈ (plannedSearches query joinKeys).map (storeKeys stores) ↔
      ∃ unite ∈ query.unites,
        keys = ((stores unite.core).answer (uniteSearch unite)).keys := by
  unfold plannedSearches
  simp [storeKeys, storeAnswer, eq_comm]

theorem holds_joinKeys (supported : query.Supported) (joins : plan.Joins query results other)
    (perm : collected.Perm
      ((plannedSearches query (plan.joinCores.map (·, other.key))).map (storeKeys stores)))
    {document : Document} :
    (∀ keys, (Purpose.join, keys) ∈ collected →
        (KeyFilter.mk other.resultsKey keys).holds document = true) ↔
      (query.constrains other.core = true → ∃ partner ∈ (stores other.core).documents,
        query.Satisfied other.core partner ∧
          SharesKey partner other.key document other.resultsKey) := by
  have isSupported : (joinSearch query other.core other.key).Supported :=
    supported_joinSearch supported other.key
  have admitted : (KeyFilter.mk other.resultsKey
      ((stores other.core).answer (joinSearch query other.core other.key)).keys).holds document =
        true ↔ _ := holds_keys_answer isSupported rfl rfl
  simp only [admits_joinSearch] at admitted
  simp only [perm.mem_iff, mem_planned_join joins, ← admitted]
  constructor
  · intro every constrained
    exact every _ ⟨constrained, rfl⟩
  · rintro found keys ⟨constrained, rfl⟩
    exact found constrained

theorem holds_uniteKeys (supported : query.Supported) {joinKeys : List (String × String)}
    (perm : collected.Perm ((plannedSearches query joinKeys).map (storeKeys stores)))
    {document : Document} {resultsKey : String} :
    ((∃ keys, (Purpose.unite, keys) ∈ collected) → ∃ keys, (Purpose.unite, keys) ∈ collected ∧
        (KeyFilter.mk resultsKey keys).holds document = true) ↔
      (query.unites ≠ [] → ∃ unite ∈ query.unites, ∃ partner ∈ (stores unite.core).documents,
        unite.query.accepts partner = true ∧
          SharesKey partner unite.keyName document resultsKey) := by
  have admitted (unite : Unite Expression) (member : unite ∈ query.unites) :
      (KeyFilter.mk resultsKey ((stores unite.core).answer (uniteSearch unite)).keys).holds
        document = true ↔ _ := holds_keys_answer (supported_uniteSearch supported member) rfl rfl
  simp only [admits_uniteSearch] at admitted
  simp only [perm.mem_iff, mem_planned_unite]
  have nonempty : (∃ keys, ∃ unite ∈ query.unites,
      keys = ((stores unite.core).answer (uniteSearch unite)).keys) ↔ query.unites ≠ [] := by
    rw [List.ne_nil_iff_exists_cons]
    constructor
    · rintro ⟨_, unite, member, _⟩
      exact List.exists_cons_of_ne_nil (List.ne_nil_of_mem member)
    · rintro ⟨unite, others, listed⟩
      exact ⟨_, unite, by rw [listed]; exact List.mem_cons_self, rfl⟩
  rw [nonempty]
  refine forall_congr' fun _ => ?_
  constructor
  · rintro ⟨_, ⟨unite, member, rfl⟩, holds⟩
    exact ⟨unite, member, (admitted unite member).mp holds⟩
  · rintro ⟨unite, member, found⟩
    exact ⟨_, ⟨unite, member, rfl⟩, (admitted unite member).mpr found⟩

theorem admits_primarySearch (supported : query.Supported) (paired : query.Paired results other)
    (joins : plan.Joins query results other)
    (perm : collected.Perm
      ((plannedSearches query (plan.joinCores.map (·, other.key))).map (storeKeys stores)))
    {document : Document} :
    (primarySearch query plan other.resultsKey (combineKeys collected)).admits document = true ↔
      query.Joined stores results document := by
  have ofResults : (primarySearch query plan other.resultsKey (combineKeys collected)).admits
      document = true ↔ query.Satisfied results document ∧
        ∀ filter ∈ (combineKeys collected).map (KeyFilter.mk other.resultsKey),
          filter.holds document = true := by
    rw [← joins.resultsCore]
    exact CoreSearch.admits_iff rfl rfl
  rw [ofResults, holds_keyFilters, holds_joinKeys supported joins perm,
    holds_uniteKeys supported perm]
  unfold ComposedQuery.Joined
  simp [paired.isCounterpart]

/-- The search for the facets of the counterpart admits what is joined to the response. -/
theorem admits_facetSearch {keys : SortedSet String} {found : List Document}
    (collected : ∀ key, keys.contains key = true ↔
      ∃ document ∈ found, key ∈ document.values other.resultsKey) {document : Document} :
    (facetSearch query other.core other.key keys).admits document = true ↔
      query.Satisfied other.core document ∧
        ∃ partner ∈ found, SharesKey document other.key partner other.resultsKey := by
  rw [CoreSearch.admits_iff rfl rfl]
  simp only [facetSearch, List.forall_mem_singleton, KeyFilter.holds_iff, collected]
  refine and_congr_right fun _ => ?_
  constructor
  · rintro ⟨key, hasKey, partner, inFound, partnerHasKey⟩
    exact ⟨partner, inFound, key, hasKey, partnerHasKey⟩
  · rintro ⟨partner, inFound, key, hasKey, partnerHasKey⟩
    exact ⟨key, hasKey, partner, inFound, partnerHasKey⟩

theorem supported_planned (supported : query.Supported) {joinKeys : List (String × String)}
    {planned : String × Purpose × CoreSearch Expression}
    (member : planned ∈ plannedSearches query joinKeys) :
    planned.2.2.Supported ∧ planned.2.2.options.sortKeys = [] := by
  rcases List.mem_append.mp member with ofJoin | ofUnite
  · obtain ⟨joinKey, _, rfl⟩ := List.mem_map.mp ofJoin
    exact ⟨supported_joinSearch supported joinKey.2, rfl⟩
  · obtain ⟨unite, inUnites, rfl⟩ := List.mem_map.mp ofUnite
    exact ⟨supported_uniteSearch supported inUnites, rfl⟩

end Joins

end FederatedSearch
