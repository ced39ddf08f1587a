import FederatedSearch.Composed.Edit
import FederatedSearch.Proofs.PlannedCores

/-! Facets added to what a request asks of one core, and what stays as it was: all that is asked of
other cores, all that is asked of this one but its facets, and with them the searches for keys and
the filters that the keys make. -/

namespace FederatedSearch

variable {Q : Type}

theorem find?_changeBundle {core : String} {change : Bundle Q → Bundle Q}
    (keepsCore : ∀ bundle, bundle.core = core → (change bundle).core = core) (other : String)
    (bundles : List (Bundle Q)) :
    (changeBundle core change bundles).find? (·.core = other) =
      if other = core then some (change ((bundles.find? (·.core = core)).getD { core }))
      else bundles.find? (·.core = other) := by
  induction bundles with
  | nil =>
      have changed : (change { core }).core = core := keepsCore _ rfl
      by_cases same : other = core
      · simp [changeBundle, changed, same]
      · simp [changeBundle, changed, same, Ne.symm same]
  | cons bundle rest ih =>
      unfold changeBundle
      by_cases here : bundle.core = core
      · have changed : (change bundle).core = core := keepsCore bundle here
        rw [if_pos here]
        by_cases same : other = core
        · simp [changed, here, same]
        · simp [changed, here, same, Ne.symm same]
      · rw [if_neg here]
        by_cases found : bundle.core = other
        · have different : other ≠ core := fun same => here (found.trans same)
          simp [found, different]
        · simp [found, here, ih]

namespace ComposedQuery

variable {query changed : ComposedQuery Q} {core : String}

def bundleOf (query : ComposedQuery Q) (core : String) : Bundle Q :=
  (query.bundle? core).getD { core }

theorem bundleOf_change {change : Bundle Q → Bundle Q}
    (keepsCore : ∀ bundle, bundle.core = core → (change bundle).core = core) (other : String) :
    (query.change core change).bundleOf other =
      if other = core then change (query.bundleOf core) else query.bundleOf other := by
  unfold bundleOf bundle? ComposedQuery.change
  rw [find?_changeBundle keepsCore]
  by_cases same : other = core
  · simp [same]
  · simp [same]

theorem bundleOf_register (query : ComposedQuery Q) (core other : String) :
    (query.register core).bundleOf other = query.bundleOf other := by
  have keepsCore : ∀ bundle : Bundle Q, bundle.core = core → (id bundle).core = core :=
    fun _ same => same
  unfold register
  rw [bundleOf_change keepsCore]
  by_cases same : other = core
  · simp [same]
  · simp [same]

theorem bundleOf_setResultsCore (query : ComposedQuery Q) (results core : String) :
    (query.setResultsCore results).bundleOf core = query.bundleOf core :=
  bundleOf_register query results core

theorem registered_setResultsCore {results : String} :
    core ∈ (query.setResultsCore results).outline.registered ↔
      core ∈ query.outline.registered ∨ core = results := by
  change core ∈ (query.register results).outline.registered ↔ _
  rw [outline_register, Outline.mem_register]

theorem queryFor_eq (query : ComposedQuery Q) (core : String) :
    query.queryFor core = (query.bundleOf core).query := by
  unfold queryFor bundleOf
  cases query.bundle? core <;> rfl

theorem filtersFor_eq (query : ComposedQuery Q) (core : String) :
    query.filtersFor core = (query.bundleOf core).filters := by
  unfold filtersFor bundleOf
  cases query.bundle? core <;> rfl

theorem drilldownsFor_eq (query : ComposedQuery Q) (core : String) :
    query.drilldownsFor core = (query.bundleOf core).drilldowns := by
  unfold drilldownsFor bundleOf
  cases query.bundle? core <;> rfl

theorem facetsFor_eq (query : ComposedQuery Q) (core : String) :
    query.facetsFor core = (query.bundleOf core).facets := by
  unfold facetsFor bundleOf
  cases query.bundle? core <;> rfl

theorem rankQueryFor_eq (query : ComposedQuery Q) (core : String) :
    query.rankQueryFor core = (query.bundleOf core).rankQuery := by
  unfold rankQueryFor bundleOf
  cases query.bundle? core <;> rfl

theorem constrains_eq (query : ComposedQuery Q) (core : String) :
    query.constrains core = (query.bundleOf core).isConstrained := by
  rw [constrains, queryFor_eq, filtersFor_eq, drilldownsFor_eq]
  rfl

theorem coreSearch_eq (query : ComposedQuery Q) (core : String) :
    coreSearch query core =
      { query := (query.bundleOf core).query
        filters := (query.bundleOf core).filters
        drilldowns := (query.bundleOf core).drilldowns } := by
  rw [coreSearch, queryFor_eq, filtersFor_eq, drilldownsFor_eq]

/-- The two queries are the same but for what facets they ask of the core, and whether they register
it. -/
structure AddsFacets (core : String) (query changed : ComposedQuery Q) : Prop where
  resultsCore : changed.resultsCore = query.resultsCore
  matchings : changed.matchings = query.matchings
  unites : changed.unites = query.unites
  options : changed.options = query.options
  atCore : ∃ facets, changed.bundleOf core = { query.bundleOf core with facets }
  elsewhere : ∀ other, other ≠ core → changed.bundleOf other = query.bundleOf other
  registered : ∀ other ∈ query.outline.registered, other ∈ changed.outline.registered
  added : ∀ other ∈ changed.outline.registered, other ∈ query.outline.registered ∨ other = core

namespace AddsFacets

theorem refl (core : String) (query : ComposedQuery Q) : AddsFacets core query query :=
  ⟨rfl, rfl, rfl, rfl, ⟨_, rfl⟩, fun _ _ => rfl, fun _ => id, fun _ => Or.inl⟩

theorem addFacet (adds : AddsFacets core query changed) (facet : FacetRequest) :
    AddsFacets core query (changed.addFacet core facet) := by
  have keepsCore : ∀ bundle : Bundle Q, bundle.core = core →
      { bundle with facets := bundle.facets ++ [facet] }.core = core := fun _ same => same
  have outlined : (changed.addFacet core facet).outline = changed.outline.register core :=
    outline_change keepsCore
  refine ⟨adds.resultsCore, adds.matchings, adds.unites, adds.options, ?_, ?_, ?_, ?_⟩
  · obtain ⟨facets, same⟩ := adds.atCore
    refine ⟨facets ++ [facet], ?_⟩
    unfold ComposedQuery.addFacet
    rw [bundleOf_change keepsCore, if_pos rfl, same]
  · intro other different
    unfold ComposedQuery.addFacet
    rw [bundleOf_change keepsCore, if_neg different, adds.elsewhere other different]
  · intro other member
    rw [outlined, Outline.mem_register]
    exact Or.inl (adds.registered other member)
  · intro other member
    rw [outlined, Outline.mem_register] at member
    rcases member with before | isCore
    · exact adds.added other before
    · exact Or.inr isCore

theorem edited (adds : AddsFacets core query changed) (facets : List FacetRequest) :
    AddsFacets core query (changed.edited (facets.map (.addFacet core))) := by
  induction facets generalizing changed with
  | nil => exact adds
  | cons facet rest ih => exact ih (adds.addFacet facet)

theorem setResultsCore (adds : AddsFacets core query changed) (results : String) :
    AddsFacets core (query.setResultsCore results) (changed.setResultsCore results) := by
  refine ⟨rfl, adds.matchings, adds.unites, adds.options, ?_, ?_, ?_, ?_⟩
  · obtain ⟨facets, same⟩ := adds.atCore
    refine ⟨facets, ?_⟩
    rw [bundleOf_setResultsCore, bundleOf_setResultsCore, same]
  · intro other different
    rw [bundleOf_setResultsCore, bundleOf_setResultsCore, adds.elsewhere other different]
  · intro other member
    rw [registered_setResultsCore] at member ⊢
    exact member.imp_left (adds.registered other)
  · intro other member
    rw [registered_setResultsCore] at member ⊢
    rcases member with before | isResults
    · exact (adds.added other before).imp_left Or.inl
    · exact Or.inl (Or.inr isResults)

theorem withDefaultCore (adds : AddsFacets core query changed) (federator : Federator) :
    AddsFacets core (federator.withDefaultCore query) (federator.withDefaultCore changed) := by
  unfold Federator.withDefaultCore
  rw [adds.resultsCore]
  split
  · exact adds.setResultsCore _
  · exact adds

theorem constrains (adds : AddsFacets core query changed) (other : String) :
    changed.constrains other = query.constrains other := by
  rw [constrains_eq, constrains_eq]
  by_cases same : other = core
  · obtain ⟨facets, atCore⟩ := adds.atCore
    rw [same, atCore]
    rfl
  · rw [adds.elsewhere other same]

theorem joinSearch (adds : AddsFacets core query changed) (other key : String) :
    joinSearch changed other key = joinSearch query other key := by
  unfold FederatedSearch.joinSearch
  rw [coreSearch_eq, coreSearch_eq]
  by_cases same : other = core
  · obtain ⟨facets, atCore⟩ := adds.atCore
    rw [same, atCore]
  · rw [adds.elsewhere other same]

theorem resultsSearch (adds : AddsFacets core query changed) {results : String}
    (different : core ≠ results) : resultsSearch changed results = resultsSearch query results := by
  unfold FederatedSearch.resultsSearch
  rw [coreSearch_eq, coreSearch_eq, rankQueryFor_eq, rankQueryFor_eq, facetsFor_eq, facetsFor_eq,
    adds.elsewhere results different.symm, adds.options]

end AddsFacets

/-! The first phase -/

def joinedBy (query : ComposedQuery Q) : List (String × String) :=
  (query.counterpart?.toList.filter fun other => query.constrains other.core).map fun other =>
    (other.core, other.key)

def keyPhase (query : ComposedQuery Q) : List (String × Purpose × CoreSearch Q) :=
  plannedSearches query query.joinedBy

def keyFiltersOf (query : ComposedQuery Q) (keys : List (SortedSet String)) : List KeyFilter :=
  query.counterpart?.toList.flatMap fun other => keys.map (⟨other.resultsKey, ·⟩)

theorem keyPhase_of_free (noUnites : query.unites = [])
    (free : ∀ other ∈ query.counterpart?, query.constrains other.core = false) :
    query.keyPhase = [] := by
  unfold keyPhase plannedSearches joinedBy
  rw [noUnites]
  cases isCounterpart : query.counterpart? with
  | none => rfl
  | some other => simp [free other isCounterpart]

/-- With more cores registered the counterpart stays, if one core is still joined at most. -/
theorem counterpart?_eq_of_registered {results : String} {other : Counterpart}
    (isSet : query.resultsCore = some results) (isSetChanged : changed.resultsCore = some results)
    (matchings : changed.matchings = query.matchings)
    (registered : ∀ core ∈ query.outline.registered, core ∈ changed.outline.registered)
    (paired : query.Paired results other)
    (spansChanged : changed.Single results ∨ ∃ other, changed.Paired results other) :
    changed.counterpart? = query.counterpart? := by
  have inQuery : other.core ∈ query.cores.drop 1 := by simp [paired.cores]
  have inChanged : other.core ∈ changed.cores.drop 1 := by
    obtain ⟨wasRegistered, -⟩ := (mem_others isSet).mp inQuery
    exact (mem_others isSetChanged).mpr ⟨registered _ wasRegistered, paired.isOther⟩
  rcases spansChanged with single | ⟨otherChanged, pairedChanged⟩
  · simp [single.cores] at inChanged
  · have sameCore : other.core = otherChanged.core := by simpa [pairedChanged.cores] using inChanged
    unfold counterpart? keyNames?
    rw [pairedChanged.cores, paired.cores, sameCore, matchings]

namespace AddsFacets

variable {results : String}

end AddsFacets

end ComposedQuery

end FederatedSearch
