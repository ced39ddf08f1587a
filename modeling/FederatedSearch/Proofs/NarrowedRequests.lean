import FederatedSearch.Proofs.MergedResponses
import FederatedSearch.Proofs.NarrowedSearches
import FederatedSearch.Proofs.StoreResponses

/-! Requests that ask for more, of the results core or of another. What is added may turn the search
of one core into a join, or shrink the keys that a join already looks for; either way the results
core is searched for less, and no document comes in, on whatever page. -/

namespace FederatedSearch

variable {Q : Type}

inductive Edit.Narrows : Edit Q → Prop
  | addFilter (core : String) (filter : Q) : Narrows (.addFilter core filter)
  | addDrilldown (core : String) (drilldown : Drilldown) : Narrows (.addDrilldown core drilldown)
  | setStart (start : Nat) : Narrows (.setStart start)
  | setStop (stop : Nat) : Narrows (.setStop stop)

structure Bundle.Narrows (narrowed bundle : Bundle Q) : Prop where
  query : narrowed.query = bundle.query
  rankQuery : narrowed.rankQuery = bundle.rankQuery
  filters : bundle.filters ⊆ narrowed.filters
  drilldowns : bundle.drilldowns ⊆ narrowed.drilldowns

namespace Bundle.Narrows

variable {narrowed bundle : Bundle Q}

theorem refl (bundle : Bundle Q) : bundle.Narrows bundle :=
  ⟨rfl, rfl, List.Subset.refl _, List.Subset.refl _⟩

theorem trans {narrowest : Bundle Q} (narrows : narrowest.Narrows narrowed)
    (others : narrowed.Narrows bundle) : narrowest.Narrows bundle :=
  ⟨narrows.query.trans others.query, narrows.rankQuery.trans others.rankQuery,
    List.Subset.trans others.filters narrows.filters,
    List.Subset.trans others.drilldowns narrows.drilldowns⟩

theorem isConstrained (narrows : narrowed.Narrows bundle)
    (constrained : bundle.isConstrained = true) : narrowed.isConstrained = true := by
  simp only [Bundle.isConstrained, Bool.or_eq_true, Bool.not_eq_true', List.isEmpty_eq_false_iff]
    at constrained ⊢
  rw [narrows.query]
  rcases constrained with (asked | filtered) | drilled
  · exact Or.inl (Or.inl asked)
  · obtain ⟨filter, member⟩ := List.exists_mem_of_ne_nil _ filtered
    exact Or.inl (Or.inr (List.ne_nil_of_mem (narrows.filters member)))
  · obtain ⟨drilldown, member⟩ := List.exists_mem_of_ne_nil _ drilled
    exact Or.inr (List.ne_nil_of_mem (narrows.drilldowns member))

end Bundle.Narrows

namespace ComposedQuery

variable {query changed : ComposedQuery Q}

/-- The query asks for what the other asks for, and maybe for more, of any core. The pages may
differ. -/
structure Narrows (changed query : ComposedQuery Q) : Prop where
  resultsCore : changed.resultsCore = query.resultsCore
  matchings : changed.matchings = query.matchings
  unites : changed.unites = query.unites
  options : ∃ start stop, changed.options = { query.options with start, stop }
  bundles : ∀ core, (changed.bundleOf core).Narrows (query.bundleOf core)
  registered : ∀ core ∈ query.outline.registered, core ∈ changed.outline.registered

namespace Narrows

theorem refl (query : ComposedQuery Q) : query.Narrows query :=
  ⟨rfl, rfl, rfl, ⟨_, _, rfl⟩, fun _ => .refl _, fun _ => id⟩

theorem change (narrows : changed.Narrows query) {core : String} {change : Bundle Q → Bundle Q}
    (keepsCore : ∀ bundle, bundle.core = core → (change bundle).core = core)
    (narrowing : ∀ bundle, (change bundle).Narrows bundle) :
    (changed.change core change).Narrows query := by
  refine ⟨narrows.resultsCore, narrows.matchings, narrows.unites, narrows.options, ?_, ?_⟩
  · intro other
    rw [bundleOf_change keepsCore]
    split
    next same =>
      rw [same]
      exact (narrowing _).trans (narrows.bundles core)
    next => exact narrows.bundles other
  · intro other member
    rw [outline_change keepsCore, Outline.mem_register]
    exact Or.inl (narrows.registered other member)

theorem applyOrKeep (narrows : changed.Narrows query) {edit : Edit Q} (narrowing : edit.Narrows) :
    (edit.applyOrKeep changed).Narrows query := by
  cases narrowing with
  | addFilter core filter =>
      refine narrows.change (fun _ same => same) fun bundle => ?_
      exact ⟨rfl, rfl, List.subset_append_left _ _, List.Subset.refl _⟩
  | addDrilldown core drilldown =>
      refine narrows.change (fun _ same => same) fun bundle => ?_
      exact ⟨rfl, rfl, List.Subset.refl _, List.subset_append_left _ _⟩
  | setStart start =>
      obtain ⟨_, stop, options⟩ := narrows.options
      exact { narrows with options := ⟨some start, stop, congrArg ({ · with start }) options⟩ }
  | setStop stop =>
      obtain ⟨start, _, options⟩ := narrows.options
      exact { narrows with options := ⟨start, some stop, congrArg ({ · with stop }) options⟩ }

theorem edited (narrows : changed.Narrows query) {edits : List (Edit Q)}
    (narrowing : ∀ edit ∈ edits, edit.Narrows) : (changed.edited edits).Narrows query := by
  induction edits generalizing changed with
  | nil => exact narrows
  | cons edit rest ih =>
      obtain ⟨first, others⟩ := List.forall_mem_cons.mp narrowing
      exact ih (narrows.applyOrKeep first) others

theorem setResultsCore (narrows : changed.Narrows query) (results : String) :
    (changed.setResultsCore results).Narrows (query.setResultsCore results) := by
  refine ⟨rfl, narrows.matchings, narrows.unites, narrows.options, ?_, ?_⟩
  · intro core
    rw [bundleOf_setResultsCore, bundleOf_setResultsCore]
    exact narrows.bundles core
  · intro core member
    rw [registered_setResultsCore] at member ⊢
    exact member.imp_left (narrows.registered core)

theorem withDefaultCore (narrows : changed.Narrows query) (federator : Federator) :
    (federator.withDefaultCore changed).Narrows (federator.withDefaultCore query) := by
  unfold Federator.withDefaultCore
  rw [narrows.resultsCore]
  split
  · exact narrows.setResultsCore _
  · exact narrows

theorem constrains (narrows : changed.Narrows query) {core : String}
    (constrained : query.constrains core = true) : changed.constrains core = true := by
  rw [constrains_eq] at constrained ⊢
  exact (narrows.bundles core).isConstrained constrained

end Narrows

theorem mem_keyPhase_join_iff {core : String} {search : CoreSearch Q} :
    (core, Purpose.join, search) ∈ query.keyPhase ↔ ∃ other ∈ query.counterpart?,
      query.constrains other.core = true ∧ core = other.core ∧
        search = joinSearch query other.core other.key := by
  simp only [keyPhase, plannedSearches, joinedBy, List.map_map, List.mem_append, List.mem_map,
    List.mem_filter, Option.mem_toList, Function.comp_apply, Prod.mk.injEq, reduceCtorEq,
    false_and, and_false, exists_false, or_false, true_and]
  constructor
  · rintro ⟨other, ⟨isCounterpart, constrained⟩, rfl, rfl⟩
    exact ⟨other, isCounterpart, constrained, rfl, rfl⟩
  · rintro ⟨other, isCounterpart, constrained, rfl, rfl⟩
    exact ⟨other, ⟨isCounterpart, constrained⟩, rfl, rfl⟩

theorem Narrows.mem_keyPhase_unite_iff (narrows : changed.Narrows query) {core : String}
    {search : CoreSearch Q} :
    (core, Purpose.unite, search) ∈ changed.keyPhase ↔
      (core, Purpose.unite, search) ∈ query.keyPhase := by
  simp [keyPhase, plannedSearches, narrows.unites]

end ComposedQuery

/-! The searches of the phases -/

namespace ComposedQuery.Narrows

variable {query changed : ComposedQuery Expression} (narrows : changed.Narrows query)

include narrows

theorem queries_subset (core : String) :
    (coreSearch query core).queries ⊆ (coreSearch changed core).queries := by
  rw [coreSearch_eq, coreSearch_eq, CoreSearch.queries, CoreSearch.queries,
    (narrows.bundles core).query]
  exact List.append_subset.mpr ⟨List.subset_append_left _ _,
    List.subset_append_of_subset_right _ (narrows.bundles core).filters⟩

theorem joinSearch (core key : String) :
    (FederatedSearch.joinSearch changed core key).Narrows
      (FederatedSearch.joinSearch query core key) := by
  refine ⟨narrows.queries_subset core, ?_, fun _ => id, rfl, ⟨none, none, rfl⟩⟩
  rw [FederatedSearch.joinSearch, FederatedSearch.joinSearch, coreSearch_eq, coreSearch_eq]
  exact (narrows.bundles core).drilldowns

theorem primarySearch (results : String) {collected collectedMore : List PurposedKeys}
    (collectKeys collectKeysMore : Option String)
    (keyFilters : ∀ document : Document,
      (∀ filter ∈ changed.keyFiltersOf (combineKeys collectedMore),
        filter.holds document = true) →
      ∀ filter ∈ query.keyFiltersOf (combineKeys collected), filter.holds document = true) :
    CoreSearch.Narrows
      { changed.primarySearch results collectedMore with collectKeys := collectKeysMore }
      { query.primarySearch results collected with collectKeys } := by
  refine ⟨narrows.queries_subset results, ?_, keyFilters, ?_, ?_⟩
  · change (coreSearch query results).drilldowns ⊆ (coreSearch changed results).drilldowns
    rw [coreSearch_eq, coreSearch_eq]
    exact (narrows.bundles results).drilldowns
  · change changed.rankQueryFor results = query.rankQueryFor results
    rw [rankQueryFor_eq, rankQueryFor_eq, (narrows.bundles results).rankQuery]
  · obtain ⟨start, stop, options⟩ := narrows.options
    refine ⟨start, stop, ?_⟩
    change changed.options.forCore results =
      { query.options.forCore results with start, stop }
    rw [options]
    rfl

end ComposedQuery.Narrows

/-! The keys that are looked for -/

def AnsweredFrom (stores : String → Store) (calls : List (Call Expression × Outcome)) : Prop :=
  ∀ exchange ∈ calls, exchange.2 = (stores exchange.1.core).search exchange.1.search

namespace JoinRun.Gives

variable {stores : String → Store} {query : ComposedQuery Expression} {results : String}
  {run : JoinRun Expression} {calls : List (Call Expression × Outcome)} {response : SearchResponse}
  (gives : run.Gives query results calls response) (answered : AnsweredFrom stores calls)

include gives answered

theorem answer_primary : ∃ collectKeys,
    (stores results).search { query.primarySearch results run.collected with collectKeys } =
      .answered run.answer := by
  obtain ⟨collectKeys, split⟩ := gives.calls
  refine ⟨collectKeys, (answered (⟨results, _⟩, _) ?_).symm⟩
  rw [split]
  exact List.mem_append_right _ List.mem_cons_self

theorem answer_exchange {exchange : Exchange Expression} (member : exchange ∈ run.exchanges) :
    (stores exchange.core).search exchange.search = .answered exchange.answer := by
  obtain ⟨collectKeys, split⟩ := gives.calls
  refine (answered exchange.call ?_).symm
  rw [split]
  exact List.mem_append_left _ (List.mem_map_of_mem member)

theorem exists_of_collected {purpose : Purpose} {keys : SortedSet String}
    (collected : (purpose, keys) ∈ run.collected) : ∃ core search answer,
      (core, purpose, search) ∈ query.keyPhase ∧
        (stores core).search search = .answered answer ∧ keys = answer.keys := by
  obtain ⟨exchange, member, isKeys⟩ := List.mem_map.mp collected
  obtain ⟨rfl, rfl⟩ := Prod.mk.inj isKeys
  have planned : exchange.asked ∈ run.exchanges.map Exchange.asked := List.mem_map_of_mem member
  rw [gives.asked, (SortedMap.ungroup_grouped_perm query.keyPhase).mem_iff] at planned
  exact ⟨exchange.core, exchange.search, exchange.answer, planned,
    gives.answer_exchange answered member, rfl⟩

theorem exists_collected {core : String} {purpose : Purpose} {search : CoreSearch Expression}
    (planned : (core, purpose, search) ∈ query.keyPhase) : ∃ answer,
      (stores core).search search = .answered answer ∧ (purpose, answer.keys) ∈ run.collected := by
  rw [← (SortedMap.ungroup_grouped_perm query.keyPhase).mem_iff, ← gives.asked] at planned
  obtain ⟨exchange, member, isAsked⟩ := List.mem_map.mp planned
  obtain ⟨rfl, rest⟩ := Prod.mk.inj isAsked
  obtain ⟨rfl, rfl⟩ := Prod.mk.inj rest
  exact ⟨exchange.answer, gives.answer_exchange answered member, List.mem_map_of_mem member⟩

end JoinRun.Gives

theorem KeyFilter.holds_of_subset {field : String} {keys fewer : SortedSet String}
    (subset : ∀ key, fewer.contains key = true → keys.contains key = true) {document : Document}
    (holds : (KeyFilter.mk field fewer).holds document = true) :
    (KeyFilter.mk field keys).holds document = true := by
  rw [KeyFilter.holds_iff] at holds ⊢
  obtain ⟨key, hasKey, collected⟩ := holds
  exact ⟨key, hasKey, subset key collected⟩

theorem ComposedQuery.keyFiltersOf_paired {query : ComposedQuery Q} {other : Counterpart}
    (isCounterpart : query.counterpart? = some other) (keys : List (SortedSet String)) :
    query.keyFiltersOf keys = keys.map (KeyFilter.mk other.resultsKey) := by
  rw [keyFiltersOf, isCounterpart, Option.toList_some, List.flatMap_singleton]

section Narrowed

variable {stores : String → Store} {query changed : ComposedQuery Expression} {results : String}
  {run runChanged : JoinRun Expression} {calls others : List (Call Expression × Outcome)}
  {response narrowed : SearchResponse} (narrows : changed.Narrows query)
  (gives : run.Gives query results calls response)
  (givesChanged : runChanged.Gives changed results others narrowed)
  (answered : AnsweredFrom stores calls) (answeredChanged : AnsweredFrom stores others)

include narrows gives givesChanged answered answeredChanged

/-- A document that has the keys looked for in the end had those looked for before: a join gives
fewer keys, or is new, and the unites give the same. -/
theorem ComposedQuery.Narrows.keyFilters (document : Document)
    (held : ∀ filter ∈ changed.keyFiltersOf (combineKeys runChanged.collected),
      filter.holds document = true) :
    ∀ filter ∈ query.keyFiltersOf (combineKeys run.collected), filter.holds document = true := by
  rcases gives.spans with single | ⟨other, paired⟩
  · simp [ComposedQuery.keyFiltersOf, single.noCounterpart]
  have isCounterpart : changed.counterpart? = some other :=
    (ComposedQuery.counterpart?_eq_of_registered gives.isSet givesChanged.isSet narrows.matchings
      narrows.registered paired givesChanged.spans).trans paired.isCounterpart
  rw [ComposedQuery.keyFiltersOf_paired isCounterpart, holds_keyFilters] at held
  rw [ComposedQuery.keyFiltersOf_paired paired.isCounterpart, holds_keyFilters]
  obtain ⟨joined, united⟩ := held
  constructor
  · intro keys collected
    obtain ⟨core, search, answer, planned, isAnswer, rfl⟩ :=
      gives.exists_of_collected answered collected
    obtain ⟨another, isAnother, constrained, rfl, rfl⟩ :=
      ComposedQuery.mem_keyPhase_join_iff.mp planned
    obtain rfl := Option.some.inj (paired.isCounterpart.symm.trans isAnother)
    obtain ⟨answerChanged, isAnswerChanged, collectedChanged⟩ :=
      givesChanged.exists_collected answeredChanged (ComposedQuery.mem_keyPhase_join_iff.mpr
        ⟨other, isCounterpart, narrows.constrains constrained, rfl, rfl⟩)
    refine KeyFilter.holds_of_subset (fun key => ?_) (joined _ collectedChanged)
    exact Store.keys_of_narrows (narrows.joinSearch _ _) isAnswer isAnswerChanged rfl
  · rintro ⟨_, collected⟩
    obtain ⟨core, search, _, planned, -, -⟩ := gives.exists_of_collected answered collected
    obtain ⟨_, -, someCollected⟩ := givesChanged.exists_collected answeredChanged
      (narrows.mem_keyPhase_unite_iff.mpr planned)
    obtain ⟨keys, collectedChanged, holds⟩ := united ⟨_, someCollected⟩
    obtain ⟨core, search, answer, plannedChanged, isAnswer, rfl⟩ :=
      givesChanged.exists_of_collected answeredChanged collectedChanged
    obtain ⟨same, isSame, collectedSame⟩ := gives.exists_collected answered
      (narrows.mem_keyPhase_unite_iff.mp plannedChanged)
    obtain rfl := Outcome.answered.inj (isSame.symm.trans isAnswer)
    exact ⟨_, collectedSame, holds⟩

theorem ComposedQuery.Narrows.response_narrowed :
    narrowed.total ≤ response.total ∧
      (query.options.dedupField = none → query.options.pageStart = 0 →
        response.total ≤ query.options.pageStop → narrowed.hits.Subperm response.hits) := by
  obtain ⟨collectKeys, isAnswer⟩ := gives.answer_primary answered
  obtain ⟨collectKeysChanged, isAnswerChanged⟩ := givesChanged.answer_primary answeredChanged
  have primary := narrows.primarySearch results collectKeys collectKeysChanged
    (narrows.keyFilters gives givesChanged answered answeredChanged)
  rw [gives.merges.total, givesChanged.merges.total, gives.merges.hits, givesChanged.merges.hits]
  exact ⟨Store.total_le_of_narrows primary isAnswer isAnswerChanged, fun keepsAll fromFirst toLast =>
    Store.hits_subperm_of_narrows primary isAnswer isAnswerChanged keepsAll fromFirst toLast⟩

end Narrowed

theorem Federator.options_withDefaultCore (federator : Federator) (query : ComposedQuery Q) :
    (federator.withDefaultCore query).options = query.options := by
  unfold withDefaultCore
  split <;> rfl

/-- However the searches of a phase overlap: with filters and drilldowns added to any core, a
request to stores has no greater total, whether or not it dedups and whether or not it joined the
core before. If it keeps all documents and its page held all hits, then no page has a new one. -/
theorem narrowing_never_widens {federator : Federator} {query : ComposedQuery Expression}
    {additions : List (Edit Expression)} {stores : String → Store}
    {calls others : List (Call Expression × Outcome)} {response narrowed : SearchResponse}
    (built : query.Built) (narrowing : ∀ edit ∈ additions, edit.Narrows)
    (behaves : Federator.executeBy .atOnce federator query calls (.ok response))
    (behavesNarrowed :
      Federator.executeBy .atOnce federator (query.edited additions) others (.ok narrowed))
    (answered : AnsweredFrom stores calls) (answeredNarrowed : AnsweredFrom stores others) :
    narrowed.total ≤ response.total ∧
      (query.options.dedupField = none → query.options.pageStart = 0 →
        response.total ≤ query.options.pageStop → narrowed.hits.Subperm response.hits) := by
  obtain ⟨turned, trace, same⟩ := Federator.exists_inTurn built behaves
  obtain ⟨turnedNarrowed, traceNarrowed, sameNarrowed⟩ :=
    Federator.exists_inTurn (built.edited additions) behavesNarrowed
  obtain ⟨results, run, gives⟩ := Federator.execute_gives built trace
  obtain ⟨resultsNarrowed, runNarrowed, givesNarrowed⟩ :=
    Federator.execute_gives (built.edited additions) traceNarrowed
  have narrows := ((ComposedQuery.Narrows.refl query).edited narrowing).withDefaultCore federator
  obtain rfl : resultsNarrowed = results := Option.some.inj
    (givesNarrowed.isSet.symm.trans (narrows.resultsCore.trans gives.isSet))
  rw [← federator.options_withDefaultCore query]
  exact narrows.response_narrowed gives givesNarrowed
    (fun exchange member => answered exchange (same.subset member))
    fun exchange member => answeredNarrowed exchange (sameNarrowed.subset member)

def libraryFederator : Federator where
  config := {}
  cores := SortedSet.ofList ["A", "B"]

def libraryAnswer (call : Call Expression) : Outcome :=
  (library call.core).search call.search

theorem answeredFrom_library (calls : List (Call Expression)) :
    AnsweredFrom library (calls.map fun call => (call, libraryAnswer call)) := by
  intro exchange member
  obtain ⟨call, -, rfl⟩ := List.mem_map.mp member
  rfl

def allBooks : ComposedQuery Expression :=
  ({} : ComposedQuery Expression).edited
    [.setResultsCore "A", .addMatch [("A", "author"), ("B", "name")]]

theorem allBooks_narrowed : ∃ calls response others narrowed,
    Federator.executeBy .atOnce libraryFederator allBooks calls (.ok response) ∧
      Federator.executeBy .atOnce libraryFederator
        (allBooks.edited [.addFilter "B" (.ofField "from" "NL")]) others (.ok narrowed) ∧
      calls.map (·.1.core) = ["A"] ∧ others.map (·.1.core) = ["B", "A"] ∧
      response.total = 2 ∧ narrowed.total = 1 ∧ narrowed.total ≤ response.total ∧
      narrowed.hits.Subperm response.hits := by
  have built : allBooks.Built := ComposedQuery.Built.empty.edited _
  have narrowing : ∀ edit ∈ [Edit.addFilter "B" (Expression.ofField "from" "NL")],
      edit.Narrows :=
    List.forall_mem_singleton.mpr (Edit.Narrows.addFilter _ _)
  have behaves := Federator.executeBy_atOnce
    (Session.trace_run libraryAnswer (Federator.execute libraryFederator allBooks))
  have behavesNarrowed := Federator.executeBy_atOnce (Session.trace_run libraryAnswer
    (Federator.execute libraryFederator
      (allBooks.edited [.addFilter "B" (.ofField "from" "NL")])))
  obtain ⟨fewer, noneNew⟩ := narrowing_never_widens built narrowing behaves behavesNarrowed
    (answeredFrom_library _) (answeredFrom_library _)
  refine ⟨_, _, _, _, behaves, behavesNarrowed, ?_, ?_, ?_, ?_, fewer, noneNew ?_ ?_ ?_⟩
  · rfl
  · rfl
  · rfl
  · rfl
  · rfl
  · rfl
  · decide +kernel

end FederatedSearch
