import FederatedSearch.Proofs.QueryTexts

/-! Which cores a request touches, and what it takes to be composed: its texts and sorts can be
read, and besides the results core it touches no other, or one that is matched with it. The composed
query is then one of these cores. -/

namespace FederatedSearch

namespace Translator

/-- The request asks something of the core: by an operand of its query, a value of the filter or the
rank argument, a filter, a facet or a drilldown. -/
inductive Touches (translator : Translator) (request : SearchRequest) (query : Expression) :
    String → Prop
  | operand {operand : Expression} {core : String} (member : operand ∈ query.conjuncts)
      (owned : operand.owner? translator.config.cores translator.config.resultsCore = some core) :
      Touches translator request query core
  | filterArgument {value : String} (member : value ∈ request.extra filterArgument) :
      Touches translator request query (translator.resolve value).1
  | rankArgument {value : String} (member : value ∈ request.extra rankArgument) :
      Touches translator request query (translator.resolve value).1
  | filter {core text : String} (member : (core, text) ∈ request.filters) :
      Touches translator request query core
  | facet {facet : FacetField} (member : facet ∈ request.facets) :
      Touches translator request query (translator.resolve (pieces '>' facet.name).1).1
  | drilldown {name : String} {path : List String} (member : (name, path) ∈ request.drilldowns) :
      Touches translator request query (translator.resolve name).1

structure Readable (translator : Translator) (request : SearchRequest) (query : Expression) :
    Prop where
  query : request.query = .expression query ∨
    ∃ text, request.query = .text text ∧ translator.parser text = .ok query
  arguments : ∀ value ∈ request.extra filterArgument ++ request.extra rankArgument,
    ∃ part, translator.parser (translator.resolve value).2 = .ok part
  filters : ∀ filter ∈ request.filters, ∃ part, translator.parser filter.2 = .ok part
  sorts : ∀ facet ∈ request.facets, facet.sort = none ∨ facet.sort = some "count"

variable {translator : Translator} {request : SearchRequest} {query : Expression}
  {read : ReadRequest}

theorem read_query_iff : request.query.read translator.parser = .ok query ↔
    request.query = .expression query ∨
      ∃ text, request.query = .text text ∧ translator.parser text = .ok query := by
  cases request.query with
  | text text => simp [QueryInput.read]
  | expression other => simp [QueryInput.read]

theorem exists_readFor_iff {value : String} :
    (∃ result, translator.readFor value = .ok result) ↔
      ∃ part, translator.parser (translator.resolve value).2 = .ok part := by
  simp only [readFor_ok_iff]
  constructor
  · rintro ⟨result, -, parsed⟩
    exact ⟨_, parsed⟩
  · rintro ⟨part, parsed⟩
    exact ⟨(_, part), rfl, parsed⟩

def routedFacet (translator : Translator) (facet : FacetField) : RoutedFacet :=
  let (name, path) := pieces '>' facet.name
  let (core, field) := translator.resolve name
  { name, core
    request := {
      field := translator.localName field, path, maxTerms := facet.maxTerms
      sort := facet.sort.map fun _ => .count } }

theorem routeFacet_ok_iff {facet : FacetField} {routed : RoutedFacet} :
    translator.routeFacet facet = .ok routed ↔
      (facet.sort = none ∨ facet.sort = some "count") ∧ translator.routedFacet facet = routed := by
  obtain ⟨name, maxTerms, sort⟩ := facet
  unfold routeFacet routedFacet
  cases sort with
  | none => simp [bind, Except.bind, pure, Except.pure]
  | some word =>
      by_cases isCount : word = "count"
      · subst isCount
        simp [facetSort, FacetSort.ofName?, bind, Except.bind, pure, Except.pure, Functor.map,
          Except.map]
      · simp [facetSort, FacetSort.ofName?, isCount, bind, Except.bind, Functor.map, Except.map]

theorem exists_filters_iff {extracted : Extraction} :
    (∃ filters, translator.filters extracted request = .ok filters) ↔
      (∀ value ∈ request.extra filterArgument, ∃ part,
        translator.parser (translator.resolve value).2 = .ok part) ∧
      ∀ filter ∈ request.filters, ∃ part, translator.parser filter.2 = .ok part := by
  have given_iff (filter : String × String) :
      (∃ result, (do return (filter.1, ← translator.parser filter.2) :
        Except RequestError (String × Expression)) = .ok result) ↔
      ∃ part, translator.parser filter.2 = .ok part := by
    simp [bind_ok_iff, pure, Except.pure]
  constructor
  · rintro ⟨_, found⟩
    obtain ⟨argued, areArgued, rest⟩ := bind_ok_iff.mp found
    obtain ⟨given, areGiven, -⟩ := bind_ok_iff.mp rest
    constructor
    · intro value member
      exact exists_readFor_iff.mp (exists_mapM_ok_iff.mp ⟨argued, areArgued⟩ value member)
    · intro filter member
      exact (given_iff filter).mp (exists_mapM_ok_iff.mp ⟨given, areGiven⟩ filter member)
  · rintro ⟨ofArguments, ofGiven⟩
    obtain ⟨argued, areArgued⟩ := exists_mapM_ok_iff.mpr fun value member =>
      exists_readFor_iff.mpr (ofArguments value member)
    obtain ⟨given, areGiven⟩ := exists_mapM_ok_iff.mpr fun filter member =>
      (given_iff filter).mpr (ofGiven filter member)
    exact ⟨_, bind_ok_iff.mpr ⟨argued, areArgued, bind_ok_iff.mpr ⟨given, areGiven, rfl⟩⟩⟩

theorem exists_rankQueries_iff : (∃ ranks, translator.rankQueries request = .ok ranks) ↔
    ∀ value ∈ request.extra rankArgument, ∃ part,
      translator.parser (translator.resolve value).2 = .ok part := by
  constructor
  · rintro ⟨_, found⟩ value member
    obtain ⟨argued, areArgued, -⟩ := bind_ok_iff.mp found
    exact exists_readFor_iff.mp (exists_mapM_ok_iff.mp ⟨argued, areArgued⟩ value member)
  · intro ofArguments
    obtain ⟨argued, areArgued⟩ := exists_mapM_ok_iff.mpr fun value member =>
      exists_readFor_iff.mpr (ofArguments value member)
    exact ⟨_, bind_ok_iff.mpr ⟨argued, areArgued, rfl⟩⟩

theorem exists_reads_iff : (∃ read, translator.Reads request query read) ↔
    translator.Readable request query := by
  have facets_iff : (∃ facets, request.facets.mapM translator.routeFacet = .ok facets) ↔
      ∀ facet ∈ request.facets, facet.sort = none ∨ facet.sort = some "count" := by
    simp [exists_mapM_ok_iff, routeFacet_ok_iff]
  constructor
  · rintro ⟨read, isQuery, extracted, filters, ranks, facets⟩
    obtain ⟨argued, given⟩ := exists_filters_iff.mp ⟨_, filters⟩
    have ranked := exists_rankQueries_iff.mp ⟨_, ranks⟩
    exact ⟨read_query_iff.mp isQuery, List.forall_mem_append.mpr ⟨argued, ranked⟩, given,
      facets_iff.mp ⟨_, facets⟩⟩
  · rintro ⟨isQuery, arguments, given, sorts⟩
    obtain ⟨argued, ranked⟩ := List.forall_mem_append.mp arguments
    obtain ⟨filters, areFilters⟩ := exists_filters_iff.mpr ⟨argued, given⟩
    obtain ⟨ranks, areRanks⟩ := exists_rankQueries_iff.mpr ranked
    obtain ⟨facets, areFacets⟩ := facets_iff.mpr sorts
    exact ⟨⟨_, filters, ranks, facets⟩, read_query_iff.mpr isQuery, rfl, areFilters, areRanks,
      areFacets⟩

/-! Cores that are touched -/

theorem argumentFor_eq_some_iff {core value : String} {part : Expression} :
    translator.argumentFor core value = some part ↔
      (translator.resolve value).1 = core ∧
        translator.parser (translator.resolve value).2 = .ok part := by
  unfold argumentFor valueFor
  cases read : translator.readFor value with
  | error error =>
      have unread : ∀ part, translator.parser (translator.resolve value).2 ≠ .ok part := by
        intro part parsed
        obtain ⟨result, isResult⟩ := exists_readFor_iff.mpr ⟨part, parsed⟩
        rw [read] at isResult
        cases isResult
      simp [unread, Except.toOption]
  | ok result =>
      obtain ⟨isCore, isPart⟩ := readFor_ok_iff.mp read
      rw [isCore, isPart]
      simp [Except.toOption]

theorem anyOf_isSome {queries : List Expression} {query : Expression} (member : query ∈ queries)
    (someOperand : query.disjuncts ≠ []) : (Expression.anyOf queries).isSome = true := by
  have some : queries.flatMap Expression.disjuncts ≠ [] := by
    intro none
    exact someOperand (List.flatMap_eq_nil_iff.mp none query member)
  unfold Expression.anyOf
  split
  · contradiction
  · rfl
  · rfl

theorem rankQuery_isSome_iff (sound : translator.parser.IsSound)
    (readable : translator.Readable request query) {core : String} :
    (Expression.anyOf
        ((request.extra rankArgument).filterMap (translator.argumentFor core))).isSome = true ↔
      ∃ value ∈ request.extra rankArgument, (translator.resolve value).1 = core := by
  constructor
  · intro isSome
    have notNil : (request.extra rankArgument).filterMap (translator.argumentFor core) ≠ [] := by
      intro none
      rw [none] at isSome
      cases isSome
    obtain ⟨part, member⟩ := List.exists_mem_of_ne_nil _ notNil
    obtain ⟨value, inArguments, isPart⟩ := List.mem_filterMap.mp member
    exact ⟨value, inArguments, (argumentFor_eq_some_iff.mp isPart).1⟩
  · rintro ⟨value, inArguments, isCore⟩
    obtain ⟨part, parsed⟩ :=
      readable.arguments value (List.mem_append_right _ inArguments)
    have isPart : translator.argumentFor core value = some part :=
      argumentFor_eq_some_iff.mpr ⟨isCore, parsed⟩
    exact anyOf_isSome (List.mem_filterMap.mpr ⟨value, inArguments, isPart⟩)
      (sound.disjuncts _ _ parsed)

namespace Reads

variable (reads : translator.Reads request query read)

include reads

theorem readable : translator.Readable request query :=
  exists_reads_iff.mp ⟨read, reads⟩

theorem mem_filters_cores {core : String} : core ∈ read.filters.map (·.1) ↔
    (∃ operand ∈ query.conjuncts,
      operand.owner? translator.config.cores translator.config.resultsCore = some core) ∨
    (∃ value ∈ request.extra filterArgument, (translator.resolve value).1 = core) ∨
    ∃ filter ∈ request.filters, filter.1 = core := by
  have found := reads.filters
  rw [Translator.filters, reads.extracted] at found
  simp only [bind_ok_iff] at found
  obtain ⟨argued, areArgued, given, areGiven, same⟩ := found
  have arguedCores : argued.map (·.1) =
      (request.extra filterArgument).map fun value => (translator.resolve value).1 :=
    map_eq_of_mapM_ok _ _ (fun _ _ isRead => (readFor_ok_iff.mp isRead).1.symm) areArgued
  have givenCores : given.map (·.1) = request.filters.map (·.1) := by
    refine map_eq_of_mapM_ok _ _ ?_ areGiven
    intro filter result isRead
    obtain ⟨part, -, same⟩ := bind_ok_iff.mp isRead
    rw [← Except.ok.inj same]
  rw [← Except.ok.inj same, List.map_append, List.map_append, arguedCores, givenCores,
    List.mem_append, List.mem_append, or_assoc]
  refine or_congr ?_ (or_congr List.mem_map List.mem_map)
  refine mem_extracted_cores.trans ?_
  simp [List.filterMap_eq_nil_iff, ownedBy]

theorem mem_rankQueries_cores (sound : translator.parser.IsSound) {core : String} :
    core ∈ read.rankQueries.map (·.1) ↔
    ∃ value ∈ request.extra rankArgument, (translator.resolve value).1 = core := by
  rw [← rankQuery_isSome_iff sound reads.readable]
  change _ ↔ (translator.bundleFor request query core).rankQuery.isSome = true
  rw [← reads.rankQueryFor, List.getLast?_isSome, ne_eq, List.map_eq_nil_iff,
    List.filter_eq_nil_iff, List.mem_map]
  simp

theorem facets_cores : read.facets.map (·.core) =
    request.facets.map fun facet => (translator.resolve (pieces '>' facet.name).1).1 := by
  refine map_eq_of_mapM_ok _ _ ?_ reads.facets
  intro facet routed isRouted
  rw [← (routeFacet_ok_iff.mp isRouted).2]
  rfl

theorem mem_touched_iff (sound : translator.parser.IsSound) {core : String}
    (isOther : core ≠ translator.config.resultsCore) :
    core ∈ translator.touched request read ↔ translator.Touches request query core := by
  have kept : core ∉ read.extracted.query.toList.map fun _ => translator.config.resultsCore := by
    simp [isOther]
  rw [touched_eq]
  simp only [List.mem_append, kept, false_or, reads.mem_filters_cores,
    reads.mem_rankQueries_cores sound, reads.facets_cores]
  constructor
  · rintro ((((⟨operand, member, owned⟩ | ⟨value, member, rfl⟩ | ⟨filter, member, rfl⟩) |
      ⟨value, member, rfl⟩) | isFacet) | isDrilldown)
    · exact .operand member owned
    · exact .filterArgument member
    · exact .filter member
    · exact .rankArgument member
    · obtain ⟨facet, member, rfl⟩ := List.mem_map.mp isFacet
      exact .facet member
    · obtain ⟨drilldown, member, rfl⟩ := List.mem_map.mp isDrilldown
      exact .drilldown member
  · intro touches
    cases touches with
    | operand member owned => exact Or.inl (Or.inl (Or.inl (Or.inl ⟨_, member, owned⟩)))
    | filterArgument member => exact Or.inl (Or.inl (Or.inl (Or.inr (Or.inl ⟨_, member, rfl⟩))))
    | filter member => exact Or.inl (Or.inl (Or.inl (Or.inr (Or.inr ⟨_, member, rfl⟩))))
    | rankArgument member => exact Or.inl (Or.inl (Or.inr ⟨_, member, rfl⟩))
    | facet member => exact Or.inl (Or.inr (List.mem_map.mpr ⟨_, member, rfl⟩))
    | drilldown member => exact Or.inr (List.mem_map.mpr ⟨_, member, rfl⟩)

end Reads

/-! Requests that are refused -/

section Errors

variable {α β ε : Type} {kind : ε → Prop}

def ErrorsAre (kind : ε → Prop) (result : Except ε α) : Prop :=
  ∀ error, result = .error error → kind error

theorem ErrorsAre.ok (value : α) : ErrorsAre kind (.ok value : Except ε α) := by
  intro error failed
  cases failed

theorem ErrorsAre.bind {first : Except ε α} {next : α → Except ε β} (ofFirst : ErrorsAre kind first)
    (ofNext : ∀ value, ErrorsAre kind (next value)) : ErrorsAre kind (first >>= next) := by
  intro error failed
  rcases bind_error_iff.mp failed with isFirst | ⟨value, -, isNext⟩
  · exact ofFirst error isFirst
  · exact ofNext value error isNext

theorem ErrorsAre.mapM {step : α → Except ε β} (each : ∀ item, ErrorsAre kind (step item))
    (items : List α) : ErrorsAre kind (items.mapM step) := by
  intro error failed
  obtain ⟨_, item, _, -, -, isError⟩ := mapM_error_iff.mp failed
  exact each item error isError

end Errors

def IsUnread (error : RequestError) : Prop :=
  (∃ fault, error = .queryParse fault) ∨ ∃ name, error = .unsupportedFacetSort name

theorem errorsAre_routeFacet (facet : FacetField) :
    ErrorsAre IsUnread (translator.routeFacet facet) := by
  refine ErrorsAre.bind ?_ fun _ => .ok _
  intro error failed
  cases sort : facet.sort with
  | none => simp [sort, pure, Except.pure] at failed
  | some name =>
      rw [sort, Option.mapM_some, map_error_iff, facetSort] at failed
      split at failed
      · cases failed
      · exact Or.inr ⟨name, (Except.error.inj failed).symm⟩

section Parsed

variable (sound : translator.parser.IsSound)

include sound

theorem errorsAre_parsed (text : String) : ErrorsAre IsUnread (translator.parser text) :=
  fun error failed => Or.inl (sound.faults text error failed)

theorem errorsAre_readFor (value : String) : ErrorsAre IsUnread (translator.readFor value) :=
  (errorsAre_parsed sound _).bind fun _ => .ok _

theorem errorsAre_read : ErrorsAre IsUnread (translator.read request) := by
  have ofQuery : ErrorsAre IsUnread (request.query.read translator.parser) := by
    cases request.query with
    | text text => exact errorsAre_parsed sound text
    | expression query => exact .ok query
  have ofFilters (extracted : Extraction) :
      ErrorsAre IsUnread (translator.filters extracted request) := by
    refine .bind (.mapM (errorsAre_readFor sound) _) fun argued =>
      .bind (.mapM ?_ _) fun given => .ok _
    exact fun filter => (errorsAre_parsed sound filter.2).bind fun part => .ok _
  have ofRanks : ErrorsAre IsUnread (translator.rankQueries request) :=
    .bind (.mapM (errorsAre_readFor sound) _) fun argued => .ok _
  have ofFacets : ErrorsAre IsUnread (request.facets.mapM translator.routeFacet) :=
    .mapM errorsAre_routeFacet _
  exact ofQuery.bind fun query => (ofFilters _).bind fun filters => ofRanks.bind fun ranks =>
    ofFacets.bind fun facets => .ok _

end Parsed

theorem verdict_ne {composed : ComposedQuery Expression} {results : String} {error : RequestError}
    (isSet : composed.resultsCore = some results)
    (invalid : composed.validate = .error (.request error)) :
    (∀ operation count, error ≠ .matchArity operation count) ∧ error ≠ .resultsCoreNotSet := by
  unfold ComposedQuery.validate at invalid
  rw [isSet, Option.isNone_some] at invalid
  dsimp only at invalid
  split at invalid
  · cases invalid
    simp
  rw [if_neg Bool.false_ne_true] at invalid
  split at invalid
  · cases invalid
  split at invalid
  · cases invalid
    simp
  split at invalid
  · split at invalid
    · cases invalid
    · cases invalid
      simp
  · cases invalid

/-! Requests that are composed -/

structure Joinable (translator : Translator) (request : SearchRequest) (query : Expression) :
    Prop where
  readable : translator.Readable request query
  atMostOne : ∀ one other, translator.Touches request query one →
    translator.Touches request query other → one ≠ translator.config.resultsCore →
    other ≠ translator.config.resultsCore → one = other
  matched : ∀ core, translator.Touches request query core → core ≠ translator.config.resultsCore →
    translator.config.Matches translator.config.resultsCore core

theorem registered_addMatches {declared : List (List CoreKey)}
    {before changed : ComposedQuery Expression}
    (done : applyAll before (declared.map fun sides =>
      .addMatch (sides.map fun side => (side.core, side.key))) = .ok changed) :
    changed.outline.registered = before.outline.registered := by
  induction declared generalizing before with
  | nil =>
      cases done
      rfl
  | cons sides rest ih =>
      obtain ⟨next, first, later⟩ := bind_ok_iff.mp done
      obtain ⟨_, _, -, rfl⟩ := ComposedQuery.addMatch_ok first
      rw [ih later]
      rfl

section Joined

variable (sound : translator.parser.IsSound)

include sound

theorem exists_joinable_iff (valid : translator.config.validate = .ok ()) :
    (∃ translated, translator.compose request = .ok translated) ↔
      ∃ query, translator.Joinable request query := by
  rw [compose_ok_iff valid]
  constructor
  · rintro ⟨read, isRead, alone⟩
    obtain ⟨query, reads⟩ := read_ok_iff.mp isRead
    refine ⟨query, reads.readable, ?_, ?_⟩
    · intro one other ofOne ofOther oneOther otherOther
      have inTouched := (reads.mem_touched_iff sound otherOther).mpr ofOther
      have others := (alone other inTouched otherOther).2
      exact others one ((reads.mem_touched_iff sound oneOther).mpr ofOne) oneOther
    · intro core touches isOther
      exact (alone core ((reads.mem_touched_iff sound isOther).mpr touches) isOther).1
  · rintro ⟨query, readable, atMostOne, matched⟩
    obtain ⟨read, reads⟩ := exists_reads_iff.mpr readable
    refine ⟨read, read_ok_iff.mpr ⟨query, reads⟩, ?_⟩
    intro core inTouched isOther
    have touches := (reads.mem_touched_iff sound isOther).mp inTouched
    refine ⟨matched core touches isOther, ?_⟩
    intro other otherInTouched otherOther
    exact atMostOne other core ((reads.mem_touched_iff sound otherOther).mp otherInTouched) touches
      otherOther isOther

theorem error_of_uncomposed (valid : translator.config.validate = .ok ()) {failure : Failure}
    (refused : translator.compose request = .error failure) : ∃ error, failure = .request error ∧
      (∀ operation count, error ≠ .matchArity operation count) ∧ error ≠ .resultsCoreNotSet := by
  obtain ⟨error, rfl⟩ := exists_request_of_uncomposed refused
  refine ⟨error, rfl, ?_⟩
  obtain ⟨start, started, -, -, -⟩ := exists_start valid
  cases isRead : translator.read request with
  | error other =>
      rw [compose_of_unbuilt (build_of_unread started isRead)] at refused
      cases refused
      rcases errorsAre_read sound _ isRead with ⟨fault, rfl⟩ | ⟨name, rfl⟩ <;> simp
  | ok read =>
      obtain ⟨translated, query, built, composes, -, -⟩ := exists_built started isRead
      rw [compose_of_built built] at refused
      exact verdict_ne composes.isSet (map_error_iff.mp refused)

theorem exists_composes_registered {translated : TranslatedRequest}
    (composed : translator.compose request = .ok translated) :
    ∃ query read, translator.Composes request query read translated ∧
      ∀ core, core ∈ translated.query.outline.registered ↔
        core = translator.config.resultsCore ∨ translator.Touches request query core := by
  obtain ⟨built, -⟩ := build_of_compose composed
  obtain ⟨start, read, started, isRead, -, -⟩ := build_ok built
  obtain ⟨other, query, isOther, composes, outline, -⟩ := exists_built started isRead
  obtain rfl := Except.ok.inj (built.symm.trans isOther)
  have registered : start.outline.registered = [translator.config.resultsCore] :=
    registered_addMatches started
  refine ⟨query, read, composes, ?_⟩
  intro core
  rw [outline, JoinPlan.mem_foldl_addCore, registered, List.mem_singleton]
  by_cases isResults : core = translator.config.resultsCore
  · simp [isResults]
  · rw [composes.reads.mem_touched_iff sound isResults]

theorem cores_of_composed {translated : TranslatedRequest}
    (composed : translator.compose request = .ok translated) :
    ∃ query others, translator.Readable request query ∧
      translated.query.cores = translator.config.resultsCore :: others ∧ others.Nodup ∧
      ∀ core, core ∈ others ↔
        translator.Touches request query core ∧ core ≠ translator.config.resultsCore := by
  obtain ⟨query, read, composes, registered⟩ := exists_composes_registered sound composed
  refine ⟨query, translated.query.outline.registered.filter (· ≠ translator.config.resultsCore),
    composes.reads.readable, ComposedQuery.cores_of_resultsCore composes.isSet,
    composes.built.wellFormed.distinct.filter _, ?_⟩
  intro core
  rw [List.mem_filter, decide_eq_true_iff, registered]
  constructor
  · rintro ⟨member, isOther⟩
    exact ⟨member.resolve_left isOther, isOther⟩
  · rintro ⟨touches, isOther⟩
    exact ⟨Or.inr touches, isOther⟩

end Joined

/-- With valid settings a request is composed exactly if it can be read and touches, besides the
results core, at most one other, for which and the results core a match is declared. It is never
refused for the number of cores of a match or for a results core that is not set. The composed query
is one of the results core, in front, and of the other cores that are touched. -/
theorem composed_iff_joinable (translator : Translator) (sound : translator.parser.IsSound)
    (valid : translator.config.validate = .ok ()) (request : SearchRequest) :
    ((∃ translated, translator.compose request = .ok translated) ↔
      ∃ query, translator.Joinable request query) ∧
    (∀ failure, translator.compose request = .error failure → ∃ error, failure = .request error ∧
      (∀ operation count, error ≠ .matchArity operation count) ∧ error ≠ .resultsCoreNotSet) ∧
    ∀ translated, translator.compose request = .ok translated →
      ∃ query others, translator.Readable request query ∧
        translated.query.cores = translator.config.resultsCore :: others ∧ others.Nodup ∧
        ∀ core, core ∈ others ↔
          translator.Touches request query core ∧ core ≠ translator.config.resultsCore :=
  ⟨exists_joinable_iff sound valid, fun _ refused => error_of_uncomposed sound valid refused,
    fun _ composed => cores_of_composed sound composed⟩

def touchingText : SearchRequest where
  query := .text "author=x and B.from=NL"
  facets := [⟨"B.from", 10, some "count"⟩, ⟨"author>first", 0, none⟩]
  drilldowns := [("B.from", ["NL"])]
  filters := [("B", "name=x")]
  sortKeys := [⟨"C.name", false⟩]
  extraArguments := SortedMap.ofList [(filterArgument, ["B.name=x"]), (rankArgument, ["B.name=y"])]

theorem touchingText_composed :
    libraryTranslator.parser.IsSound ∧ libraryTranslator.config.validate = .ok () ∧
    (∃ query, libraryTranslator.Joinable touchingText query) ∧
    ∃ translated, libraryTranslator.compose touchingText = .ok translated ∧
      translated.query.cores = ["A", "B"] := by
  have valid : libraryTranslator.config.validate = .ok () := by decide
  have cores : (libraryTranslator.compose touchingText).toOption.map (·.query.cores) =
      some ["A", "B"] := by decide +kernel
  obtain ⟨translated, composed, same⟩ := exists_ok_of_toOption cores
  obtain ⟨composed_iff, -, -⟩ :=
    composed_iff_joinable libraryTranslator parseQuery_isSound valid touchingText
  exact ⟨parseQuery_isSound, valid, composed_iff.mp ⟨translated, composed⟩, translated, composed,
    same⟩

end Translator

end FederatedSearch
