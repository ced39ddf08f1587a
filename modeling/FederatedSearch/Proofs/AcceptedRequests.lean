import FederatedSearch.Proofs.ComposedRequests
import FederatedSearch.Proofs.Counterparts
import FederatedSearch.Proofs.PlannedCores
import FederatedSearch.Proofs.Validation

/-! Which requests can be composed: those that can be read and that touch, besides the results core,
no other or one that is matched with it. -/

namespace FederatedSearch

variable {Q : Type}

namespace Edit

def IsAddition : Edit Q → Prop
  | .setResultsCore _ | .addMatch _ | .unite _ => False
  | _ => True

def core? : Edit Q → Option String
  | .add core _ _ _ | .setCoreQuery core _ | .addFilter core _ | .addFacet core _
    | .addDrilldown core _ | .setRankQuery core _ | .setResultsCore core => some core
  | .addSortKey _ | .addMatch _ | .unite _ | .setStart _ | .setStop _ | .setSuggestions _
    | .setDedup _ _ | .setGroupingField _ | .setClustering _ => none

theorem IsAddition.apply {edit : Edit Q} (isAddition : edit.IsAddition) (query : ComposedQuery Q) :
    ∃ changed, edit.apply query = .ok changed ∧
      changed.outline = { query.outline with
        registered := edit.core?.toList.foldl JoinPlan.addCore query.outline.registered } := by
  cases edit with
  | setResultsCore | addMatch | unite => cases isAddition
  | add core main facets filters =>
      exact ⟨_, rfl, ComposedQuery.outline_change fun _ _ => rfl⟩
  | setCoreQuery | addFilter | addFacet | addDrilldown | setRankQuery =>
      exact ⟨_, rfl, ComposedQuery.outline_change fun _ same => same⟩
  | addSortKey | setStart | setStop | setSuggestions | setDedup | setGroupingField
    | setClustering => exact ⟨_, rfl, rfl⟩

end Edit

/-! Matched cores -/

namespace Matchings

variable {matchings : Matchings} {one other : String}

theorem keyNames?_isSome_iff : (matchings.keyNames? one other).isSome = true ↔
    ⟨one, other⟩ ∈ SortedMap.keys matchings ∨ ⟨other, one⟩ ∈ SortedMap.keys matchings := by
  unfold keyNames?
  rw [SortedMap.mem_keys_iff, SortedMap.mem_keys_iff]
  cases forward : matchings.get? ⟨one, other⟩ with
  | some keys => simp
  | none => cases backward : matchings.get? ⟨other, one⟩ <;> simp

theorem mem_keys_declare {first second : String × String} {pair : CorePair} :
    pair ∈ SortedMap.keys (matchings.declare first second) ↔
      pair = ⟨first.1, second.1⟩ ∨ pair ∈ SortedMap.keys matchings := by
  rw [SortedMap.mem_keys_iff, SortedMap.mem_keys_iff, declare]
  simp only [SortedMap.get?_insert]
  by_cases same : pair = ⟨first.1, second.1⟩
  · simp [same]
  · have different : compare pair ⟨first.1, second.1⟩ ≠ .eq := mt Std.LawfulEqCmp.eq_of_compare same
    simp [same, different]

theorem keyNames?_declare {first second : String × String} :
    ((matchings.declare first second).keyNames? one other).isSome = true ↔
      (one = first.1 ∧ other = second.1 ∨ one = second.1 ∧ other = first.1) ∨
        (matchings.keyNames? one other).isSome = true := by
  simp only [keyNames?_isSome_iff, mem_keys_declare, CorePair.mk.injEq]
  tauto

end Matchings

/-! Settings that are valid -/

namespace TranslatorConfig

variable {config : TranslatorConfig}

def Matches (config : TranslatorConfig) (one other : String) : Prop :=
  ∃ sides ∈ config.matchings, sides.map (·.core) = [one, other] ∨
    sides.map (·.core) = [other, one]

theorem exists_pair_of_validateMatch {index : Nat} {sides : List CoreKey}
    (valid : validateMatch index sides = .ok ()) :
    ∃ first second, sides = [first, second] ∧ first.core ≠ second.core := by
  unfold validateMatch at valid
  split at valid
  · cases valid
  next inRange =>
    rw [Bool.or_eq_true, not_or, decide_eq_true_iff, decide_eq_true_iff, not_ne_iff, not_ne_iff]
      at inRange
    obtain ⟨two, distinct⟩ := inRange
    obtain ⟨first, second, rfl⟩ := List.length_eq_two.mp two
    refine ⟨first, second, rfl, ?_⟩
    intro same
    simp [SortedSet.ofList, SortedSet.insertAll, SortedSet.insert, SortedSet.size,
      SortedSet.toList, SortedMap.keys, SortedMap.insert, SortedSet.empty, SortedMap.empty,
      putEntry, same, maxCores] at distinct

theorem exists_pair_of_validateMatches {index : Nat} {matchings : List (List CoreKey)}
    (valid : validateMatches index matchings = .ok ()) : ∀ sides ∈ matchings,
      ∃ first second, sides = [first, second] ∧ first.core ≠ second.core := by
  induction matchings generalizing index with
  | nil => simp
  | cons sides rest ih =>
      obtain ⟨_, isValid, restValid⟩ := bind_ok_iff.mp valid
      exact List.forall_mem_cons.mpr ⟨exists_pair_of_validateMatch isValid, ih restValid⟩

theorem exists_pair_of_validate (valid : config.validate = .ok ()) : ∀ sides ∈ config.matchings,
    ∃ first second, sides = [first, second] ∧ first.core ≠ second.core := by
  unfold validate at valid
  split at valid
  · cases valid
  · exact exists_pair_of_validateMatches valid

end TranslatorConfig

namespace Translator

theorem applyAll_of_additions {edits : List (Edit Expression)}
    (additions : ∀ edit ∈ edits, edit.IsAddition) (query : ComposedQuery Expression) :
    ∃ changed, applyAll query edits = .ok changed ∧
      changed.outline = { query.outline with
        registered := (edits.filterMap Edit.core?).foldl JoinPlan.addCore
          query.outline.registered } := by
  induction edits generalizing query with
  | nil => exact ⟨query, rfl, rfl⟩
  | cons edit rest ih =>
      obtain ⟨isAddition, restAdditions⟩ := List.forall_mem_cons.mp additions
      obtain ⟨next, first, outlined⟩ := isAddition.apply query
      obtain ⟨changed, later, isChanged⟩ := ih restAdditions next
      refine ⟨changed, bind_ok_iff.mpr ⟨next, first, later⟩, ?_⟩
      rw [isChanged, outlined, List.filterMap_cons]
      cases edit.core? <;> rfl

theorem addMatch_pair (query : ComposedQuery Expression) {first second : CoreKey}
    (different : first.core ≠ second.core) : ∃ matchings,
      query.addMatch [(first.core, first.key), (second.core, second.key)] =
        .ok { query with matchings } ∧
      ∀ one other, (matchings.keyNames? one other).isSome = true ↔
        ([first.core, second.core] = [one, other] ∨ [first.core, second.core] = [other, one]) ∨
          (query.keyNames? one other).isSome = true := by
  have distinct : (first.core, first.key).1 ≠ (second.core, second.key).1 := different
  obtain ⟨_, _, done⟩ := query.addMatch_of_ne distinct
  obtain ⟨lower, upper, ordered, isChanged⟩ := ComposedQuery.addMatch_ok done
  rw [isChanged] at done
  refine ⟨query.matchings.declare lower upper, done, fun one other => ?_⟩
  rw [Matchings.keyNames?_declare]
  refine or_congr ?_ Iff.rfl
  rcases (ComposedQuery.orderedPair_ok ordered).2 with same | same
  · obtain ⟨rfl, rfl⟩ : (first.core, first.key) = lower ∧ (second.core, second.key) = upper := by
      simpa using same
    simp [eq_comm, and_comm]
  · obtain ⟨rfl, rfl⟩ : (first.core, first.key) = upper ∧ (second.core, second.key) = lower := by
      simpa using same
    simp [eq_comm, and_comm, or_comm]

/-- Matches are declared one by one, and nothing but the matches changes. -/
theorem applyAll_matches {declared : List (List CoreKey)}
    (pairs : ∀ sides ∈ declared, ∃ first second, sides = [first, second] ∧ first.core ≠ second.core)
    (query : ComposedQuery Expression) :
    ∃ changed, applyAll query (declared.map fun sides =>
        .addMatch (sides.map fun side => (side.core, side.key))) = .ok changed ∧
      (∃ matchings, changed.outline = { query.outline with matchings }) ∧
      ∀ one other, (changed.keyNames? one other).isSome = true ↔
        (∃ sides ∈ declared, sides.map (·.core) = [one, other] ∨
          sides.map (·.core) = [other, one]) ∨
        (query.keyNames? one other).isSome = true := by
  induction declared generalizing query with
  | nil => exact ⟨query, rfl, ⟨_, rfl⟩, by simp⟩
  | cons sides rest ih =>
      obtain ⟨isPair, restPairs⟩ := List.forall_mem_cons.mp pairs
      obtain ⟨first, second, rfl, different⟩ := isPair
      obtain ⟨matchings, done, atOnce⟩ := addMatch_pair query different
      obtain ⟨changed, later, ⟨final, outlined⟩, covers⟩ := ih restPairs { query with matchings }
      refine ⟨changed, bind_ok_iff.mpr ⟨_, done, later⟩, ⟨final, outlined⟩, fun one other => ?_⟩
      rw [covers, List.exists_mem_cons_iff, or_assoc, or_left_comm]
      exact or_congr Iff.rfl (atOnce one other)

/-- With valid settings every request is begun with the results core and the declared matches. -/
theorem exists_start {translator : Translator} (valid : translator.config.validate = .ok ()) :
    ∃ start, applyAll (.ofResultsCore translator.config.resultsCore) translator.matchEdits =
        .ok start ∧
      start.outline.registered = [translator.config.resultsCore] ∧
      start.resultsCore = some translator.config.resultsCore ∧
      ∀ one other, (start.keyNames? one other).isSome = true ↔
        translator.config.Matches one other := by
  obtain ⟨start, started, ⟨matchings, outlined⟩, covers⟩ := applyAll_matches
    (TranslatorConfig.exists_pair_of_validate valid) (.ofResultsCore translator.config.resultsCore)
  refine ⟨start, started, ?_, ?_, ?_⟩
  · exact congrArg Outline.registered outlined
  · exact congrArg Outline.resultsCore outlined
  · intro one other
    rw [covers]
    refine or_iff_left ?_
    simp [ComposedQuery.keyNames?, Matchings.keyNames?, ComposedQuery.ofResultsCore,
      ComposedQuery.setResultsCore, ComposedQuery.register, ComposedQuery.change]

end Translator

/-! Valid composed queries -/

namespace ComposedQuery

variable {query : ComposedQuery Q} {results : String}

theorem isEmpty_of_matched {one other : String}
    (matched : (query.keyNames? one other).isSome = true) :
    SortedMap.isEmpty query.matchings = false := by
  have keyed := Matchings.keyNames?_isSome_iff.mp matched
  rw [SortedMap.isEmpty, List.isEmpty_eq_false_iff]
  intro none
  simp [SortedMap.keys, none] at keyed

theorem validate_ok_iff (isSet : query.resultsCore = some results)
    (distinct : query.outline.registered.Nodup) (registered : results ∈ query.outline.registered) :
    query.validate = .ok () ↔ ∀ core ∈ query.outline.registered, core ≠ results →
      (query.keyNames? results core).isSome = true ∧
        ∀ other ∈ query.outline.registered, other ≠ results → other = core := by
  constructor
  · intro valid core member isOther
    rcases validate_ok valid with one | ⟨two, first, second, rest, listed, matched⟩
    · obtain ⟨only, isOnly⟩ := List.length_eq_one_iff.mp one
      rw [isOnly, List.mem_singleton] at member registered
      exact absurd (member.trans registered.symm) isOther
    · obtain ⟨other, -, others, either⟩ := exists_other_of_two distinct two registered
      have cores : query.cores = [results, other] := by
        rw [cores_of_resultsCore isSet, others]
      obtain ⟨rfl, rest⟩ := List.cons.inj (cores.symm.trans listed)
      obtain ⟨rfl, _⟩ := List.cons.inj rest
      have isCore : ∀ another ∈ query.outline.registered, another ≠ results → another = other :=
        fun another inCores isOther => (either another inCores).resolve_left isOther
      rw [isCore core member isOther]
      exact ⟨matched, isCore⟩
  · intro alone
    have counted : query.numberOfCores = query.outline.registered.length := by
      simp [numberOfCores, outline]
    obtain ⟨others, isOthers⟩ : ∃ others, others = query.outline.registered.filter (· ≠ results) :=
      ⟨_, rfl⟩
    have mem_others : ∀ core ∈ others, core ∈ query.outline.registered ∧ core ≠ results := by
      intro core member
      simpa [isOthers] using member
    have length : query.outline.registered.length = others.length + 1 := by
      have erased := List.length_erase_add_one registered
      rw [distinct.erase_eq_filter] at erased
      rw [← erased, isOthers]
      congr 2
      refine List.filter_congr fun core _ => ?_
      by_cases same : core = results <;> simp [same]
    unfold validate
    rw [counted, length, cores_of_resultsCore isSet, ← isOthers, isSet]
    have noTwice := distinct.filter (· ≠ results)
    rw [← isOthers] at noTwice
    cases others with
    | nil => simp [maxCores]
    | cons core rest =>
        obtain ⟨member, isOther⟩ := mem_others core List.mem_cons_self
        obtain ⟨matched, only⟩ := alone core member isOther
        obtain ⟨keys, found⟩ := Option.isSome_iff_exists.mp matched
        cases rest with
        | nil => simp [maxCores, isEmpty_of_matched matched, found]
        | cons second others =>
            obtain ⟨secondMember, secondOther⟩ := mem_others second (by simp)
            simp [only second secondMember secondOther] at noTwice

end ComposedQuery

/-! Composing -/

namespace Translator

variable {translator : Translator} {request : SearchRequest} {read : ReadRequest}

def readEdits (translator : Translator) (request : SearchRequest) (read : ReadRequest) :
    List (Edit Expression) :=
  translator.edits request read.extracted.query read.filters read.rankQueries read.facets

def touched (translator : Translator) (request : SearchRequest) (read : ReadRequest) :
    List String :=
  (translator.readEdits request read).filterMap Edit.core?

theorem additions_readEdits (translator : Translator) (request : SearchRequest)
    (read : ReadRequest) : ∀ edit ∈ translator.readEdits request read, edit.IsAddition := by
  unfold readEdits edits
  simp only [List.forall_mem_append, List.forall_mem_map, Edit.IsAddition, implies_true, and_true,
    true_and]
  split <;> simp

theorem touched_eq (translator : Translator) (request : SearchRequest) (read : ReadRequest) :
    translator.touched request read =
      (read.extracted.query.toList.map fun _ => translator.config.resultsCore) ++
        read.filters.map (·.1) ++ read.rankQueries.map (·.1) ++ read.facets.map (·.core) ++
        request.drilldowns.map fun drilldown => (translator.routeDrilldown drilldown).1 := by
  have noCore {α : Type} {make : α → Edit Expression} (items : List α)
      (each : ∀ item, (make item).core? = .none) : items.filterMap (Edit.core? ∘ make) = [] := by
    simp [each]
  have oneCore {α : Type} {make : α → Edit Expression} {target : α → String} (items : List α)
      (each : ∀ item, (make item).core? = some (target item)) :
      items.filterMap (Edit.core? ∘ make) = items.map target := by
    rw [← List.filterMap_eq_map]
    exact List.filterMap_congr fun item _ => each item
  have clustered : (if translator.clusters request then
      [(.setClustering true : Edit Expression)] else []).filterMap Edit.core? = [] := by
    split <;> rfl
  unfold touched readEdits edits
  simp only [List.filterMap_append, List.filterMap_map]
  rw [noCore request.start.toList fun _ => rfl, noCore request.stop.toList fun _ => rfl,
    noCore request.suggestions.toList fun _ => rfl,
    oneCore read.extracted.query.toList fun _ => rfl, oneCore read.filters fun _ => rfl,
    noCore request.sortKeys fun _ => rfl, oneCore read.rankQueries fun _ => rfl,
    noCore (translator.dedups request).toList fun _ => rfl,
    noCore (translator.groups read.extracted.query request).toList fun _ => rfl, clustered,
    oneCore read.facets fun _ => rfl, oneCore request.drilldowns fun _ => rfl]
  simp

theorem build_of_read (valid : translator.config.validate = .ok ())
    (isRead : translator.read request = .ok read) :
    ∃ translated, translator.build request = .ok translated ∧
      (translated.query.validate = .ok () ↔
        ∀ core ∈ translator.touched request read, core ≠ translator.config.resultsCore →
          translator.config.Matches translator.config.resultsCore core ∧
          ∀ other ∈ translator.touched request read,
            other ≠ translator.config.resultsCore → other = core) := by
  obtain ⟨start, started, registered, isSet, covers⟩ := exists_start valid
  obtain ⟨changed, done, outlined⟩ :=
    applyAll_of_additions (additions_readEdits translator request read) start
  have isBuilt : translator.build request = .ok _ :=
    bind_ok_iff.mpr ⟨start, started, bind_ok_iff.mpr ⟨read, isRead,
      bind_ok_iff.mpr ⟨changed, done, rfl⟩⟩⟩
  refine ⟨_, isBuilt, ?_⟩
  have isRegistered : changed.outline.registered =
      (translator.touched request read).foldl JoinPlan.addCore [translator.config.resultsCore] := by
    rw [outlined, ← registered]
    rfl
  have sameResults : changed.resultsCore = some translator.config.resultsCore := by
    rw [← isSet]
    exact congrArg Outline.resultsCore outlined
  have sameMatches : changed.matchings = start.matchings := congrArg Outline.matchings outlined
  have mem_registered : ∀ core, core ∈ changed.outline.registered ↔
      core = translator.config.resultsCore ∨ core ∈ translator.touched request read := by
    intro core
    rw [isRegistered, JoinPlan.mem_foldl_addCore, List.mem_singleton]
  have matched : ∀ one other, (changed.keyNames? one other).isSome = true ↔
      translator.config.Matches one other := by
    intro one other
    rw [← covers, ComposedQuery.keyNames?, ComposedQuery.keyNames?, sameMatches]
  change changed.validate = .ok () ↔ _
  have distinct : changed.outline.registered.Nodup := by
    rw [isRegistered]
    exact JoinPlan.nodup_foldl_addCore (by simp)
  rw [ComposedQuery.validate_ok_iff sameResults distinct ((mem_registered _).mpr (Or.inl rfl))]
  simp only [mem_registered, matched]
  constructor
  · intro alone core member isOther
    obtain ⟨isMatched, only⟩ := alone core (Or.inr member) isOther
    exact ⟨isMatched, fun other inTouched => only other (Or.inr inTouched)⟩
  · intro alone core member isOther
    obtain ⟨isMatched, only⟩ := alone core (member.resolve_left isOther) isOther
    refine ⟨isMatched, fun other inEither otherOther => ?_⟩
    exact only other (inEither.resolve_left otherOther) otherOther

/-- A request can be composed exactly if it can be read and touches, besides the results core, at
most one other, which is matched with it. -/
theorem compose_ok_iff (valid : translator.config.validate = .ok ()) :
    (∃ translated, translator.compose request = .ok translated) ↔
      ∃ read, translator.read request = .ok read ∧
        ∀ core ∈ translator.touched request read, core ≠ translator.config.resultsCore →
          translator.config.Matches translator.config.resultsCore core ∧
          ∀ other ∈ translator.touched request read,
            other ≠ translator.config.resultsCore → other = core := by
  constructor
  · rintro ⟨translated, composed⟩
    obtain ⟨built, isValid⟩ := build_of_compose composed
    obtain ⟨_, read, -, isRead, -, -⟩ := build_ok built
    obtain ⟨other, otherBuilt, valid_iff⟩ := build_of_read valid isRead
    obtain rfl := Except.ok.inj (built.symm.trans otherBuilt)
    exact ⟨read, isRead, valid_iff.mp isValid⟩
  · rintro ⟨read, isRead, alone⟩
    obtain ⟨translated, built, valid_iff⟩ := build_of_read valid isRead
    refine ⟨translated, ?_⟩
    rw [compose, built]
    exact bind_ok_iff.mpr ⟨(), valid_iff.mpr alone, rfl⟩

end Translator

end FederatedSearch
