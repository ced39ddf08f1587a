import FederatedSearch.Proofs.ConvertedQueries
import FederatedSearch.Proofs.KeyFilters
import FederatedSearch.Proofs.QueryInvariants

/-! The fields that unites collect the values of. A unite keeps the fields by which its cores are
matched when it is added; whether they are still matched by them depends on what came later. -/

namespace FederatedSearch

inductive PairEvent where
  | declared (first second : String × String)
  | united (first second : String)

def PairEvent.keys? (first second : String) : PairEvent → Option (String × String)
  | .declared one other =>
    if first = one.1 ∧ second = other.1 then some (one.2, other.2) else none
  | .united _ _ => none

def lastKeys? (history : List PairEvent) (first second : String) : Option (String × String) :=
  history.findSome? (PairEvent.keys? first second)

theorem lastKeys?_declared {history : List PairEvent} {one other : String × String}
    {first second : String} : lastKeys? (.declared one other :: history) first second =
      if first = one.1 ∧ second = other.1 then some (one.2, other.2)
      else lastKeys? history first second := by
  unfold lastKeys?
  rw [List.findSome?_cons]
  by_cases same : first = one.1 ∧ second = other.1 <;> simp [PairEvent.keys?, same]

def UnitedBy (history : List PairEvent) (first second : String × String) : Prop :=
  ∃ before, .united first.1 second.1 :: before <:+ history ∧
    lastKeys? before first.1 second.1 = some (first.2, second.2)

theorem unitedBy_declared {history : List PairEvent} {first second one other : String × String} :
    UnitedBy (.declared one other :: history) first second ↔ UnitedBy history first second := by
  simp [UnitedBy, List.suffix_cons_iff]

theorem unitedBy_united {history : List PairEvent} {first second : String × String}
    {one other : String} : UnitedBy (.united one other :: history) first second ↔
      UnitedBy history first second ∨
        first.1 = one ∧ second.1 = other ∧ lastKeys? history one other = some (first.2, second.2) := by
  unfold UnitedBy
  simp only [List.suffix_cons_iff, List.cons.injEq, PairEvent.united.injEq]
  constructor
  · rintro ⟨before, ⟨⟨rfl, rfl⟩, rfl⟩ | earlier, keys⟩
    · exact Or.inr ⟨rfl, rfl, keys⟩
    · exact Or.inl ⟨before, earlier, keys⟩
  · rintro (⟨before, earlier, keys⟩ | ⟨rfl, rfl, keys⟩)
    · exact ⟨before, Or.inr earlier, keys⟩
    · exact ⟨history, Or.inl ⟨⟨rfl, rfl⟩, rfl⟩, keys⟩

structure Pairing where
  matchings : Matchings
  united : List (String × String)

namespace Pairing

inductive Step (before : Pairing) : Option PairEvent → Pairing → Prop
  | keep : Step before none before
  | declare (first second : String × String) : Step before (some (.declared first second))
      { before with matchings := before.matchings.declare first second }
  | unite (first second : String × String) (ascend : compare first.1 second.1 = .lt)
      (matched : before.matchings.get? ⟨first.1, second.1⟩ = some (first.2, second.2)) :
      Step before (some (.united first.1 second.1))
        { before with united := before.united ++ [first, second] }

structure Follows (pairing : Pairing) (history : List PairEvent) : Prop where
  keys : ∀ first second, pairing.matchings.get? ⟨first, second⟩ = lastKeys? history first second
  unitedMatched : ∀ first second before, .united first second :: before <:+ history →
    compare first second = .lt ∧ (lastKeys? before first second).isSome = true
  united : ∃ pairs : List ((String × String) × (String × String)),
    pairing.united = pairs.flatMap (fun pair => [pair.1, pair.2]) ∧
      ∀ pair, pair ∈ pairs ↔ UnitedBy history pair.1 pair.2

variable {pairing changed : Pairing} {history : List PairEvent}

theorem Follows.empty : Follows ⟨SortedMap.empty, []⟩ [] := by
  refine ⟨fun _ _ => rfl, ?_, [], rfl, ?_⟩
  · intro first second before suffix
    cases List.suffix_nil.mp suffix
  · intro pair
    simp [UnitedBy]

theorem get?_declare {matchings : Matchings} {one other : String × String}
    {first second : String} : (matchings.declare one other).get? ⟨first, second⟩ =
      if first = one.1 ∧ second = other.1 then some (one.2, other.2)
      else matchings.get? ⟨first, second⟩ := by
  unfold Matchings.declare
  simp only [SortedMap.get?_insert, Std.LawfulEqCmp.compare_eq_iff_eq, CorePair.mk.injEq]

theorem Follows.step {event? : Option PairEvent} (follows : pairing.Follows history)
    (step : pairing.Step event? changed) : changed.Follows (event?.toList ++ history) := by
  obtain ⟨keys, unitedMatched, pairs, united, recorded⟩ := follows
  cases step with
  | keep => exact ⟨keys, unitedMatched, pairs, united, recorded⟩
  | declare one other =>
      change Follows _ (.declared one other :: history)
      refine ⟨?keys, ?matched, pairs, united, ?recorded⟩
      case keys =>
          intro first second
          rw [get?_declare, lastKeys?_declared, keys]
      case matched =>
          intro first second before suffix
          rcases List.suffix_cons_iff.mp suffix with now | earlier
          · cases now
          · exact unitedMatched first second before earlier
      case recorded =>
          intro pair
          rw [recorded, unitedBy_declared]
  | unite one other ascend matched =>
      change Follows _ (.united one.1 other.1 :: history)
      rw [keys] at matched
      refine ⟨keys, ?matched, pairs ++ [(one, other)], by simp [united], ?recorded⟩
      case matched =>
          intro first second before suffix
          rcases List.suffix_cons_iff.mp suffix with now | earlier
          · cases now
            exact ⟨ascend, Option.isSome_of_eq_some matched⟩
          · exact unitedMatched first second before earlier
      case recorded =>
          intro pair
          rw [List.mem_append, List.mem_singleton, recorded, unitedBy_united, matched]
          simp only [Prod.ext_iff, Option.some.injEq]
          grind

end Pairing

def Edit.pairEvent? {Q : Type} (query : ComposedQuery Q) : Edit Q → Option PairEvent
  | .addMatch sides =>
    match orderedPair .addMatch sides with
    | .ok (first, second) => some (.declared first second)
    | .error _ => none
  | .unite queries =>
    match orderedPair .unite queries with
    | .ok (first, second) =>
      (query.keyNames? first.1 second.1).map fun _ => .united first.1 second.1
    | .error _ => none
  | _ => none

def Unite.entry {Q : Type} (unite : Unite Q) : String × String :=
  (unite.core, unite.keyName)

def Edit.history {Q : Type} (query : ComposedQuery Q) (before : List PairEvent) :
    List (Edit Q) → List PairEvent
  | [] => before
  | edit :: rest =>
    history (edit.applyOrKeep query) ((edit.pairEvent? query).toList ++ before) rest

namespace ComposedQuery

variable {Q R : Type} {query : ComposedQuery Q} {history : List PairEvent}

inductive BuiltBy : {Q : Type} → ComposedQuery Q → List PairEvent → Prop
  | empty {Q : Type} : BuiltBy ({} : ComposedQuery Q) []
  | edit {Q : Type} {query : ComposedQuery Q} {history : List PairEvent}
      (before : BuiltBy query history) (edit : Edit Q) :
      BuiltBy (edit.applyOrKeep query) ((edit.pairEvent? query).toList ++ history)
  | convert {Q R : Type} {query : ComposedQuery Q} {history : List PairEvent}
      (before : BuiltBy query history) (convert : Q → R) : BuiltBy (query.convert convert) history
  | tryConvert {Q R ε : Type} {query : ComposedQuery Q} {converted : ComposedQuery R}
      {history : List PairEvent} (before : BuiltBy query history) (convert : Q → Except ε R)
      (done : query.tryConvert convert = .ok converted) : BuiltBy converted history

theorem built_iff : query.Built ↔ ∃ history, query.BuiltBy history := by
  constructor
  · intro built
    induction built with
    | empty => exact ⟨_, .empty⟩
    | edit _ edit ih =>
        obtain ⟨history, before⟩ := ih
        exact ⟨_, before.edit edit⟩
    | convert _ convert ih =>
        obtain ⟨history, before⟩ := ih
        exact ⟨_, before.convert convert⟩
    | tryConvert _ convert done ih =>
        obtain ⟨history, before⟩ := ih
        exact ⟨_, before.tryConvert convert done⟩
  · rintro ⟨history, builtBy⟩
    induction builtBy with
    | empty => exact .empty
    | edit _ edit ih => exact ih.edit edit
    | convert _ convert ih => exact ih.convert convert
    | tryConvert _ convert done ih => exact ih.tryConvert convert done

theorem BuiltBy.edited (builtBy : query.BuiltBy history) (edits : List (Edit Q)) :
    (query.edited edits).BuiltBy (Edit.history query history edits) := by
  unfold ComposedQuery.edited
  induction edits generalizing query history with
  | nil => exact builtBy
  | cons edit rest ih => exact ih (builtBy.edit edit)

def pairing (query : ComposedQuery Q) : Pairing where
  matchings := query.matchings
  united := query.unites.map Unite.entry

theorem step_pairing (built : query.Built) (edit : Edit Q) :
    Pairing.Step query.pairing (edit.pairEvent? query) (edit.applyOrKeep query).pairing := by
  cases edit with
  | addMatch sides =>
      simp only [Edit.pairEvent?, Edit.applyOrKeep, Edit.apply, addMatch]
      cases ordered : orderedPair .addMatch sides with
      | error error => exact .keep
      | ok sides => exact .declare sides.1 sides.2
  | unite queries =>
      simp only [Edit.pairEvent?, Edit.applyOrKeep, Edit.apply, ComposedQuery.unite]
      cases ordered : orderedPair .unite queries with
      | error error => exact .keep
      | ok queries =>
          obtain ⟨first, second⟩ := queries
          have ascend := (orderedPair_ok ordered).1
          cases matched : query.keyNames? first.1 second.1 with
          | none =>
              simp only [matched, bind, Except.bind]
              exact .keep
          | some keys =>
              have sorted := built.wellFormed.matchesAscend
              have found := (Matchings.keyNames?_of_lt sorted ascend).symm.trans matched
              have step : query.pairing.Step _ _ :=
                .unite (first.1, keys.1) (second.1, keys.2) ascend found
              simpa [matched, bind, Except.bind, pure, Except.pure, pairing, Unite.entry, register,
                change] using step
  | setResultsCore | add | setCoreQuery | addFilter | addFacet | addDrilldown | setRankQuery
    | addSortKey | setStart | setStop | setSuggestions | setDedup | setGroupingField
    | setClustering => exact .keep

theorem pairing_convert (query : ComposedQuery Q) (convert : Q → R) :
    (query.convert convert).pairing = query.pairing := by
  simp [pairing, ComposedQuery.convert, Unite.convert, Unite.entry, Function.comp_def]

theorem pairing_tryConvert {ε : Type} {convert : Q → Except ε R} {converted : ComposedQuery R}
    (done : query.tryConvert convert = .ok converted) : converted.pairing = query.pairing := by
  rw [← pairing_convert query convert, convert_of_tryConvert done, pairing_convert]

theorem BuiltBy.follows (builtBy : query.BuiltBy history) : query.pairing.Follows history := by
  induction builtBy with
  | empty => exact .empty
  | edit before edit ih => exact ih.step (step_pairing (built_iff.mpr ⟨_, before⟩) edit)
  | convert _ convert ih =>
      rw [pairing_convert]
      exact ih
  | tryConvert _ convert done ih =>
      rw [pairing_tryConvert done]
      exact ih

/-- The unites, two by two, have the fields by which their cores are matched now. -/
def UnitesCurrent (query : ComposedQuery Q) : Prop :=
  ∃ pairs : List (Unite Q × Unite Q), query.unites = pairs.flatMap (fun pair => [pair.1, pair.2]) ∧
    ∀ pair ∈ pairs,
      query.keyNames? pair.1.core pair.2.core = some (pair.1.keyName, pair.2.keyName)

theorem pairs_unique {α : Type} {one other : List (α × α)}
    (same : one.flatMap (fun pair => [pair.1, pair.2]) =
      other.flatMap (fun pair => [pair.1, pair.2])) : one = other := by
  induction one generalizing other with
  | nil => cases other <;> simp_all
  | cons head rest ih =>
      cases other with
      | nil => simp at same
      | cons another later =>
          simp only [List.flatMap_cons, List.cons_append, List.nil_append, List.cons.injEq] at same
          rw [Prod.ext same.1 same.2.1, ih same.2.2]

theorem unitesCurrent_iff_of_pairs {pairs : List (Unite Q × Unite Q)}
    (unites : query.unites = pairs.flatMap (fun pair => [pair.1, pair.2])) :
    query.UnitesCurrent ↔ ∀ pair ∈ pairs,
      query.keyNames? pair.1.core pair.2.core = some (pair.1.keyName, pair.2.keyName) := by
  constructor
  · rintro ⟨others, isUnites, areCurrent⟩
    obtain rfl := pairs_unique (isUnites.symm.trans unites)
    exact areCurrent
  · intro areCurrent
    exact ⟨pairs, unites, areCurrent⟩

theorem BuiltBy.unitesCurrent_iff (builtBy : query.BuiltBy history) :
    query.UnitesCurrent ↔ ∀ first second before, .united first second :: before <:+ history →
      lastKeys? history first second = lastKeys? before first second := by
  obtain ⟨keys, unitedMatched, pairs, united, recorded⟩ := builtBy.follows
  change query.unites.map Unite.entry = _ at united
  obtain ⟨unitePairs, unites, labelled⟩ := exists_pairs united
  have current {first second : String} {before : List PairEvent}
      (suffix : .united first second :: before <:+ history) :
      query.keyNames? first second = lastKeys? history first second := by
    have sorted := (built_iff.mpr ⟨_, builtBy⟩).wellFormed.matchesAscend
    have ascend := (unitedMatched _ _ _ suffix).1
    exact (Matchings.keyNames?_of_lt sorted ascend).trans (keys first second)
  rw [unitesCurrent_iff_of_pairs unites]
  constructor
  · intro areCurrent first second before suffix
    obtain ⟨_, matched⟩ := unitedMatched first second before suffix
    obtain ⟨⟨firstKey, secondKey⟩, isLast⟩ := Option.isSome_iff_exists.mp matched
    have member : ((first, firstKey), (second, secondKey)) ∈ pairs :=
      (recorded _).mpr ⟨before, suffix, isLast⟩
    rw [← labelled] at member
    obtain ⟨pair, inPairs, same⟩ := List.mem_map.mp member
    simp only [Unite.entry, Prod.mk.injEq] at same
    obtain ⟨⟨rfl, rfl⟩, rfl, rfl⟩ := same
    rw [isLast, ← current suffix, areCurrent pair inPairs]
  · intro unchanged pair inPairs
    have member : (pair.1.entry, pair.2.entry) ∈ pairs := by
      rw [← labelled]
      exact List.mem_map_of_mem inPairs
    obtain ⟨before, suffix, isLast⟩ := (recorded _).mp member
    have now := (current suffix).trans (unchanged _ _ _ suffix)
    exact now.trans isLast

structure UniteMatches (query : ComposedQuery Q) (results field : String) (unite : Unite Q) :
    Prop where
  ofResults : unite.core = results → unite.keyName = field
  ofOther : unite.core ≠ results → query.keyNames? results unite.core = some (field, unite.keyName)

section Paired

variable {results : String} {other : Counterpart} {unite : Unite Q}

theorem Paired.uniteMatches_results (isResults : unite.core = results) :
    query.UniteMatches results other.resultsKey unite ↔ unite.keyName = other.resultsKey := by
  constructor
  · intro fits
    exact fits.ofResults isResults
  · intro same
    exact ⟨fun _ => same, fun notResults => absurd isResults notResults⟩

theorem Paired.uniteMatches_other (paired : query.Paired results other)
    (isOther : unite.core = other.core) :
    query.UniteMatches results other.resultsKey unite ↔ unite.keyName = other.key := by
  have notResults : unite.core ≠ results := isOther ▸ paired.isOther
  have keyNames : query.keyNames? results unite.core = some (other.resultsKey, other.key) :=
    isOther ▸ paired.keyNames
  constructor
  · intro fits
    have same := keyNames.symm.trans (fits.ofOther notResults)
    simpa using same.symm
  · intro same
    exact ⟨fun isResults => absurd isResults notResults, fun _ => same ▸ keyNames⟩

theorem Paired.unitesCurrent_iff (built : query.Built) (paired : query.Paired results other) :
    query.UnitesCurrent ↔
      ∀ unite ∈ query.unites, query.UniteMatches results other.resultsKey unite := by
  obtain ⟨pairs, unites, coupled⟩ := (Regular.of_wellFormed built.wellFormed).unitesPaired
  have ofPair (pair : Unite Q × Unite Q) (member : pair ∈ pairs) :
      query.keyNames? pair.1.core pair.2.core = some (pair.1.keyName, pair.2.keyName) ↔
        query.UniteMatches results other.resultsKey pair.1 ∧
          query.UniteMatches results other.resultsKey pair.2 := by
    have inUnites : pair.1 ∈ query.unites ∧ pair.2 ∈ query.unites := by
      simp only [unites, List.mem_flatMap]
      exact ⟨⟨pair, member, by simp⟩, ⟨pair, member, by simp⟩⟩
    have different := (coupled pair member).1
    rcases paired.unites _ inUnites.1 with firstResults | firstOther <;>
      rcases paired.unites _ inUnites.2 with secondResults | secondOther
    · exact absurd (firstResults.trans secondResults.symm) different
    · rw [uniteMatches_results firstResults, paired.uniteMatches_other secondOther, firstResults,
        secondOther, paired.keyNames]
      simp [eq_comm]
    · have swapped : query.keyNames? other.core results = some (other.key, other.resultsKey) := by
        have swap := Matchings.keyNames?_swap built.wellFormed.matchesAscend results other.core
        exact swap.trans (congrArg (Option.map Prod.swap) paired.keyNames)
      rw [paired.uniteMatches_other firstOther, uniteMatches_results secondResults, firstOther,
        secondResults, swapped]
      simp [eq_comm]
    · exact absurd (firstOther.trans secondOther.symm) different
  rw [unitesCurrent_iff_of_pairs unites, unites, List.forall_mem_flatMap]
  refine forall₂_congr ?_
  intro pair member
  rw [ofPair pair member]
  simp

end Paired

end ComposedQuery

/-- The unites of a query have the fields by which their cores are matched now just if no others
were declared for the cores since they were united. In an execution the values of the unites are
looked for in one field of the results core; it is the field matched with the ones that they come
from just if the unites have current fields. -/
theorem unites_current_iff {Q : Type} {query : ComposedQuery Q} {history : List PairEvent}
    (builtBy : query.BuiltBy history) :
    (query.UnitesCurrent ↔ ∀ first second before, .united first second :: before <:+ history →
      lastKeys? history first second = lastKeys? before first second) ∧
    ∀ (results : String) (federator : Federator) (calls : List (Call Q × Outcome))
      (response : SearchResponse), query.resultsCore = some results → query.validate = .ok () →
      Session.Trace (federator.execute query) calls (.ok response) →
      ∃ field,
        (∀ unite ∈ query.unites, LookedFor calls unite.core (uniteSearch unite) results field) ∧
        (query.UnitesCurrent ↔ ∀ unite ∈ query.unites, query.UniteMatches results field unite) := by
  have built : query.Built := ComposedQuery.built_iff.mpr ⟨_, builtBy⟩
  refine ⟨builtBy.unitesCurrent_iff, ?_⟩
  intro results federator calls response isSet valid trace
  rcases ComposedQuery.single_or_paired built valid isSet with single | ⟨other, paired⟩
  · refine ⟨"", by simp [single.noUnites], ?_⟩
    have current : query.UnitesCurrent := ⟨[], single.noUnites, by simp⟩
    simp [current, single.noUnites]
  · refine ⟨other.resultsKey, ?_, paired.unitesCurrent_iff built⟩
    intro unite member
    obtain ⟨plan, planned, joins⟩ := JoinPlan.ofQuery_paired isSet paired
    obtain ⟨field, isField, -, lookedFor⟩ :=
      federator.execute_looksFor planned trace (Or.inr (List.ne_nil_of_mem member))
    rw [joins.resultsCore] at isField lookedFor
    obtain rfl := Except.ok.inj (isField.symm.trans joins.resultsKey)
    exact lookedFor unite member

def rematchedEdits : List (Edit String) :=
  [.setResultsCore "books", .addMatch [("authors", "name"), ("books", "by")],
    .unite [("books", "Dutch"), ("authors", "Dutch")],
    .addMatch [("authors", "number"), ("books", "author")],
    .addMatch [("books", "by"), ("authors", "name")]]

def rematchedHistory : List PairEvent :=
  [.declared ("authors", "name") ("books", "by"),
    .declared ("authors", "number") ("books", "author"), .united "authors" "books",
    .declared ("authors", "name") ("books", "by")]

theorem rematchedEdits_current : ∃ query : ComposedQuery String,
    query = ({} : ComposedQuery String).edited rematchedEdits ∧
    query.BuiltBy rematchedHistory ∧ query.UnitesCurrent ∧
    query.unites = [⟨"authors", "name", "Dutch"⟩, ⟨"books", "by", "Dutch"⟩] := by
  have builtBy : (({} : ComposedQuery String).edited rematchedEdits).BuiltBy rematchedHistory :=
    ComposedQuery.BuiltBy.empty.edited rematchedEdits
  refine ⟨_, rfl, builtBy, (unites_current_iff builtBy).1.mpr ?_, rfl⟩
  intro first second before suffix
  simp only [rematchedHistory, List.suffix_cons_iff, List.cons.injEq, reduceCtorEq, false_and,
    PairEvent.united.injEq, false_or, List.suffix_nil, or_false] at suffix
  obtain ⟨⟨rfl, rfl⟩, rfl⟩ := suffix
  rfl

def staleEdits : List (Edit String) :=
  [.setResultsCore "A", .addMatch [("A", "k"), ("B", "j")], .unite [("A", "u"), ("B", "v")],
    .addMatch [("A", "i"), ("B", "j")]]

theorem staleEdits_stale : ∃ query : ComposedQuery String,
    query = ({} : ComposedQuery String).edited staleEdits ∧ query.Built ∧
    query.validate = .ok () ∧ query.unites = [⟨"A", "k", "u"⟩, ⟨"B", "j", "v"⟩] ∧
    query.keyNames? "A" "B" = some ("i", "j") ∧ ¬query.UnitesCurrent ∧
    ∀ plan, JoinPlan.ofQuery query = .ok plan → plan.keyFor "A" = .ok "i" := by
  refine ⟨_, rfl, ComposedQuery.Built.empty.edited _, rfl, rfl, rfl, ?_, ?_⟩
  · have unites : (({} : ComposedQuery String).edited staleEdits).unites =
        [((⟨"A", "k", "u"⟩ : Unite String), (⟨"B", "j", "v"⟩ : Unite String))].flatMap
          (fun pair => [pair.1, pair.2]) := rfl
    rw [ComposedQuery.unitesCurrent_iff_of_pairs unites]
    decide
  · intro plan planned
    obtain rfl := Except.ok.inj planned
    rfl

end FederatedSearch
