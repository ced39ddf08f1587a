import FederatedSearch.Proofs.Validation

/-! What holds of every query that operations build, in whichever order they are made and whether or
not they fail: how its cores, matches and unites hang together, and what reading it relies on. -/

namespace FederatedSearch

variable {Q : Type}

/-! Matches in ascending order of core -/

namespace Matchings

variable {matchings : Matchings}

theorem mem_keys_of_get? {pair : CorePair} {keys : String × String}
    (found : matchings.get? pair = some keys) : pair ∈ SortedMap.keys matchings :=
  key_mem_of_findEntry found

section Ascending

variable {first second : String}
  (ascend : ∀ pair ∈ SortedMap.keys matchings, compare pair.first pair.second = .lt)

include ascend

theorem get?_eq_none_of_lt (below : compare first second = .lt) :
    matchings.get? ⟨second, first⟩ = none := by
  cases backward : matchings.get? ⟨second, first⟩ with
  | none => rfl
  | some keys =>
      have above : compare second first = .lt := ascend _ (mem_keys_of_get? backward)
      rw [Std.OrientedCmp.gt_of_lt above] at below
      cases below

theorem keyNames?_of_lt (below : compare first second = .lt) :
    matchings.keyNames? first second = matchings.get? ⟨first, second⟩ := by
  unfold keyNames?
  rw [get?_eq_none_of_lt ascend below]
  cases matchings.get? ⟨first, second⟩ <;> rfl

/-- Where matches ascend there is at most one for two cores, and it can be looked up either way. -/
theorem keyNames?_swap (first second : String) :
    matchings.keyNames? second first = (matchings.keyNames? first second).map Prod.swap := by
  unfold keyNames?
  cases forward : matchings.get? ⟨first, second⟩ with
  | none => cases matchings.get? ⟨second, first⟩ <;> simp
  | some keys =>
      have below : compare first second = .lt := ascend _ (mem_keys_of_get? forward)
      rw [get?_eq_none_of_lt ascend below]

end Ascending

end Matchings

/-! Unites two by two -/

theorem exists_pairs {α β : Type} {label : α → β} {elements : List α} {labels : List (β × β)}
    (same : elements.map label = labels.flatMap fun pair => [pair.1, pair.2]) :
    ∃ pairs : List (α × α), elements = pairs.flatMap (fun pair => [pair.1, pair.2]) ∧
      pairs.map (fun pair => (label pair.1, label pair.2)) = labels := by
  induction labels generalizing elements with
  | nil => exact ⟨[], by simpa using same, rfl⟩
  | cons head rest ih =>
      match elements with
      | [] => simp at same
      | [only] => simp at same
      | first :: second :: later =>
          simp only [List.map_cons, List.flatMap_cons, List.cons_append, List.nil_append,
            List.cons.injEq] at same
          obtain ⟨isFirst, isSecond, sameRest⟩ := same
          obtain ⟨pairs, rfl, labelled⟩ := ih sameRest
          exact ⟨(first, second) :: pairs, by simp, by simp [labelled, isFirst, isSecond]⟩

namespace ComposedQuery

variable {query : ComposedQuery Q}

theorem mem_matchingCores {core : String} : core ∈ query.matchingCores.toList ↔
    ∃ pair ∈ SortedMap.keys query.matchings, core = pair.first ∨ core = pair.second := by
  rw [SortedSet.mem_toList, matchingCores, SortedSet.contains_ofList, List.mem_flatMap]
  simp

theorem mem_matchingCores_of_keyNames? {first second : String}
    (matched : (query.keyNames? first second).isSome = true) :
    first ∈ query.matchingCores.toList ∧ second ∈ query.matchingCores.toList := by
  simp only [mem_matchingCores]
  unfold keyNames? Matchings.keyNames? at matched
  cases forward : query.matchings.get? ⟨first, second⟩ with
  | some keys =>
      have member := Matchings.mem_keys_of_get? forward
      exact ⟨⟨_, member, Or.inl rfl⟩, ⟨_, member, Or.inr rfl⟩⟩
  | none =>
      cases backward : query.matchings.get? ⟨second, first⟩ with
      | some keys =>
          have member := Matchings.mem_keys_of_get? backward
          exact ⟨⟨_, member, Or.inr rfl⟩, ⟨_, member, Or.inl rfl⟩⟩
      | none => simp [forward, backward] at matched

structure Regular (query : ComposedQuery Q) : Prop where
  distinct : (query.bundles.map (·.core)).Nodup
  resultsRegistered : ∀ core, query.resultsCore = some core → core ∈ query.bundles.map (·.core)
  matchesAscend : ∀ pair ∈ SortedMap.keys query.matchings, pair.first < pair.second
  unitesPaired : ∃ pairs : List (Unite Q × Unite Q),
    query.unites = pairs.flatMap (fun pair => [pair.1, pair.2]) ∧
      ∀ pair ∈ pairs, pair.1.core ≠ pair.2.core ∧
        (query.keyNames? pair.1.core pair.2.core).isSome = true
  unitesRegistered : ∀ unite ∈ query.unites,
    unite.core ∈ query.bundles.map (·.core) ∧ unite.core ∈ query.matchingCores.toList

theorem Regular.of_wellFormed (wellFormed : query.outline.WellFormed) : query.Regular := by
  obtain ⟨labels, listed, coupled⟩ := wellFormed.unitesCoupled
  obtain ⟨pairs, unites, labelled⟩ := exists_pairs listed
  have each (pair : Unite Q × Unite Q) (member : pair ∈ pairs) :
      query.outline.Coupled pair.1.core pair.2.core := by
    refine coupled (pair.1.core, pair.2.core) ?_
    rw [← labelled]
    exact List.mem_map_of_mem member
  refine ⟨wellFormed.distinct, wellFormed.resultsRegistered, ?ascend, ⟨pairs, unites, ?paired⟩,
    ?registered⟩
  case ascend =>
      intro pair member
      exact compareOfLessAndEq_eq_lt.mp (wellFormed.matchesAscend pair member)
  case paired =>
      intro pair member
      refine ⟨?_, (each pair member).matched⟩
      intro same
      have below := compareOfLessAndEq_eq_lt.mp (each pair member).ascend
      exact String.lt_irrefl _ (same ▸ below)
  case registered =>
      intro unite member
      rw [unites, List.mem_flatMap] at member
      obtain ⟨pair, inPairs, isOne⟩ := member
      have coupledPair := each pair inPairs
      obtain ⟨firstMatched, secondMatched⟩ := mem_matchingCores_of_keyNames? coupledPair.matched
      rcases List.mem_pair.mp isOne with rfl | rfl
      · exact ⟨coupledPair.firstRegistered, firstMatched⟩
      · exact ⟨coupledPair.secondRegistered, secondMatched⟩

theorem nodup_cores {results : String} (distinct : (query.bundles.map (·.core)).Nodup)
    (isSet : query.resultsCore = some results) : query.cores.Nodup := by
  rw [cores_of_resultsCore isSet, List.nodup_cons]
  exact ⟨by simp, distinct.filter _⟩

theorem mem_cores {results core : String} (isSet : query.resultsCore = some results)
    (registered : results ∈ query.bundles.map (·.core)) :
    core ∈ query.cores ↔ core ∈ query.bundles.map (·.core) := by
  rw [cores_of_resultsCore isSet, List.mem_cons, List.mem_filter, decide_eq_true_iff]
  constructor
  · rintro (rfl | ⟨member, -⟩)
    · exact registered
    · exact member
  · intro member
    by_cases same : core = results
    · exact Or.inl same
    · exact Or.inr ⟨member, same⟩

/-- The invariant of built queries, and what follows from it: the cores of a query are those with a
bundle, each listed once, the results core in front of the others in the order in which they were
registered; key fields can be looked up either way round; and validation does not break off. -/
theorem regular_of_built (built : query.Built) :
    query.Regular ∧
    (∀ results, query.resultsCore = some results →
      query.cores = results :: (query.bundles.map (·.core)).filter (· ≠ results) ∧
      query.cores.Nodup ∧ ∀ core, core ∈ query.cores ↔ core ∈ query.bundles.map (·.core)) ∧
    (∀ edits, query.bundles.map (·.core) <+: (query.edited edits).bundles.map (·.core)) ∧
    (∀ first second,
      query.keyNames? second first = (query.keyNames? first second).map Prod.swap) ∧
    query.HasVerdict := by
  have wellFormed := built.wellFormed
  refine ⟨.of_wellFormed wellFormed, ?cores, ?order, ?keyNames, ?verdict⟩
  case cores =>
      intro results isSet
      exact ⟨cores_of_resultsCore isSet, nodup_cores wellFormed.distinct isSet,
        fun core => mem_cores isSet (wellFormed.resultsRegistered results isSet)⟩
  case order =>
      intro edits
      obtain ⟨added, isEdited, -⟩ := (Reached.start.edited edits).extends
      exact ⟨added, isEdited.symm⟩
  case keyNames => exact Matchings.keyNames?_swap wellFormed.matchesAscend
  case verdict =>
      rw [hasVerdict_iff]
      intro crashed
      obtain ⟨core, twice, -, -⟩ := validate_eq_crash_iff.mp crashed
      have distinct := wellFormed.distinct
      simp [twice] at distinct

def reunitedQuery : ComposedQuery String :=
  ({} : ComposedQuery String).edited
    [.unite [("A", "u"), ("B", "v")], .addMatch [("B", "j"), ("A", "k")], .setResultsCore "B",
      .addMatch [("A", "k")], .unite [("B", "v"), ("A", "u")]]

theorem reunitedQuery_regular : reunitedQuery.Built ∧
    reunitedQuery.unites = [⟨"A", "k", "u"⟩, ⟨"B", "j", "v"⟩] ∧ reunitedQuery.cores = ["B", "A"] ∧
    reunitedQuery.Regular := by
  have built : reunitedQuery.Built := Built.empty.edited _
  exact ⟨built, rfl, rfl, (regular_of_built built).1⟩

end ComposedQuery

end FederatedSearch
