import FederatedSearch.Composed.Conversion
import FederatedSearch.Composed.Edit
import FederatedSearch.Proofs.ListResults
import FederatedSearch.Proofs.Plans

/-! Composed queries as their operations build them, and what the operations keep: a core has one
bundle, the results core is registered, matches are kept in ascending order of core, and unites
come in pairs of registered, matched cores. -/

namespace FederatedSearch

structure Outline where
  registered : List String
  resultsCore : Option String
  matchings : Matchings
  uniteCores : List String

namespace Outline

def register (outline : Outline) (core : String) : Outline :=
  { outline with registered := JoinPlan.addCore outline.registered core }

inductive Step : Outline → Outline → Prop
  | keep (outline : Outline) : Step outline outline
  | register (outline : Outline) (core : String) : Step outline (outline.register core)
  | setResultsCore (outline : Outline) (core : String) :
      Step outline { outline.register core with resultsCore := some core }
  | declare (outline : Outline) {first second : String × String}
      (ascend : compare first.1 second.1 = .lt) :
      Step outline { outline with matchings := outline.matchings.declare first second }
  | unite (outline : Outline) {first second : String} (ascend : compare first second = .lt)
      (matched : (outline.matchings.keyNames? first second).isSome = true) :
      Step outline { (outline.register first).register second with
        uniteCores := outline.uniteCores ++ [first, second] }

structure Coupled (outline : Outline) (first second : String) : Prop where
  ascend : compare first second = .lt
  firstRegistered : first ∈ outline.registered
  secondRegistered : second ∈ outline.registered
  matched : (outline.matchings.keyNames? first second).isSome = true

structure WellFormed (outline : Outline) : Prop where
  distinct : outline.registered.Nodup
  resultsRegistered : ∀ core, outline.resultsCore = some core → core ∈ outline.registered
  matchesAscend : ∀ pair ∈ outline.matchings.keys, compare pair.first pair.second = .lt
  unitesCoupled : ∃ pairs : List (String × String),
    outline.uniteCores = pairs.flatMap (fun pair => [pair.1, pair.2]) ∧
      ∀ pair ∈ pairs, outline.Coupled pair.1 pair.2

variable {outline changed : Outline}

theorem nodup_addCore {cores : List String} (distinct : cores.Nodup) (core : String) :
    (JoinPlan.addCore cores core).Nodup := by
  unfold JoinPlan.addCore
  by_cases present : core ∈ cores
  · simpa [present] using distinct
  · have added : (cores ++ [core]).Nodup := by
      rw [List.nodup_append]
      refine ⟨distinct, by simp, ?_⟩
      rintro other inCores _ isCore rfl
      exact present (List.mem_singleton.mp isCore ▸ inCores)
    simpa [present] using added

theorem mem_register {core other : String} :
    other ∈ (outline.register core).registered ↔ other ∈ outline.registered ∨ other = core :=
  JoinPlan.mem_addCore

theorem keyNames?_declare_isSome {matchings : Matchings} {sides other : String × String}
    {first second : String} (matched : (matchings.keyNames? first second).isSome = true) :
    ((matchings.declare sides other).keyNames? first second).isSome = true := by
  unfold Matchings.keyNames? Matchings.declare at *
  simp only [SortedMap.get?_insert]
  by_cases sameOrder : compare (⟨first, second⟩ : CorePair) ⟨sides.1, other.1⟩ = .eq
  · simp [sameOrder]
  rw [if_neg sameOrder]
  cases found : matchings.get? ⟨first, second⟩ with
  | some keys => rfl
  | none =>
      rw [found] at matched
      by_cases swapped : compare (⟨second, first⟩ : CorePair) ⟨sides.1, other.1⟩ = .eq
      · simp [swapped]
      · simpa [swapped] using matched

theorem Coupled.step {first second : String} (coupled : outline.Coupled first second)
    (step : Step outline changed) : changed.Coupled first second := by
  obtain ⟨ascend, firstRegistered, secondRegistered, matched⟩ := coupled
  cases step with
  | keep => exact ⟨ascend, firstRegistered, secondRegistered, matched⟩
  | register core =>
      exact ⟨ascend, mem_register.mpr (Or.inl firstRegistered),
        mem_register.mpr (Or.inl secondRegistered), matched⟩
  | setResultsCore core =>
      exact ⟨ascend, mem_register.mpr (Or.inl firstRegistered),
        mem_register.mpr (Or.inl secondRegistered), matched⟩
  | declare _ =>
      exact ⟨ascend, firstRegistered, secondRegistered, keyNames?_declare_isSome matched⟩
  | unite _ _ =>
      exact ⟨ascend, mem_register.mpr (Or.inl (mem_register.mpr (Or.inl firstRegistered))),
        mem_register.mpr (Or.inl (mem_register.mpr (Or.inl secondRegistered))), matched⟩

theorem WellFormed.step (wellFormed : outline.WellFormed) (step : Step outline changed) :
    changed.WellFormed := by
  obtain ⟨pairs, uniteCores, coupled⟩ := wellFormed.unitesCoupled
  have stillCoupled : ∀ pair ∈ pairs, changed.Coupled pair.1 pair.2 := by
    intro pair member
    exact (coupled pair member).step step
  cases step with
  | keep => exact wellFormed
  | register core =>
      refine ⟨nodup_addCore wellFormed.distinct core, ?_, wellFormed.matchesAscend, pairs,
        uniteCores, stillCoupled⟩
      intro results isSet
      exact mem_register.mpr (Or.inl (wellFormed.resultsRegistered results isSet))
  | setResultsCore core =>
      refine ⟨nodup_addCore wellFormed.distinct core, ?_, wellFormed.matchesAscend, pairs,
        uniteCores, stillCoupled⟩
      intro results isSet
      exact mem_register.mpr (Or.inr (Option.some.inj isSet).symm)
  | @declare first second ascend =>
      refine ⟨wellFormed.distinct, wellFormed.resultsRegistered, ?_, pairs, uniteCores,
        stillCoupled⟩
      intro pair member
      obtain ⟨entry, inEntries, rfl⟩ := List.mem_map.mp member
      rcases key_of_mem_putEntry inEntries with isNew | wasThere
      · rw [isNew]
        exact ascend
      · exact wellFormed.matchesAscend _ (List.mem_map_of_mem wasThere)
  | @unite first second ascend matched =>
      have distinct := nodup_addCore (nodup_addCore wellFormed.distinct first) second
      refine ⟨distinct, ?_, wellFormed.matchesAscend, pairs ++ [(first, second)], ?_, ?_⟩
      · intro results isSet
        have before := wellFormed.resultsRegistered results isSet
        exact mem_register.mpr (Or.inl (mem_register.mpr (Or.inl before)))
      · simp [uniteCores]
      · intro pair member
        rcases List.mem_append.mp member with earlier | added
        · exact stillCoupled pair earlier
        · obtain rfl := List.mem_singleton.mp added
          refine ⟨ascend, ?_, mem_register.mpr (Or.inr rfl), matched⟩
          exact mem_register.mpr (Or.inl (mem_register.mpr (Or.inr rfl)))

end Outline

namespace ComposedQuery

variable {Q R ε : Type}

def outline (query : ComposedQuery Q) : Outline where
  registered := query.bundles.map (·.core)
  resultsCore := query.resultsCore
  matchings := query.matchings
  uniteCores := query.unites.map (·.core)

theorem registered_changeBundle {core : String} {change : Bundle Q → Bundle Q}
    (keepsCore : ∀ bundle, bundle.core = core → (change bundle).core = core)
    (bundles : List (Bundle Q)) :
    (changeBundle core change bundles).map (·.core) =
      JoinPlan.addCore (bundles.map (·.core)) core := by
  induction bundles with
  | nil => simp [changeBundle, JoinPlan.addCore, keepsCore { core } rfl]
  | cons bundle rest ih =>
      unfold changeBundle
      by_cases same : bundle.core = core
      · simp [same, JoinPlan.addCore, keepsCore bundle same]
      · rw [if_neg same, List.map_cons, ih]
        have different : core ≠ bundle.core := Ne.symm same
        unfold JoinPlan.addCore
        by_cases present : core ∈ rest.map (·.core)
        · simp [present]
        · simp [present, different]

theorem outline_change {query : ComposedQuery Q} {core : String} {change : Bundle Q → Bundle Q}
    (keepsCore : ∀ bundle, bundle.core = core → (change bundle).core = core) :
    (query.change core change).outline = query.outline.register core := by
  unfold ComposedQuery.change outline Outline.register
  rw [registered_changeBundle keepsCore]

theorem step_change {query : ComposedQuery Q} {core : String} {change : Bundle Q → Bundle Q}
    (keepsCore : ∀ bundle, bundle.core = core → (change bundle).core = core) :
    Outline.Step query.outline (query.change core change).outline := by
  rw [outline_change keepsCore]
  exact .register _ core

theorem outline_register (query : ComposedQuery Q) (core : String) :
    (query.register core).outline = query.outline.register core :=
  outline_change fun _ same => same

theorem step_setResultsCore (query : ComposedQuery Q) (core : String) :
    Outline.Step query.outline (query.setResultsCore core).outline := by
  have outlined : (query.setResultsCore core).outline =
      { query.outline.register core with resultsCore := some core } := by
    rw [← outline_register]
    rfl
  rw [outlined]
  exact .setResultsCore _ core

theorem orderedPair_ok {α : Type} {operation : PairOperation} {entries : List (String × α)}
    {first second : String × α} (found : orderedPair operation entries = .ok (first, second)) :
    compare first.1 second.1 = .lt ∧ (entries = [first, second] ∨ entries = [second, first]) := by
  unfold orderedPair at found
  split at found
  next one other =>
    split at found
    next below =>
      cases found
      exact ⟨below, Or.inl rfl⟩
    next above =>
      cases found
      exact ⟨Std.OrientedCmp.lt_of_gt above, Or.inr rfl⟩
    next => cases found
  next => cases found

theorem addMatch_ok {query changed : ComposedQuery Q} {sides : List (String × String)}
    (done : query.addMatch sides = .ok changed) : ∃ first second,
      orderedPair .addMatch sides = .ok (first, second) ∧
        changed = { query with matchings := query.matchings.declare first second } := by
  obtain ⟨⟨first, second⟩, ordered, same⟩ := bind_ok_iff.mp done
  exact ⟨first, second, ordered, (Except.ok.inj same).symm⟩

theorem unite_ok {query changed : ComposedQuery Q} {queries : List (String × Q)}
    (done : query.unite queries = .ok changed) : ∃ first second keys,
      orderedPair .unite queries = .ok (first, second) ∧
        query.keyNames? first.1 second.1 = some keys ∧
        changed = { (query.register first.1).register second.1 with
          unites := query.unites ++
            [⟨first.1, keys.1, first.2⟩, ⟨second.1, keys.2, second.2⟩] } := by
  obtain ⟨⟨first, second⟩, ordered, united⟩ := bind_ok_iff.mp done
  cases matched : query.keyNames? first.1 second.1 with
  | none => simp [matched] at united
  | some keys =>
      simp only [matched] at united
      exact ⟨first, second, keys, ordered, matched, (Except.ok.inj united).symm⟩

theorem step_addMatch {query changed : ComposedQuery Q} {sides : List (String × String)}
    (done : query.addMatch sides = .ok changed) :
    Outline.Step query.outline changed.outline := by
  obtain ⟨first, second, ordered, rfl⟩ := addMatch_ok done
  exact .declare _ (orderedPair_ok ordered).1

theorem step_unite {query changed : ComposedQuery Q} {queries : List (String × Q)}
    (done : query.unite queries = .ok changed) :
    Outline.Step query.outline changed.outline := by
  obtain ⟨first, second, keys, ordered, matched, rfl⟩ := unite_ok done
  have outlined : ∀ added : List (Unite Q), added.map (·.core) = [first.1, second.1] →
      outline { (query.register first.1).register second.1 with
        unites := query.unites ++ added } =
      { (query.outline.register first.1).register second.1 with
        uniteCores := query.outline.uniteCores ++ [first.1, second.1] } := by
    intro added cores
    rw [← outline_register, ← outline_register]
    simp [outline, cores]
  rw [outlined _ rfl]
  refine .unite _ (orderedPair_ok ordered).1 ?_
  change (query.keyNames? first.1 second.1).isSome = true
  rw [matched]
  rfl

theorem step_applyOrKeep (query : ComposedQuery Q) (edit : Edit Q) :
    Outline.Step query.outline (edit.applyOrKeep query).outline := by
  unfold Edit.applyOrKeep
  cases edit with
  | setResultsCore core => exact step_setResultsCore query core
  | add core main facets filters => exact step_change fun _ _ => rfl
  | setCoreQuery core main => exact step_change fun _ same => same
  | addFilter core filter => exact step_change fun _ same => same
  | addFacet core facet => exact step_change fun _ same => same
  | addDrilldown core drilldown => exact step_change fun _ same => same
  | setRankQuery core rank => exact step_change fun _ same => same
  | addMatch sides =>
      cases done : (Edit.addMatch sides).apply query with
      | ok changed => exact step_addMatch done
      | error error => exact .keep _
  | unite queries =>
      cases done : (Edit.unite queries).apply query with
      | ok changed => exact step_unite done
      | error error => exact .keep _
  | addSortKey | setStart | setStop | setSuggestions | setDedup | setGroupingField
    | setClustering => exact .keep _

theorem outline_convert (query : ComposedQuery Q) (convert : Q → R) :
    (query.convert convert).outline = query.outline := by
  simp [outline, ComposedQuery.convert, Bundle.convert, Unite.convert, Function.comp_def]

theorem core_of_bundle_tryConvert {convert : Q → Except ε R} {bundle : Bundle Q}
    {converted : Bundle R} (done : bundle.tryConvert convert = .ok converted) :
    converted.core = bundle.core := by
  unfold Bundle.tryConvert at done
  cases first : bundle.query.mapM convert with
  | error error => simp [first, bind, Except.bind] at done
  | ok main =>
      cases second : bundle.filters.mapM convert with
      | error error => simp [first, second, bind, Except.bind] at done
      | ok filters =>
          cases third : bundle.rankQuery.mapM convert with
          | error error => simp [first, second, third, bind, Except.bind] at done
          | ok rank =>
              simp only [first, second, third, bind, Except.bind, pure, Except.pure] at done
              rw [← Except.ok.inj done]

theorem core_of_unite_tryConvert {convert : Q → Except ε R} {unite : Unite Q}
    {converted : Unite R} (done : unite.tryConvert convert = .ok converted) :
    converted.core = unite.core := by
  unfold Unite.tryConvert at done
  cases found : convert unite.query with
  | error error => simp [found, bind, Except.bind] at done
  | ok query =>
      simp only [found, bind, Except.bind, pure, Except.pure] at done
      rw [← Except.ok.inj done]

theorem outline_tryConvert {query : ComposedQuery Q} {convert : Q → Except ε R}
    {converted : ComposedQuery R} (done : query.tryConvert convert = .ok converted) :
    converted.outline = query.outline := by
  unfold ComposedQuery.tryConvert at done
  cases bundled : query.bundles.mapM (·.tryConvert convert) with
  | error error => simp [bundled, bind, Except.bind] at done
  | ok bundles =>
      cases united : query.unites.mapM (·.tryConvert convert) with
      | error error => simp [bundled, united, bind, Except.bind] at done
      | ok unites =>
          simp only [bundled, united, bind, Except.bind, pure, Except.pure] at done
          have registered := map_eq_of_mapM_ok (·.core) (·.core)
            (fun _ _ one => core_of_bundle_tryConvert one) bundled
          have uniteCores := map_eq_of_mapM_ok (·.core) (·.core)
            (fun _ _ one => core_of_unite_tryConvert one) united
          rw [← Except.ok.inj done]
          simp [outline, registered, uniteCores]

/-! The queries that operations make of the empty one. -/

/-- A query is built by operations; one that fails changes nothing. -/
inductive Built : {Q : Type} → ComposedQuery Q → Prop
  | empty {Q : Type} : Built ({} : ComposedQuery Q)
  | edit {Q : Type} {query : ComposedQuery Q} (before : Built query) (edit : Edit Q) :
      Built (edit.applyOrKeep query)
  | convert {Q R : Type} {query : ComposedQuery Q} (before : Built query) (convert : Q → R) :
      Built (query.convert convert)
  | tryConvert {Q R ε : Type} {query : ComposedQuery Q} {converted : ComposedQuery R}
      (before : Built query) (convert : Q → Except ε R)
      (done : query.tryConvert convert = .ok converted) : Built converted

theorem Built.apply {query changed : ComposedQuery Q} {edit : Edit Q} (built : query.Built)
    (done : edit.apply query = .ok changed) : changed.Built := by
  have same : edit.applyOrKeep query = changed := by
    unfold Edit.applyOrKeep
    rw [done]
  rw [← same]
  exact built.edit edit

theorem Built.edited {query : ComposedQuery Q} (built : query.Built) (edits : List (Edit Q)) :
    (query.edited edits).Built := by
  unfold ComposedQuery.edited
  induction edits generalizing query with
  | nil => exact built
  | cons edit rest ih => exact ih (built.edit edit)

theorem Built.wellFormed {query : ComposedQuery Q} (built : query.Built) :
    query.outline.WellFormed := by
  induction built with
  | empty =>
      refine ⟨List.nodup_nil, ?_, ?_, [], rfl, ?_⟩
      · intro core isSet
        cases isSet
      · intro pair member
        cases member
      · intro pair member
        cases member
  | edit before edit ih => exact ih.step (step_applyOrKeep _ edit)
  | convert before convert ih =>
      rw [outline_convert]
      exact ih
  | tryConvert before convert done ih =>
      rw [outline_tryConvert done]
      exact ih

end ComposedQuery

end FederatedSearch
