import FederatedSearch.Proofs.BuiltQueries

/-! Built queries that are valid span the results core alone, or that core and one other: its
counterpart, with the fields by which documents of the two are joined. -/

namespace FederatedSearch

variable {Q : Type} {query : ComposedQuery Q} {results : String}

structure Counterpart where
  core : String
  key : String
  resultsKey : String
deriving DecidableEq

namespace ComposedQuery

def counterpart? (query : ComposedQuery Q) : Option Counterpart :=
  match query.cores with
  | [results, other] => (query.keyNames? results other).map fun keys => ⟨other, keys.2, keys.1⟩
  | _ => none

def constrains (query : ComposedQuery Q) (core : String) : Bool :=
  (query.queryFor core).isSome || !(query.filtersFor core).isEmpty ||
    !(query.drilldownsFor core).isEmpty

theorem cores_of_resultsCore (isSet : query.resultsCore = some results) :
    query.cores = results :: query.outline.registered.filter (· ≠ results) := by
  unfold cores
  rw [isSet]
  rfl

theorem validate_ok (valid : query.validate = .ok ()) :
    query.outline.registered.length = 1 ∨
      query.outline.registered.length = 2 ∧
        ∃ first second rest, query.cores = first :: second :: rest ∧
          (query.keyNames? first second).isSome = true := by
  have counted : query.numberOfCores = query.outline.registered.length := by
    simp [numberOfCores, outline]
  unfold validate at valid
  rw [counted] at valid
  dsimp only at valid
  split at valid
  · cases valid
  next inRange =>
    split at valid
    · cases valid
    split at valid
    next single => exact Or.inl single
    next several =>
      refine Or.inr ⟨?_, ?_⟩
      · rw [Bool.or_eq_true, decide_eq_true_iff, decide_eq_true_iff] at inRange
        unfold maxCores at inRange
        omega
      split at valid
      · cases valid
      split at valid
      next first second rest listed =>
        refine ⟨first, second, rest, listed, ?_⟩
        cases found : query.keyNames? first second with
        | none =>
            rw [found] at valid
            cases valid
        | some keys => rfl
      next => cases valid

theorem exists_other_of_two {cores : List String} (distinct : cores.Nodup)
    (two : cores.length = 2) (member : results ∈ cores) :
    ∃ other, other ≠ results ∧ cores.filter (· ≠ results) = [other] ∧
      ∀ core ∈ cores, core = results ∨ core = other := by
  match cores, two with
  | [first, second], _ =>
    have different : first ≠ second := by
      intro same
      simp [same] at distinct
    rcases List.mem_pair.mp member with rfl | rfl
    · exact ⟨second, different.symm, by simp [different.symm], by simp⟩
    · refine ⟨first, different, by simp [different], ?_⟩
      intro core inCores
      exact (List.mem_pair.mp inCores).symm

structure Single (query : ComposedQuery Q) (results : String) : Prop where
  cores : query.cores = [results]
  noCounterpart : query.counterpart? = none
  noUnites : query.unites = []

structure Paired (query : ComposedQuery Q) (results : String) (other : Counterpart) : Prop where
  cores : query.cores = [results, other.core]
  isOther : other.core ≠ results
  isCounterpart : query.counterpart? = some other
  keyNames : query.keyNames? results other.core = some (other.resultsKey, other.key)
  unites : ∀ unite ∈ query.unites, unite.core = results ∨ unite.core = other.core

theorem core_of_mem_unites (wellFormed : query.outline.WellFormed) {unite : Unite Q}
    (member : unite ∈ query.unites) :
    ∃ first second, query.outline.Coupled first second ∧
      (unite.core = first ∨ unite.core = second) := by
  obtain ⟨pairs, uniteCores, coupled⟩ := wellFormed.unitesCoupled
  have inCores : unite.core ∈ query.outline.uniteCores := List.mem_map_of_mem member
  rw [uniteCores, List.mem_flatMap] at inCores
  obtain ⟨pair, inPairs, isOne⟩ := inCores
  exact ⟨pair.1, pair.2, coupled pair inPairs, List.mem_pair.mp isOne⟩

theorem Single.of_length (wellFormed : query.outline.WellFormed)
    (isSet : query.resultsCore = some results) (one : query.outline.registered.length = 1) :
    query.Single results := by
  obtain ⟨only, isOnly⟩ := List.length_eq_one_iff.mp one
  have isResults : results = only := by
    have member := wellFormed.resultsRegistered results isSet
    rw [isOnly] at member
    exact List.mem_singleton.mp member
  subst isResults
  have cores : query.cores = [results] := by
    rw [cores_of_resultsCore isSet, isOnly]
    simp
  refine ⟨cores, ?_, ?_⟩
  · unfold counterpart?
    rw [cores]
  · rw [List.eq_nil_iff_forall_not_mem]
    intro unite member
    obtain ⟨first, second, coupled, _⟩ := core_of_mem_unites wellFormed member
    have isFirst := coupled.firstRegistered
    have isSecond := coupled.secondRegistered
    rw [isOnly, List.mem_singleton] at isFirst isSecond
    have ascend := coupled.ascend
    rw [isFirst, isSecond] at ascend
    have level : compare results results = .eq := Std.ReflCmp.compare_self
    rw [level] at ascend
    cases ascend

theorem Paired.of_length (wellFormed : query.outline.WellFormed)
    (isSet : query.resultsCore = some results) (two : query.outline.registered.length = 2)
    {first second : String} {rest : List String} (listed : query.cores = first :: second :: rest)
    (matched : (query.keyNames? first second).isSome = true) :
    ∃ other, query.Paired results other := by
  obtain ⟨other, isOther, others, either⟩ := exists_other_of_two wellFormed.distinct two
    (wellFormed.resultsRegistered results isSet)
  have cores : query.cores = [results, other] := by
    rw [cores_of_resultsCore isSet, others]
  obtain ⟨rfl, rest⟩ := List.cons.inj (cores.symm.trans listed)
  obtain ⟨rfl, _⟩ := List.cons.inj rest
  obtain ⟨⟨resultsKey, key⟩, keyNames⟩ := Option.isSome_iff_exists.mp matched
  refine ⟨⟨other, key, resultsKey⟩, cores, isOther, ?_, keyNames, ?_⟩
  · simp [counterpart?, cores, keyNames]
  · intro unite member
    obtain ⟨one, another, coupled, isOne⟩ := core_of_mem_unites wellFormed member
    rcases isOne with same | same
    · rw [same]
      exact either one coupled.firstRegistered
    · rw [same]
      exact either another coupled.secondRegistered

theorem single_or_paired (built : query.Built) (valid : query.validate = .ok ())
    (isSet : query.resultsCore = some results) :
    query.Single results ∨ ∃ other, query.Paired results other := by
  rcases validate_ok valid with one | ⟨two, first, second, rest, listed, matched⟩
  · exact Or.inl (Single.of_length built.wellFormed isSet one)
  · exact Or.inr (Paired.of_length built.wellFormed isSet two listed matched)

end ComposedQuery

/-! Their plans. -/

namespace JoinPlan

theorem coreHas_isConstrained (query : ComposedQuery Q) (core : String) :
    coreHas query (·.isConstrained) core = query.constrains core := by
  unfold coreHas ComposedQuery.constrains ComposedQuery.queryFor ComposedQuery.filtersFor
    ComposedQuery.drilldownsFor Bundle.isConstrained
  cases query.bundle? core <;> rfl

theorem coreHas_facets (query : ComposedQuery Q) (core : String) :
    coreHas query (!·.facets.isEmpty) core = !(query.facetsFor core).isEmpty := by
  unfold coreHas ComposedQuery.facetsFor
  cases query.bundle? core <;> rfl

theorem ofQuery_single (isSet : query.resultsCore = some results) (single : query.Single results) :
    ofQuery query = .ok ⟨results, SortedMap.empty, [], [], []⟩ := by
  unfold ofQuery
  rw [isSet]
  simp only [single.cores, single.noUnites, List.drop_one, List.tail_cons, List.filter_nil,
    List.map_nil]
  rfl

structure Joins (plan : JoinPlan) (query : ComposedQuery Q) (results : String)
    (other : Counterpart) : Prop where
  resultsCore : plan.resultsCore = results
  resultsKey : plan.keyFor results = .ok other.resultsKey
  otherKey : plan.keyFor other.core = .ok other.key
  joinCores : plan.joinCores = if query.constrains other.core then [other.core] else []
  facetCores : plan.facetCores = if (query.facetsFor other.core).isEmpty then [] else [other.core]
  uniteCores : plan.uniteCores = query.unites.map (·.core)

theorem ofQuery_paired {other : Counterpart} (isSet : query.resultsCore = some results)
    (paired : query.Paired results other) :
    ∃ plan, ofQuery query = .ok plan ∧ plan.Joins query results other := by
  have different : compare results other.core ≠ .eq := by
    intro same
    exact paired.isOther (Std.LawfulEqCmp.eq_of_compare same).symm
  have keyed : joinKeys query results SortedMap.empty [other.core] =
      .ok ((SortedMap.empty.update results (·.getD other.resultsKey)).insert other.core
        other.key) := by
    simp only [joinKeys, paired.keyNames]
  unfold ofQuery
  rw [isSet]
  simp only [paired.cores, List.drop_one, List.tail_cons, keyed]
  refine ⟨_, rfl, rfl, ?resultsKey, ?otherKey, ?joinCores, ?facetCores, rfl⟩
  case resultsKey =>
      rw [keyFor_ok]
      simp [SortedMap.update, SortedMap.get?_insert, different]
  case otherKey =>
      rw [keyFor_ok]
      simp [SortedMap.get?_insert]
  case joinCores =>
      simp [List.filter_cons, coreHas_isConstrained]
  case facetCores =>
      cases empty : (query.facetsFor other.core).isEmpty <;>
        simp [coreHas_facets, empty]

namespace Joins

variable {plan : JoinPlan} {other : Counterpart}

theorem keyFor_joinCore (joins : plan.Joins query results other) {core : String}
    (member : core ∈ plan.joinCores) : plan.keyFor core = .ok other.key := by
  rw [joins.joinCores] at member
  split at member
  · rw [List.mem_singleton.mp member]
    exact joins.otherKey
  · cases member

theorem keyFor_facetCore (joins : plan.Joins query results other) {core : String}
    (member : core ∈ plan.facetCores) : plan.keyFor core = .ok other.key := by
  rw [joins.facetCores] at member
  split at member
  · cases member
  · rw [List.mem_singleton.mp member]
    exact joins.otherKey

theorem isPassThrough_iff (joins : plan.Joins query results other) :
    plan.isPassThrough = true ↔ query.constrains other.core = false ∧
      query.facetsFor other.core = [] ∧ query.unites = [] := by
  unfold isPassThrough
  rw [joins.joinCores, joins.facetCores, joins.uniteCores]
  cases query.constrains other.core <;> cases query.facetsFor other.core <;> simp

end Joins

end JoinPlan

end FederatedSearch
