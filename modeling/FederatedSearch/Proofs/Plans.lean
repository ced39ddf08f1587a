import FederatedSearch.Federation.Execution
import FederatedSearch.Proofs.Grouping
import FederatedSearch.Proofs.ListResults

/-! What a plan holds: which cores it names, and that it has a key field for every core that is
joined to the results core. -/

namespace FederatedSearch

variable {Q : Type}

namespace JoinPlan

theorem ofQuery_ok {query : ComposedQuery Q} {plan : JoinPlan} (found : ofQuery query = .ok plan) :
    ∃ results keys, query.resultsCore = some results ∧
      joinKeys query results SortedMap.empty (query.cores.drop 1) = .ok keys ∧
      plan = { resultsCore := results, keys
               joinCores := (query.cores.drop 1).filter (coreHas query (·.isConstrained))
               facetCores := (query.cores.drop 1).filter (coreHas query (!·.facets.isEmpty))
               uniteCores := query.unites.map (·.core) } := by
  unfold ofQuery at found
  cases isSet : query.resultsCore with
  | none =>
      rw [isSet] at found
      cases found
  | some results =>
      rw [isSet] at found
      dsimp only at found
      cases keyed : joinKeys query results SortedMap.empty (query.cores.drop 1) with
      | error error =>
          rw [keyed] at found
          cases found
      | ok keys =>
          rw [keyed] at found
          exact ⟨results, keys, rfl, keyed, (Except.ok.inj found).symm⟩

theorem mem_addCore {cores : List String} {core other : String} :
    other ∈ addCore cores core ↔ other ∈ cores ∨ other = core := by
  unfold addCore
  by_cases present : cores.contains core = true
  · have member : core ∈ cores := by simpa using present
    rw [if_pos present]
    constructor
    · exact Or.inl
    · rintro (found | rfl)
      · exact found
      · exact member
  · rw [if_neg present]
    simp

theorem mem_foldl_addCore {cores added : List String} {core : String} :
    core ∈ added.foldl addCore cores ↔ core ∈ cores ∨ core ∈ added := by
  induction added generalizing cores with
  | nil => simp
  | cons head rest ih =>
      rw [List.foldl_cons, ih, mem_addCore, List.mem_cons]
      constructor
      · rintro ((before | same) | later)
        · exact Or.inl before
        · exact Or.inr (Or.inl same)
        · exact Or.inr (Or.inr later)
      · rintro (before | same | later)
        · exact Or.inl (Or.inl before)
        · exact Or.inl (Or.inr same)
        · exact Or.inr later

theorem mem_cores {plan : JoinPlan} {core : String} :
    core ∈ plan.cores ↔ core = plan.resultsCore ∨ core ∈ plan.joinCores ∨
      core ∈ plan.facetCores ∨ core ∈ plan.uniteCores := by
  unfold cores
  rw [mem_foldl_addCore]
  simp

theorem resultsCore_mem_cores (plan : JoinPlan) : plan.resultsCore ∈ plan.cores :=
  mem_cores.mpr (Or.inl rfl)

theorem mem_cores_of_facetCore {plan : JoinPlan} {core : String} (member : core ∈ plan.facetCores) :
    core ∈ plan.cores :=
  mem_cores.mpr (Or.inr (Or.inr (Or.inl member)))

theorem keyFor_ok {plan : JoinPlan} {core key : String} :
    plan.keyFor core = .ok key ↔ plan.keys.get? core = some key := by
  unfold keyFor
  cases plan.keys.get? core <;> simp

theorem joinKeys_isSome {query : ComposedQuery Q} {results : String}
    {before after : SortedMap String String} {others : List String}
    (found : joinKeys query results before others = .ok after) {core : String}
    (known : core ∈ others ∨ (before.get? core).isSome = true) :
    (after.get? core).isSome = true := by
  induction others generalizing before with
  | nil =>
      obtain missing | earlier := known
      · cases missing
      · rwa [← Except.ok.inj found]
  | cons head rest ih =>
      unfold joinKeys at found
      split at found
      · cases found
      · refine ih found ?_
        rcases known with inOthers | earlier
        · rcases List.mem_cons.mp inOthers with rfl | later
          · refine Or.inr ?_
            simp [SortedMap.get?_insert, Std.ReflCmp.compare_self]
          · exact Or.inl later
        · refine Or.inr ?_
          simp only [SortedMap.update, SortedMap.get?_insert]
          split
          · rfl
          · split
            · rfl
            · exact earlier

theorem exists_keyFor {query : ComposedQuery Q} {plan : JoinPlan}
    (found : ofQuery query = .ok plan) {core : String} (other : core ∈ query.cores.drop 1) :
    ∃ key, plan.keyFor core = .ok key := by
  obtain ⟨results, keys, _, keyed, rfl⟩ := ofQuery_ok found
  have isSome := joinKeys_isSome keyed (Or.inl other)
  obtain ⟨key, hasKey⟩ := Option.isSome_iff_exists.mp isSome
  exact ⟨key, keyFor_ok.mpr hasKey⟩

end JoinPlan

def plannedSearches (query : ComposedQuery Q) (joinKeys : List (String × String)) :
    List (String × Purpose × CoreSearch Q) :=
  joinKeys.map (fun (core, key) => (core, .join, joinSearch query core key)) ++
    query.unites.map fun unite => (unite.core, .unite, uniteSearch unite)

theorem keySearches_ok {query : ComposedQuery Q} {plan : JoinPlan}
    {searches : SortedMap String (List (Purpose × CoreSearch Q))}
    (found : keySearches query plan = .ok searches) :
    ∃ joinKeys : List (String × String), joinKeys.map (·.1) = plan.joinCores ∧
      (∀ joinKey ∈ joinKeys, plan.keyFor joinKey.1 = .ok joinKey.2) ∧
      searches = SortedMap.grouped (plannedSearches query joinKeys) := by
  unfold keySearches at found
  generalize listed : (List.mapM _ plan.joinCores : Except RequestError _) = joined at found
  cases joined with
  | error error => cases found
  | ok joins =>
      have steps := mapM_ok_iff.mp listed
      have keyed : ∃ joinKeys : List (String × String), joinKeys.map (·.1) = plan.joinCores ∧
          (∀ joinKey ∈ joinKeys, plan.keyFor joinKey.1 = .ok joinKey.2) ∧
          joins = joinKeys.map fun (core, key) => (core, .join, joinSearch query core key) := by
        clear found listed
        generalize plan.joinCores = cores at steps ⊢
        induction steps with
        | nil => exact ⟨[], rfl, by simp, rfl⟩
        | @cons core _ _ _ first _ ih =>
            obtain ⟨joinKeys, cores, hasKeys, rfl⟩ := ih
            cases hasKey : plan.keyFor core with
            | error error =>
                rw [hasKey] at first
                cases first
            | ok key =>
                rw [hasKey] at first
                refine ⟨(core, key) :: joinKeys, by rw [List.map_cons, cores], ?_, ?_⟩
                · exact List.forall_mem_cons.mpr ⟨hasKey, hasKeys⟩
                · rw [List.map_cons, ← Except.ok.inj first]
      obtain ⟨joinKeys, cores, hasKeys, rfl⟩ := keyed
      exact ⟨joinKeys, cores, hasKeys, (Except.ok.inj found).symm⟩

theorem keySearches_eq {query : ComposedQuery Q} {plan : JoinPlan} {key : String}
    (keyed : ∀ core ∈ plan.joinCores, plan.keyFor core = .ok key) :
    keySearches query plan =
      .ok (SortedMap.grouped (plannedSearches query (plan.joinCores.map (·, key)))) := by
  have joined : plan.joinCores.mapM (fun core => do
        return (core, Purpose.join, joinSearch query core (← plan.keyFor core))) =
      Except.ok (plan.joinCores.map fun core =>
        (core, Purpose.join, joinSearch query core key)) := by
    refine mapM_of_forall_ok fun core member => ?_
    rw [keyed core member]
    rfl
  unfold keySearches plannedSearches
  rw [joined, List.map_map]
  rfl

theorem core_of_mem_plannedSearches {query : ComposedQuery Q} {plan : JoinPlan}
    (found : JoinPlan.ofQuery query = .ok plan) {joinKeys : List (String × String)}
    (joined : joinKeys.map (·.1) = plan.joinCores) {search : String × Purpose × CoreSearch Q}
    (member : search ∈ plannedSearches query joinKeys) : search.1 ∈ plan.cores := by
  rw [JoinPlan.mem_cores]
  rcases List.mem_append.mp member with ofJoin | ofUnite
  · obtain ⟨joinKey, inKeys, rfl⟩ := List.mem_map.mp ofJoin
    refine Or.inr (Or.inl ?_)
    rw [← joined]
    exact List.mem_map_of_mem inKeys
  · obtain ⟨unite, inUnites, rfl⟩ := List.mem_map.mp ofUnite
    obtain ⟨results, keys, _, _, rfl⟩ := JoinPlan.ofQuery_ok found
    exact Or.inr (Or.inr (Or.inr (List.mem_map_of_mem inUnites)))

theorem Federator.planFor_ok {federator : Federator} {query : ComposedQuery Q} {plan : JoinPlan}
    (found : federator.planFor query = .ok plan) :
    query.validate = .ok () ∧ JoinPlan.ofQuery query = .ok plan ∧
      ∀ core ∈ plan.cores, federator.requireCore core = .ok () := by
  unfold Federator.planFor at found
  cases valid : query.validate with
  | error failure =>
      rw [valid] at found
      cases found
  | ok _ =>
      cases planned : JoinPlan.ofQuery query with
      | error error =>
          rw [valid, planned] at found
          cases found
      | ok other =>
          cases known : other.cores.forM federator.requireCore with
          | error error =>
              rw [valid, planned] at found
              simp [Except.mapError, bind, Except.bind, known] at found
          | ok _ =>
              rw [valid, planned] at found
              simp only [Except.mapError, bind, Except.bind, known] at found
              obtain rfl := Except.ok.inj found
              exact ⟨rfl, rfl, forM_ok_iff.mp known⟩

end FederatedSearch
