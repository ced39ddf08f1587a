import FederatedSearch.Proofs.CollectedKeys
import FederatedSearch.Proofs.Executions

/-! What the results core is filtered by. The values that a search of the first phase gives, for a
join or for a unite, are all looked for in one field of the results core, that of its key. -/

namespace FederatedSearch

variable {Q : Type} {query : ComposedQuery Q} {plan : JoinPlan}

def LookedFor (calls : List (Call Q × Outcome)) (core : String) (search : CoreSearch Q)
    (results field : String) : Prop :=
  ∃ answer primary outcome filter,
    (⟨core, search⟩, .answered answer) ∈ calls ∧ (⟨results, primary⟩, outcome) ∈ calls ∧
    filter ∈ primary.keyFilters ∧ filter.field = field ∧
    ∀ key, answer.keys.contains key = true → filter.keys.contains key = true

theorem mem_combineKeys_of_join {collected : List PurposedKeys} {keys : SortedSet String}
    (member : (.join, keys) ∈ collected) : keys ∈ combineKeys collected := by
  rw [combineKeys_eq]
  exact List.mem_append_left _ (mem_keysFor.mpr member)

theorem exists_mem_combineKeys_of_unite {collected : List PurposedKeys} {keys : SortedSet String}
    (member : (.unite, keys) ∈ collected) :
    ∃ united ∈ combineKeys collected, ∀ key, keys.contains key = true →
      united.contains key = true := by
  have inUnites : keys ∈ keysFor .unite collected := mem_keysFor.mpr member
  refine ⟨unionOf (keysFor .unite collected), ?_, ?_⟩
  · rw [combineKeys_eq, if_neg]
    · exact List.mem_append_right _ (List.mem_singleton_self _)
    · intro none
      rw [List.isEmpty_iff.mp none] at inUnites
      cases inUnites
  · intro key present
    exact contains_unionOf.mpr ⟨keys, inUnites, present⟩

namespace JoinRun

variable {run : JoinRun Q}

theorem exists_exchange (follows : run.Follows query plan) {core : String} {purpose : Purpose}
    {search : CoreSearch Q} (planned : (core, purpose, search) ∈ plannedSearches query run.joinKeys) :
    ∃ answer, ⟨core, purpose, search, answer⟩ ∈ run.exchanges := by
  have asked : (core, purpose, search) ∈ run.exchanges.map Exchange.asked := by
    rw [follows.asked]
    exact (SortedMap.ungroup_grouped_perm _).mem_iff.mpr planned
  obtain ⟨exchange, member, isAsked⟩ := List.mem_map.mp asked
  refine ⟨exchange.answer, ?_⟩
  rw [← Exchange.eq_of_asked isAsked]
  exact member

theorem lookedFor {core : String} {purpose : Purpose} {search : CoreSearch Q}
    {answer : CoreResponse} (member : ⟨core, purpose, search, answer⟩ ∈ run.exchanges)
    {keys : SortedSet String} (combined : keys ∈ combineKeys run.collected)
    (within : ∀ key, answer.keys.contains key = true → keys.contains key = true) :
    LookedFor (run.calls query plan) core search plan.resultsCore run.resultsKey := by
  refine ⟨answer, run.primary query plan, .answered run.answer, ⟨run.resultsKey, keys⟩, ?_, ?_, ?_,
    rfl, within⟩
  · exact List.mem_append_left _ (List.mem_map_of_mem member)
  · exact List.mem_append_right _ List.mem_cons_self
  · exact List.mem_map_of_mem combined

theorem lookedFor_join (follows : run.Follows query plan) {core : String}
    (member : core ∈ plan.joinCores) : ∃ key, plan.keyFor core = .ok key ∧
      LookedFor (run.calls query plan) core (joinSearch query core key) plan.resultsCore
        run.resultsKey := by
  rw [← follows.joinCores] at member
  obtain ⟨⟨_, key⟩, inKeys, rfl⟩ := List.mem_map.mp member
  refine ⟨key, follows.joinKeys _ inKeys, ?_⟩
  obtain ⟨answer, exchanged⟩ := exists_exchange follows
    (List.mem_append_left _ (List.mem_map_of_mem inKeys))
  have collected : (.join, answer.keys) ∈ run.collected := List.mem_map_of_mem exchanged
  exact lookedFor exchanged (mem_combineKeys_of_join collected) fun _ present => present

theorem lookedFor_unite (follows : run.Follows query plan) {unite : Unite Q}
    (member : unite ∈ query.unites) :
    LookedFor (run.calls query plan) unite.core (uniteSearch unite) plan.resultsCore
      run.resultsKey := by
  obtain ⟨answer, exchanged⟩ := exists_exchange follows
    (List.mem_append_right _ (List.mem_map_of_mem member))
  have collected : (.unite, answer.keys) ∈ run.collected := List.mem_map_of_mem exchanged
  obtain ⟨united, combined, within⟩ := exists_mem_combineKeys_of_unite collected
  exact lookedFor exchanged combined within

end JoinRun

/-- An execution that gives a response looks for the values of every join and every unite in the
field that the plan has for the results core. -/
theorem Federator.execute_looksFor {federator : Federator} {calls : List (Call Q × Outcome)}
    {response : SearchResponse} (planned : JoinPlan.ofQuery query = .ok plan)
    (trace : Session.Trace (federator.execute query) calls (.ok response))
    (joined : plan.joinCores ≠ [] ∨ query.unites ≠ []) :
    ∃ resultsKey, plan.keyFor plan.resultsCore = .ok resultsKey ∧
      (∀ core ∈ plan.joinCores, ∃ key, plan.keyFor core = .ok key ∧
        LookedFor calls core (joinSearch query core key) plan.resultsCore resultsKey) ∧
      ∀ unite ∈ query.unites,
        LookedFor calls unite.core (uniteSearch unite) plan.resultsCore resultsKey := by
  obtain ⟨results, keys, isSet, -, isPlan⟩ := JoinPlan.ofQuery_ok planned
  obtain ⟨other, isOther, known, rest⟩ := execute_ok isSet trace
  obtain rfl := Except.ok.inj (planned.symm.trans isOther)
  have notAlone : ¬plan.isPassThrough = true := by
    intro alone
    simp only [JoinPlan.isPassThrough, Bool.and_eq_true, List.isEmpty_iff] at alone
    obtain ⟨⟨noJoins, -⟩, noUnites⟩ := alone
    have noneUnited : query.unites = [] := by
      rw [isPlan] at noUnites
      exact List.map_eq_nil_iff.mp noUnites
    rcases joined with joins | unites
    · exact joins noJoins
    · exact unites noneUnited
  rw [if_neg notAlone] at rest
  obtain ⟨run, follows, rfl, -⟩ := executeJoin_ok planned known rest
  exact ⟨run.resultsKey, follows.resultsKey, fun _ member => JoinRun.lookedFor_join follows member,
    fun _ member => JoinRun.lookedFor_unite follows member⟩

end FederatedSearch
