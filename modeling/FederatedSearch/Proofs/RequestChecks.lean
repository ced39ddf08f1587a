import FederatedSearch.Federation.Lowering
import FederatedSearch.Proofs.Attempts
import FederatedSearch.Proofs.Plans
import FederatedSearch.Translation.Restoration

/-! What is wrong with a request is found before any core is searched: once the plan stands, every
key field and every backend that is looked up later is there. -/

namespace FederatedSearch

variable {Q : Type} {calls : List (Call Q × Outcome)}

namespace Federator

variable {federator : Federator} {query : ComposedQuery Q} {plan : JoinPlan}

theorem collecting_ok {searches : String × List (Purpose × CoreSearch Q)}
    (known : federator.requireCore searches.1 = .ok ()) :
    federator.collecting searches = .ok (collectFrom searches.1 searches.2) := by
  unfold collecting
  rw [known]
  rfl

theorem counting_ok {keys : SortedSet String} {core key : String}
    (keyed : plan.keyFor core = .ok key) (known : federator.requireCore core = .ok ()) :
    federator.counting query plan keys core =
      .ok (countFrom core (facetSearch query core key keys)) := by
  unfold counting
  rw [keyed, known]
  rfl

theorem requireCore_of_mem_keySearches {searches : SortedMap String (List (Purpose × CoreSearch Q))}
    (planned : JoinPlan.ofQuery query = .ok plan)
    (known : ∀ core ∈ plan.cores, federator.requireCore core = .ok ())
    (found : keySearches query plan = .ok searches)
    {group : String × List (Purpose × CoreSearch Q)} (member : group ∈ searches.entries) :
    federator.requireCore group.1 = .ok () := by
  obtain ⟨joinKeys, joined, _, rfl⟩ := keySearches_ok found
  obtain ⟨search, inPlan, sameCore⟩ := SortedMap.key_of_mem_grouped member
  rw [← sameCore]
  exact known _ (core_of_mem_plannedSearches planned joined inPlan)

theorem exists_keyFor_facetCore (planned : JoinPlan.ofQuery query = .ok plan) {core : String}
    (member : core ∈ plan.facetCores) : ∃ key, plan.keyFor core = .ok key := by
  refine JoinPlan.exists_keyFor planned ?_
  obtain ⟨results, keys, _, _, rfl⟩ := JoinPlan.ofQuery_ok planned
  exact (List.mem_filter.mp member).1

theorem executeAlone_request_error {core : String} {error : RequestError}
    (known : federator.requireCore core = .ok ())
    (trace : Attempt.Trace (federator.executeAlone query core) calls (.error (.request error))) :
    calls = [] := by
  rcases Attempt.trace_bind.mp trace with ⟨_, first, same⟩ | ⟨_, _, _, _, _, later⟩
  · obtain ⟨outcome, _, ended⟩ := (trace_searchDirectly known).mp first
    cases same
    cases outcome <;> cases ended
  · cases (Attempt.trace_pure.mp later).2

theorem executeJoin_request_error {error : RequestError}
    (planned : JoinPlan.ofQuery query = .ok plan)
    (known : ∀ core ∈ plan.cores, federator.requireCore core = .ok ())
    (trace : Attempt.Trace (federator.executeJoin query plan) calls (.error (.request error))) :
    calls = [] := by
  rcases Attempt.trace_bind.mp trace with ⟨_, first, _⟩ | ⟨_, resultsKey, _, rfl, first, afterKey⟩
  · exact (trace_requested_error.mp first).1
  obtain ⟨rfl, _⟩ := trace_requested_ok.mp first
  rcases Attempt.trace_bind.mp afterKey with
    ⟨_, second, _⟩ | ⟨_, searches, _, rfl, second, afterSearches⟩
  · exact (trace_requested_error.mp second).1
  obtain ⟨rfl, found⟩ := trace_requested_ok.mp second
  rcases Attempt.trace_bind.mp afterSearches with
    ⟨_, third, _⟩ | ⟨_, tasks, _, _, _, afterStart⟩
  · obtain ⟨group, member, _, unprepared⟩ := startEach_error third
    rw [collecting_ok (requireCore_of_mem_keySearches planned known found member)] at unprepared
    cases unprepared
  rcases Attempt.trace_bind.mp afterStart with
    ⟨_, fourth, same⟩ | ⟨_, collected, _, _, _, afterCollecting⟩
  · obtain ⟨_, _, rfl⟩ := trace_awaitAll_error fourth
    cases same
  rcases Attempt.trace_bind.mp afterCollecting with
    ⟨_, fifth, same⟩ | ⟨_, answer, _, _, _, afterAnswer⟩
  · have knownResults := known plan.resultsCore plan.resultsCore_mem_cores
    obtain ⟨outcome, _, ended⟩ := (trace_searchDirectly knownResults).mp fifth
    cases same
    cases outcome <;> cases ended
  rcases Attempt.trace_bind.mp afterAnswer with
    ⟨_, sixth, _⟩ | ⟨_, counting, _, _, _, afterCounts⟩
  · obtain ⟨core, member, _, unprepared⟩ := startEach_error sixth
    have inPlan := JoinPlan.mem_cores_of_facetCore member
    obtain ⟨key, keyed⟩ := exists_keyFor_facetCore planned member
    rw [counting_ok keyed (known core inPlan)] at unprepared
    cases unprepared
  rcases Attempt.trace_bind.mp afterCounts with
    ⟨_, seventh, same⟩ | ⟨_, counted, _, _, _, last⟩
  · obtain ⟨_, _, rfl⟩ := trace_awaitAll_error seventh
    cases same
  · cases (Attempt.trace_pure.mp last).2

theorem execute_request_error {error : RequestError}
    (trace : Session.Trace (federator.execute query) calls (.error (.request error))) :
    calls = [] := by
  unfold execute at trace
  rcases Attempt.trace_bind.mp trace with ⟨_, first, _⟩ | ⟨_, plan, _, rfl, first, rest⟩
  · exact (Attempt.trace_settled.mp first).1
  obtain ⟨rfl, found⟩ := Attempt.trace_settled.mp first
  obtain ⟨_, planned, known⟩ := planFor_ok found.symm
  by_cases alone : plan.isPassThrough = true
  · rw [if_pos alone] at rest
    exact executeAlone_request_error (known _ plan.resultsCore_mem_cores) rest
  · rw [if_neg alone] at rest
    exact executeJoin_request_error planned known rest

end Federator

/-- A request is refused before any core is asked, whatever the cores would answer: as it is, after
its queries were converted, and after it was translated. -/
theorem invalid_request_asks_nothing (federator : Federator) (error : RequestError) :
    (∀ (query : ComposedQuery Q) calls,
      Session.Trace (federator.execute query) calls (.error (.request error)) → calls = []) ∧
    (∀ {P : Type} (convert : P → Except RequestError Q) (query : ComposedQuery P) calls,
      Session.Trace (federator.executeConverted convert query) calls (.error (.request error)) →
        calls = []) ∧
    ∀ (translator : Translator) (request : SearchRequest) calls,
      Session.Trace (translator.execute federator request) calls (.error (.request error)) →
        calls = [] := by
  refine ⟨?direct, ?converted, ?translated⟩
  case direct =>
      intro query calls trace
      exact Federator.execute_request_error trace
  case converted =>
      intro P convert query calls trace
      unfold Federator.executeConverted at trace
      split at trace
      · exact (Session.trace_done.mp trace).1
      · exact Federator.execute_request_error trace
  case translated =>
      intro translator request calls trace
      unfold Translator.execute at trace
      split at trace
      · exact (Session.trace_done.mp trace).1
      · obtain ⟨before, response, after, rfl, executed, restored⟩ := Session.trace_bind.mp trace
        obtain ⟨rfl, restoredTo⟩ := Session.trace_done.mp restored
        cases response with
        | ok found => cases restoredTo
        | error failure =>
            obtain rfl := Except.error.inj restoredTo
            rw [List.append_nil]
            exact Federator.execute_request_error executed

def selfUnite : ComposedQuery String where
  resultsCore := some "A"
  bundles := [{ core := "A" }]
  unites := [⟨"A", "k", "q"⟩]

theorem selfUnite_asks_nothing :
    Session.Trace (Federator.execute ⟨{}, SortedSet.ofList ["A"]⟩ selfUnite) []
      (.error (.request (.noMatchForCores ["A", "A"]))) ∧
    ∀ calls, Session.Trace (Federator.execute ⟨{}, SortedSet.ofList ["A"]⟩ selfUnite) calls
      (.error (.request (.noMatchForCores ["A", "A"]))) → calls = [] := by
  constructor
  · exact Session.trace_run (fun _ => .panicked) _
  · exact (invalid_request_asks_nothing _ _).1 selfUnite

end FederatedSearch
