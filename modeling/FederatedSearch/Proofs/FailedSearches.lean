import FederatedSearch.Proofs.CallProtocol
import FederatedSearch.Proofs.Concurrency

/-! What a failing search does to a request, whatever the cores answer and however the searches of
a phase overlap: the task that made it ends, the next phase does not begin, and the request fails
with the error of a search that did. -/

namespace FederatedSearch

variable {Q α β : Type}

def Outcome.isAnswered : Outcome → Bool
  | .answered _ => true
  | _ => false

theorem not_exists_unanswered {inPhase : Call Q × Outcome → Prop}
    (answered : ∀ call, inPhase call → call.2.isAnswered = true) :
    ¬∃ call, inPhase call ∧ call.2.isAnswered = false := by
  rintro ⟨call, member, unanswered⟩
  rw [answered call member] at unanswered
  cases unanswered

/-! Interleaved calls -/

theorem received_cons (core : String) (call : Call Q × Outcome) (calls : List (Call Q × Outcome)) :
    received core (call :: calls) =
      if call.1.core = core then (call.1.search, call.2) :: received core calls
      else received core calls := by
  by_cases same : call.1.core = core <;> simp [received, same]

namespace Interleaved

theorem symm {first second both : List α} (merged : Interleaved first second both) :
    Interleaved second first both := by
  induction merged with
  | nil => exact .nil
  | left _ ih => exact ih.right
  | right _ ih => exact ih.left

theorem mem_iff {first second both : List α} (merged : Interleaved first second both) {a : α} :
    a ∈ both ↔ a ∈ first ∨ a ∈ second := by
  induction merged with
  | nil => simp
  | left _ ih => rw [List.mem_cons, List.mem_cons, ih, or_assoc]
  | right _ ih => rw [List.mem_cons, List.mem_cons, ih, or_left_comm]

theorem received_left {first second both : List (Call Q × Outcome)} {core : String}
    (merged : Interleaved first second both) (none : received core second = []) :
    received core both = received core first := by
  induction merged with
  | nil => rfl
  | left _ ih => rw [received_cons, received_cons, ih none]
  | @right call _ _ _ _ ih =>
      rw [received_cons] at none ⊢
      by_cases same : call.1.core = core
      · rw [if_pos same] at none
        cases none
      · rw [if_neg same] at none ⊢
        exact ih none

end Interleaved

theorem AllInterleaved.mem_iff {parts : List (List α)} {whole : List α}
    (merged : AllInterleaved parts whole) {a : α} : a ∈ whole ↔ ∃ part ∈ parts, a ∈ part := by
  induction merged with
  | nil => simp
  | cons _ merged ih => rw [merged.mem_iff, ih, List.exists_mem_cons_iff]

/-! Tasks -/

inductive UntilFailure : List (CoreSearch Q) → List (CoreSearch Q × Outcome) → Prop
  | cut (requests : List (CoreSearch Q)) : UntilFailure requests []
  | failed (request : CoreSearch Q) (rest : List (CoreSearch Q)) {outcome : Outcome}
      (unanswered : outcome.isAnswered = false) :
      UntilFailure (request :: rest) [(request, outcome)]
  | answered (request : CoreSearch Q) {rest : List (CoreSearch Q)}
      {later : List (CoreSearch Q × Outcome)} (response : CoreResponse)
      (goesOn : UntilFailure rest later) :
      UntilFailure (request :: rest) ((request, .answered response) :: later)

namespace UntilFailure

variable {requests : List (CoreSearch Q)} {made later : List (CoreSearch Q × Outcome)}

theorem isPrefix (inTurn : UntilFailure requests made) : made.map (·.1) <+: requests := by
  induction inTurn with
  | cut requests => exact List.nil_prefix
  | failed request rest _ => exact (List.prefix_cons_inj request).mpr List.nil_prefix
  | answered request _ _ ih => exact (List.prefix_cons_inj request).mpr ih

theorem of_append (inTurn : UntilFailure requests (made ++ later)) :
    UntilFailure requests made := by
  induction made generalizing requests with
  | nil => exact .cut requests
  | cons exchange made ih =>
      generalize whole : exchange :: made ++ later = all at inTurn
      cases inTurn with
      | cut requests => cases whole
      | failed request rest unanswered =>
          obtain ⟨rfl, nothing⟩ := List.cons.inj whole
          obtain ⟨rfl, _⟩ := List.append_eq_nil_iff.mp nothing
          exact .failed request rest unanswered
      | answered request response goesOn =>
          obtain ⟨rfl, rfl⟩ := List.cons.inj whole
          exact .answered request response (ih goesOn)

theorem nil_iff : UntilFailure [] made ↔ made = [] := by
  constructor
  · intro inTurn
    cases inTurn
    rfl
  · rintro rfl
    exact .cut []

theorem nothing_after (inTurn : UntilFailure requests made)
    {before after : List (CoreSearch Q × Outcome)} {exchange : CoreSearch Q × Outcome}
    (split : made = before ++ exchange :: after) (unanswered : exchange.2.isAnswered = false) :
    after = [] := by
  induction inTurn generalizing before with
  | cut requests => simp at split
  | failed request rest _ =>
      have length := congrArg List.length split
      simp only [List.length_append, List.length_cons, List.length_nil] at length
      exact List.length_eq_zero_iff.mp (by omega)
  | answered request response _ ih =>
      cases before with
      | nil =>
          obtain ⟨rfl, _⟩ := List.cons.inj split
          cases unanswered
      | cons first before => exact ih (List.cons.inj split).2

end UntilFailure

def callsOn (core : String) (made : List (CoreSearch Q × Outcome)) : List (Call Q × Outcome) :=
  made.map fun exchange => (⟨core, exchange.1⟩, exchange.2)

theorem callsOn_cons (core : String) (exchange : CoreSearch Q × Outcome)
    (made : List (CoreSearch Q × Outcome)) :
    callsOn core (exchange :: made) = (⟨core, exchange.1⟩, exchange.2) :: callsOn core made :=
  rfl

theorem received_callsOn (core : String) (made : List (CoreSearch Q × Outcome)) :
    received core (callsOn core made) = made := by
  induction made with
  | nil => rfl
  | cons exchange made ih => rw [callsOn_cons, received_cons, if_pos rfl, ih]

theorem received_callsOn_other {core other : String} (different : other ≠ core)
    (made : List (CoreSearch Q × Outcome)) : received core (callsOn other made) = [] := by
  induction made with
  | nil => rfl
  | cons exchange made ih => rw [callsOn_cons, received_cons, if_neg different, ih]

structure Settled {ε : Type} (wrap : BackendError → ε) (calls : List (Call Q × Outcome))
    (result : Except ε β) : Prop where
  ok : ∀ value, result = .ok value → ∀ call ∈ calls, call.2.isAnswered = true
  error : ∀ failure, result = .error failure → ∃ call ∈ calls, ∃ error,
    call.2.apart call.1.core = .error error ∧ failure = wrap error

def IsTask (core : String) (requests : List (CoreSearch Q)) (task : Attempt Q BackendError β) :
    Prop :=
  ∀ calls result, task.Trace calls result →
    (∃ made, calls = callsOn core made ∧ UntilFailure requests made ∧
      ∀ value, result = .ok value → made.map (·.1) = requests) ∧ Settled id calls result

theorem IsTask.begins {core : String} {requests : List (CoreSearch Q)}
    {task : Attempt Q BackendError β} (isTask : IsTask core requests task)
    {calls : List (Call Q × Outcome)} (begun : task.Begins calls) :
    ∃ made, UntilFailure requests made ∧ calls = callsOn core made := by
  obtain ⟨later, result, trace⟩ := begun
  obtain ⟨⟨made, split, inTurn, _⟩, _⟩ := isTask _ _ trace
  obtain ⟨first, second, rfl, rfl, _⟩ := List.append_eq_map_iff.mp split
  exact ⟨first, inTurn.of_append, rfl⟩

theorem isAnswered_of_error {core : String} {outcome : Outcome} {error : BackendError}
    (ended : outcome.apart core = .error error) : outcome.isAnswered = false := by
  cases outcome with
  | answered response => cases ended
  | failed error => rfl
  | panicked => rfl

namespace IsTask

variable {core : String}

theorem pure (value : β) : IsTask core [] (pure value : Attempt Q BackendError β) := by
  intro calls result trace
  obtain ⟨rfl, rfl⟩ := Attempt.trace_pure.mp trace
  exact ⟨⟨[], rfl, .cut [], fun _ _ => rfl⟩, by simp, by simp⟩

theorem map {requests : List (CoreSearch Q)} {task : Attempt Q BackendError α}
    (isTask : IsTask core requests task) (change : α → β) :
    IsTask core requests (do return change (← task)) := by
  intro calls result trace
  rcases Attempt.trace_bind.mp trace with ⟨error, inner, rfl⟩ | ⟨_, value, _, rfl, inner, ended⟩
  · obtain ⟨⟨made, split, inTurn, _⟩, settled⟩ := isTask _ _ inner
    refine ⟨⟨made, split, inTurn, by simp⟩, by simp, ?_⟩
    rintro _ ⟨⟩
    exact settled.error error rfl
  · obtain ⟨rfl, rfl⟩ := Attempt.trace_pure.mp ended
    rw [List.append_nil]
    obtain ⟨⟨made, split, inTurn, complete⟩, settled⟩ := isTask _ _ inner
    refine ⟨⟨made, split, inTurn, fun _ _ => complete value rfl⟩, ?_, by simp⟩
    exact fun _ _ => settled.ok value rfl

theorem cons {rest : List (CoreSearch Q)} {next : CoreResponse → Attempt Q BackendError β}
    (isTask : ∀ response, IsTask core rest (next response)) (request : CoreSearch Q) :
    IsTask core (request :: rest) (searchApart core request >>= next) := by
  intro calls result trace
  rcases Attempt.trace_bind.mp trace with
    ⟨error, asked, rfl⟩ | ⟨_, response, later, rfl, asked, goesOn⟩
  · obtain ⟨outcome, rfl, ended⟩ := trace_searchApart.mp asked
    have unanswered := isAnswered_of_error ended.symm
    refine ⟨⟨[(request, outcome)], rfl, .failed request rest unanswered, by simp⟩, by simp, ?_⟩
    rintro _ ⟨⟩
    exact ⟨_, List.mem_cons_self, error, ended.symm, rfl⟩
  · obtain ⟨outcome, rfl, ended⟩ := trace_searchApart.mp asked
    obtain rfl := eq_answered_of_apart ended.symm
    obtain ⟨⟨made, rfl, inTurn, complete⟩, settled⟩ := isTask response _ _ goesOn
    refine ⟨⟨_, rfl, .answered request response inTurn, ?_⟩, ?_, ?_⟩
    · exact fun value isValue => congrArg (request :: ·) (complete value isValue)
    · exact fun value isValue => List.forall_mem_cons.mpr ⟨rfl, settled.ok value isValue⟩
    · intro failure isFailure
      obtain ⟨call, member, failed⟩ := settled.error failure isFailure
      exact ⟨call, List.mem_cons_of_mem _ member, failed⟩

theorem collectFrom (core : String) (searches : List (Purpose × CoreSearch Q)) :
    IsTask core (searches.map (·.2)) (collectFrom core searches) := by
  induction searches with
  | nil => exact .pure []
  | cons head rest ih => exact .cons (fun response => ih.map _) head.2

theorem countFrom (core : String) (request : CoreSearch Q) :
    IsTask core [request] (countFrom core request) :=
  .cons (fun _ => .pure _) request

end IsTask

/-! Phases -/

section Phases

variable {prepare : α → Except RequestError (Attempt Q BackendError β)} {items : List α}
  {core : α → String} {requests : α → List (CoreSearch Q)} {calls : List (Call Q × Outcome)}
  {result : Except Failure (List β)}

theorem ne_error_of_split (prepared : ∀ item ∈ items, ∃ task, prepare item = .ok task)
    {before after : List α} {item : α} {error : RequestError}
    (split : items = before ++ item :: after) : prepare item ≠ .error error := by
  have member : item ∈ items := by simp [split]
  obtain ⟨task, isPrepared⟩ := prepared item member
  simp [isPrepared]

variable
  (isTask : ∀ item task, prepare item = .ok task → IsTask (core item) (requests item) task)
  (prepared : ∀ item ∈ items, ∃ task, prepare item = .ok task)

include isTask

theorem callsOn_of_begins {begun : List α} {parts : List (List (Call Q × Outcome))}
    (each : List.Forall₂ (fun item part => ∃ task, prepare item = .ok task ∧
      Attempt.Begins task part) begun parts) :
    List.Forall₂ (fun item part => ∃ made, UntilFailure (requests item) made ∧
      part = callsOn (core item) made) begun parts :=
  each.imp fun item _ ⟨task, prepared, begins⟩ => (isTask item task prepared).begins begins

include prepared

theorem PhaseRun.parts (run : PhaseRun prepare items calls result) :
    ∃ parts, List.Forall₂ (fun item part => ∃ made, UntilFailure (requests item) made ∧
      part = callsOn (core item) made) items parts ∧ AllInterleaved parts calls := by
  cases run with
  | @ended runs _ each atOnce =>
      refine ⟨runs.map (·.1), callsOn_of_begins isTask ?_, atOnce⟩
      rw [List.forall₂_map_right_iff]
      exact each.imp fun _ _ ⟨task, prepared, trace⟩ => ⟨task, prepared, trace.begins⟩
  | failed each _ _ _ atOnce => exact ⟨_, callsOn_of_begins isTask each, atOnce⟩
  | refused split _ unprepared _ =>
      exact absurd unprepared (ne_error_of_split prepared split)

omit prepared in
theorem PhaseRun.complete {values : List β} (run : PhaseRun prepare items calls (.ok values)) :
    ∃ parts, List.Forall₂ (fun item part => ∃ made, made.map (·.1) = requests item ∧
      part = callsOn (core item) made) items parts ∧ AllInterleaved parts calls := by
  cases run with
  | @ended runs _ each atOnce =>
      refine ⟨runs.map (·.1), ?_, atOnce⟩
      rw [List.forall₂_map_right_iff]
      refine each.imp fun item run ⟨task, isPrepared, trace⟩ => ?_
      obtain ⟨⟨made, split, _, complete⟩, _⟩ := isTask item task isPrepared _ _ trace
      exact ⟨made, complete run.2 rfl, split⟩

theorem PhaseRun.settled (run : PhaseRun prepare items calls result) :
    Settled .backend calls result := by
  cases run with
  | ended each atOnce =>
      refine ⟨fun value _ call member => ?_, by simp⟩
      obtain ⟨part, inParts, inPart⟩ := atOnce.mem_iff.mp member
      obtain ⟨run, inRuns, rfl⟩ := List.mem_map.mp inParts
      obtain ⟨item, _, task, isPrepared, trace⟩ := exists_mem_zip each inRuns
      exact (isTask item task isPrepared _ _ trace).2.ok _ rfl call inPart
  | @failed _ _ part item task error _ ofItem isPrepared failure atOnce =>
      refine ⟨by simp, ?_⟩
      rintro _ ⟨⟩
      obtain ⟨call, inPart, _, failed, rfl⟩ :=
        (isTask item task isPrepared _ _ failure).2.error error rfl
      have member := atOnce.mem_iff.mpr ⟨part, (List.of_mem_zip ofItem).2, inPart⟩
      exact ⟨call, member, error, failed, rfl⟩
  | refused split _ unprepared _ =>
      exact absurd unprepared (ne_error_of_split prepared split)

end Phases

/-- What a core gets in a phase is what the task for it asks. -/
theorem relates_received
    {relates : List (CoreSearch Q) → List (CoreSearch Q × Outcome) → Prop}
    (nothing : ∀ made, relates [] made ↔ made = [])
    {groups : List (String × List (Purpose × CoreSearch Q))} (ascending : Ascending groups)
    {parts : List (List (Call Q × Outcome))} {whole : List (Call Q × Outcome)}
    (each : List.Forall₂ (fun group part => ∃ made, relates (group.2.map (·.2)) made ∧
      part = callsOn group.1 made) groups parts)
    (atOnce : AllInterleaved parts whole) (core : String) :
    relates (((findEntry core groups).getD []).map (·.2)) (received core whole) := by
  induction each generalizing whole with
  | nil =>
      cases atOnce
      exact (nothing []).mpr rfl
  | @cons group part groups parts first _ ih =>
      obtain ⟨made, related, rfl⟩ := first
      obtain ⟨below, restAscending⟩ := List.pairwise_cons.mp ascending
      cases atOnce with
      | cons inParts merged =>
          have later := ih restAscending inParts
          by_cases same : group.1 = core
          · have gone : findEntry group.1 groups = none :=
              findEntry_eq_none_of_below fun entry member => below entry member
            subst same
            rw [gone] at later
            rw [merged.received_left ((nothing _).mp later), received_callsOn]
            simpa [findEntry, Std.ReflCmp.compare_self] using related
          · have different : compare core group.1 ≠ .eq := fun found =>
              same (Std.LawfulEqCmp.eq_of_compare found).symm
            have skipped : findEntry core (group :: groups) = findEntry core groups := by
              rw [findEntry]
              split
              · contradiction
              · rfl
            rw [merged.symm.received_left (received_callsOn_other same made), skipped]
            exact later

/-! Requests -/

def keySearchesOf (query : ComposedQuery Q) (plan : JoinPlan) (core : String) :
    List (CoreSearch Q) :=
  match keySearches query plan with
  | .ok searches => ((searches.get? core).getD []).map (·.2)
  | .error _ => []

structure PhasedCalls (Q : Type) where
  collecting : List (Call Q × Outcome) := []
  primary : Option (Call Q × Outcome) := none
  counting : List (Call Q × Outcome) := []

namespace PhasedCalls

def calls (phases : PhasedCalls Q) : List (Call Q × Outcome) :=
  phases.collecting ++ phases.primary.toList ++ phases.counting

structure Planned (phases : PhasedCalls Q) (query : ComposedQuery Q) (plan : JoinPlan) : Prop where
  collecting : ∀ core, (received core phases.collecting).map (·.1) <+: keySearchesOf query plan core
  primary : ∀ call ∈ phases.primary,
    (∀ core, (received core phases.collecting).map (·.1) = keySearchesOf query plan core) ∧
      ∃ keyFilters collectKeys, call.1 = ⟨plan.resultsCore,
        { resultsSearch query plan.resultsCore with keyFilters, collectKeys }⟩
  counting : ∀ call ∈ phases.counting, phases.primary.isSome = true ∧
    call.1.core ∈ plan.facetCores ∧
      ∃ key keys, call.1.search = facetSearch query call.1.core key keys

def Causes (phases : PhasedCalls Q) (error : BackendError) : Prop :=
  (∃ call ∈ phases.calls, call.2 = .failed error) ∨
    ∃ call ∈ phases.collecting ++ phases.counting,
      call.2 = .panicked ∧ error = .taskFailed call.1.core none

/-- How searches that are not answered bear on the calls and the result. -/
structure FailFast {β : Type} (phases : PhasedCalls Q) (result : Except Failure β) : Prop where
  answered : ∀ value, result = .ok value → ∀ call ∈ phases.calls, call.2.isAnswered = true
  beforePrimary : (∃ call ∈ phases.collecting, call.2.isAnswered = false) →
    phases.primary = none ∧ phases.counting = []
  beforeCounting : (∃ call ∈ phases.primary, call.2.isAnswered = false) → phases.counting = []
  perCore : ∀ core before call after, received core phases.collecting = before ++ call :: after →
    call.2.isAnswered = false → after = []
  fatal : (∃ call ∈ phases.calls, ∃ error, call.2 = .failed error) ∨
      (∃ call ∈ phases.collecting ++ phases.counting, call.2 = .panicked) →
    ∃ error, result = .error (.backend error)
  unchanged : ∀ error, result = .error (.backend error) → phases.Causes error

variable {phases : PhasedCalls Q} {calls : List (Call Q × Outcome)}

theorem mem_calls {call : Call Q × Outcome} :
    call ∈ phases.calls ↔ call ∈ phases.collecting ++ phases.counting ∨ call ∈ phases.primary := by
  simp only [PhasedCalls.calls, List.mem_append, Option.mem_toList]
  exact or_right_comm

theorem causes_of_apart (inPhases : ∀ call ∈ calls, call ∈ phases.collecting ++ phases.counting)
    {error : BackendError}
    (failed : ∃ call ∈ calls, call.2.apart call.1.core = .error error) : phases.Causes error := by
  obtain ⟨⟨call, outcome⟩, member, failed⟩ := failed
  have apart := inPhases _ member
  cases outcome with
  | answered response => cases failed
  | failed cause =>
      obtain rfl := Except.error.inj failed
      exact Or.inl ⟨_, mem_calls.mpr (Or.inl apart), rfl⟩
  | panicked => exact Or.inr ⟨⟨call, .panicked⟩, apart, rfl, (Except.error.inj failed).symm⟩

namespace FailFast

variable (beforeCounting : (∃ call ∈ phases.primary, call.2.isAnswered = false) →
    phases.counting = [])
  (perCore : ∀ core, ∃ requests, UntilFailure requests (received core phases.collecting))

include beforeCounting perCore

theorem of_backend (beforePrimary : (∃ call ∈ phases.collecting, call.2.isAnswered = false) →
      phases.primary = none ∧ phases.counting = []) {error : BackendError}
    (causes : phases.Causes error) :
    phases.FailFast (.error (.backend error) : Except Failure β) where
  answered := by simp
  beforePrimary := beforePrimary
  beforeCounting := beforeCounting
  perCore core _ _ _ split unanswered := by
    obtain ⟨_, inTurn⟩ := perCore core
    exact inTurn.nothing_after split unanswered
  fatal _ := ⟨error, rfl⟩
  unchanged := by
    rintro _ ⟨⟩
    exact causes

theorem of_other {result : Except Failure β} (other : ∀ error, result ≠ .error (.backend error))
    (apart : ∀ call ∈ phases.collecting ++ phases.counting, call.2.isAnswered = true)
    (direct : ∀ call ∈ phases.primary, ∀ error, call.2 ≠ .failed error)
    (ofResult : ∀ value, result = .ok value → ∀ call ∈ phases.primary,
      call.2.isAnswered = true) : phases.FailFast result where
  answered value isValue call member := by
    rcases mem_calls.mp member with ranApart | isPrimary
    · exact apart call ranApart
    · exact ofResult value isValue call isPrimary
  beforePrimary failed := absurd failed <| not_exists_unanswered fun call member =>
    apart call (List.mem_append_left _ member)
  beforeCounting := beforeCounting
  perCore core _ _ _ split unanswered := by
    obtain ⟨_, inTurn⟩ := perCore core
    exact inTurn.nothing_after split unanswered
  fatal := by
    rintro (⟨⟨call, _⟩, member, error, rfl⟩ | ⟨⟨call, _⟩, member, rfl⟩)
    · rcases mem_calls.mp member with ranApart | isPrimary
      · cases apart _ ranApart
      · exact absurd rfl (direct _ isPrimary error)
    · cases apart _ member
  unchanged error isError := absurd isError (other error)

omit beforeCounting in
theorem of_answered (answered : ∀ call ∈ phases.calls, call.2.isAnswered = true) (value : β) :
    phases.FailFast (.ok value : Except Failure β) := by
  have primary : ∀ call ∈ phases.primary, call.2.isAnswered = true :=
    fun call member => answered call (mem_calls.mpr (Or.inr member))
  refine of_other ?_ perCore (by simp) ?_ ?_ fun _ _ => primary
  · exact fun failed => absurd failed (not_exists_unanswered primary)
  · exact fun call member => answered call (mem_calls.mpr (Or.inl member))
  · rintro ⟨_, _⟩ member error rfl
    cases primary _ member

omit beforeCounting perCore in
theorem of_direct {collecting : List (Call Q × Outcome)}
    (perCore : ∀ core, ∃ requests, UntilFailure requests (received core collecting))
    (answered : ∀ call ∈ collecting, call.2.isAnswered = true) (call : Call Q) {outcome : Outcome}
    {failure : Failure} (ended : outcome.direct = .error failure) :
    FailFast ⟨collecting, some (call, outcome), []⟩ (.error failure : Except Failure β) := by
  cases outcome with
  | answered response => cases ended
  | failed error =>
      obtain rfl := Except.error.inj ended
      refine of_backend (fun _ => rfl) perCore ?_ ?_
      · exact fun failed => absurd failed (not_exists_unanswered answered)
      · exact Or.inl ⟨_, mem_calls.mpr (Or.inr rfl), rfl⟩
  | panicked =>
      obtain rfl := Except.error.inj ended
      exact of_other (fun _ => rfl) perCore (by simp) (by simpa using answered) (by simp) (by simp)

omit beforeCounting perCore in
theorem refused {failure : Failure} (other : ∀ error, failure ≠ .backend error) :
    FailFast ({} : PhasedCalls Q) (.error failure : Except Failure β) :=
  of_other (by simp) (fun _ => ⟨[], .cut []⟩) (by simpa using other) (by simp) (by simp) (by simp)

end FailFast

theorem Planned.nothing {query : ComposedQuery Q} {plan : JoinPlan} :
    Planned ({} : PhasedCalls Q) query plan :=
  ⟨fun _ => List.nil_prefix, by simp, by simp⟩

end PhasedCalls

namespace Federator

variable {federator : Federator} {query : ComposedQuery Q} {plan : JoinPlan}

theorem isTask_of_collecting {group : String × List (Purpose × CoreSearch Q)}
    {task : Attempt Q BackendError (List PurposedKeys)}
    (prepared : federator.collecting group = .ok task) :
    IsTask group.1 (group.2.map (·.2)) task := by
  unfold collecting at prepared
  cases known : federator.requireCore group.1 with
  | error error =>
      rw [known] at prepared
      cases prepared
  | ok _ =>
      rw [known] at prepared
      obtain rfl := Except.ok.inj prepared
      exact .collectFrom group.1 group.2

def facetSearchesOf (query : ComposedQuery Q) (plan : JoinPlan) (keys : SortedSet String)
    (core : String) : List (CoreSearch Q) :=
  match plan.keyFor core with
  | .ok key => [facetSearch query core key keys]
  | .error _ => []

theorem isTask_of_counting {keys : SortedSet String} {core : String}
    {task : Attempt Q BackendError (List FacetBlock)}
    (prepared : federator.counting query plan keys core = .ok task) :
    IsTask core (facetSearchesOf query plan keys core) task := by
  unfold counting at prepared
  unfold facetSearchesOf
  cases keyed : plan.keyFor core with
  | error error =>
      rw [keyed] at prepared
      cases prepared
  | ok key =>
      cases known : federator.requireCore core with
      | error error =>
          rw [keyed, known] at prepared
          cases prepared
      | ok _ =>
          rw [keyed, known] at prepared
          obtain rfl := Except.ok.inj prepared
          exact .countFrom core _

variable {calls : List (Call Q × Outcome)} {result : Except Failure SearchResponse}

theorem collecting_calls {searches : SortedMap String (List (Purpose × CoreSearch Q))}
    {ended : Except Failure (List (List PurposedKeys))}
    (planned : JoinPlan.ofQuery query = .ok plan)
    (known : ∀ core ∈ plan.cores, federator.requireCore core = .ok ())
    (found : keySearches query plan = .ok searches)
    (run : PhaseRun federator.collecting searches.entries calls ended) :
    Settled .backend calls ended ∧
      (∀ core, UntilFailure (keySearchesOf query plan core) (received core calls)) ∧
      ∀ values, ended = .ok values → ∀ core,
        (received core calls).map (·.1) = keySearchesOf query plan core := by
  have isTask := fun group task prepared => @isTask_of_collecting Q federator group task prepared
  have prepared : ∀ group ∈ searches.entries, ∃ task, federator.collecting group = .ok task :=
    fun group member =>
      ⟨_, collecting_ok (requireCore_of_mem_keySearches planned known found member)⟩
  have listed (core : String) : keySearchesOf query plan core =
      ((findEntry core searches.entries).getD []).map (·.2) := by
    unfold keySearchesOf
    rw [found]
    rfl
  refine ⟨run.settled isTask prepared, fun core => ?_, ?_⟩
  · obtain ⟨parts, each, atOnce⟩ := run.parts isTask prepared
    rw [listed]
    exact relates_received (fun _ => UntilFailure.nil_iff) searches.ascending each atOnce core
  · rintro values rfl core
    obtain ⟨parts, each, atOnce⟩ := run.complete isTask
    rw [listed]
    exact @relates_received Q (fun requests made => made.map (·.1) = requests)
      (fun _ => List.map_eq_nil_iff) _ searches.ascending _ _ each atOnce core

theorem counting_calls {keys : SortedSet String} {ended : Except Failure (List (List FacetBlock))}
    (planned : JoinPlan.ofQuery query = .ok plan)
    (known : ∀ core ∈ plan.cores, federator.requireCore core = .ok ())
    (run : PhaseRun (federator.counting query plan keys) plan.facetCores calls ended) :
    Settled .backend calls ended ∧ ∀ call ∈ calls, call.1.core ∈ plan.facetCores ∧
      ∃ key keys, call.1.search = facetSearch query call.1.core key keys := by
  have isTask := fun core task prepared =>
    @isTask_of_counting Q federator query plan keys core task prepared
  have prepared : ∀ core ∈ plan.facetCores, ∃ task,
      federator.counting query plan keys core = .ok task := by
    intro core member
    obtain ⟨key, keyed⟩ := exists_keyFor_facetCore planned member
    exact ⟨_, counting_ok keyed (known core (JoinPlan.mem_cores_of_facetCore member))⟩
  refine ⟨run.settled isTask prepared, fun call member => ?_⟩
  obtain ⟨parts, each, atOnce⟩ := run.parts isTask prepared
  obtain ⟨part, inParts, inPart⟩ := atOnce.mem_iff.mp member
  obtain ⟨core, paired, made, inTurn, rfl⟩ := exists_mem_zip each inParts
  obtain ⟨exchange, inMade, rfl⟩ := List.mem_map.mp inPart
  have asked := inTurn.isPrefix.subset (List.mem_map_of_mem inMade)
  refine ⟨(List.of_mem_zip paired).1, ?_⟩
  unfold facetSearchesOf at asked
  cases keyed : plan.keyFor core with
  | error error =>
      rw [keyed] at asked
      cases asked
  | ok key =>
      rw [keyed] at asked
      exact ⟨key, keys, List.mem_singleton.mp asked⟩

section Collected

variable {collecting counting : List (Call Q × Outcome)}
  (complete : ∀ core, (received core collecting).map (·.1) = keySearchesOf query plan core)

include complete

theorem planned_of_collected (resultsKey : String) (collected : List PurposedKeys)
    (outcome : Outcome)
    (ofCounting : ∀ call ∈ counting, call.1.core ∈ plan.facetCores ∧
      ∃ key keys, call.1.search = facetSearch query call.1.core key keys) :
    PhasedCalls.Planned ⟨collecting, some (⟨plan.resultsCore,
      primarySearch query plan resultsKey (combineKeys collected)⟩, outcome), counting⟩
      query plan := by
  refine ⟨fun core => complete core ▸ List.prefix_rfl, ?_,
    fun call member => ⟨rfl, ofCounting call member⟩⟩
  rintro _ ⟨⟩
  exact ⟨complete, _, _, rfl⟩

/-- The rest of a request from where the keys are collected. -/
theorem failFast_of_collected {resultsKey : String} {collected : List PurposedKeys}
    (planned : JoinPlan.ofQuery query = .ok plan)
    (known : ∀ core ∈ plan.cores, federator.requireCore core = .ok ())
    (perCore : ∀ core, ∃ requests, UntilFailure requests (received core collecting))
    (answered : ∀ call ∈ collecting, call.2.isAnswered = true)
    (behaves : (do
      let answer ← Conduct.atOnce.attempt (federator.searchDirectly plan.resultsCore
        (primarySearch query plan resultsKey (combineKeys collected)))
      let primary := answer.tagged plan.resultsCore
      let counted ← Conduct.atOnce.phase (federator.counting query plan primary.keys)
        plan.facetCores
      return mergeFacets plan primary counted.flatten : Behaviour Q SearchResponse) calls result) :
    ∃ phases : PhasedCalls Q, collecting ++ calls = phases.calls ∧ phases.Planned query plan ∧
      phases.FailFast result := by
  have knownResults := known plan.resultsCore plan.resultsCore_mem_cores
  rcases behaves with ⟨_, asked, rfl⟩ | ⟨_, answer, _, rfl, asked, afterAnswer⟩
  · obtain ⟨outcome, rfl, ended⟩ := (trace_searchDirectly knownResults).mp asked
    exact ⟨⟨collecting, some (_, outcome), []⟩, by simp [PhasedCalls.calls],
      planned_of_collected complete resultsKey collected outcome (by simp),
      .of_direct perCore answered _ ended.symm⟩
  obtain ⟨outcome, rfl, isAnswer⟩ := (trace_searchDirectly knownResults).mp asked
  obtain rfl := eq_answered_of_direct isAnswer.symm
  rcases afterAnswer with ⟨_, run, rfl⟩ | ⟨counting, counted, _, rfl, run, rfl, rfl⟩
  · obtain ⟨settled, ofCounting⟩ := counting_calls planned known run
    obtain ⟨call, member, error, failed, rfl⟩ := settled.error _ rfl
    refine ⟨⟨collecting, some (_, .answered answer), _⟩, by simp [PhasedCalls.calls],
      planned_of_collected complete resultsKey collected _ ofCounting, ?_⟩
    refine .of_backend (by simp [Outcome.isAnswered]) perCore ?_ ?_
    · exact fun failed => absurd failed (not_exists_unanswered answered)
    · exact PhasedCalls.causes_of_apart (fun _ => List.mem_append_right collecting)
        ⟨call, member, failed⟩
  · obtain ⟨settled, ofCounting⟩ := counting_calls planned known run
    refine ⟨⟨collecting, some (_, .answered answer), counting⟩, by simp [PhasedCalls.calls],
      planned_of_collected complete resultsKey collected _ ofCounting, ?_⟩
    refine .of_answered perCore (fun call member => ?_) _
    rcases PhasedCalls.mem_calls.mp member with apart | isPrimary
    · rcases List.mem_append.mp apart with inCollecting | inCounting
      · exact answered call inCollecting
      · exact settled.ok counted rfl call inCounting
    · obtain rfl := Option.mem_some_iff.mp isPrimary
      rfl

end Collected

theorem executeJoinBy_failFast (planned : JoinPlan.ofQuery query = .ok plan)
    (known : ∀ core ∈ plan.cores, federator.requireCore core = .ok ())
    (behaves : executeJoinBy .atOnce federator query plan calls result) :
    ∃ phases : PhasedCalls Q, calls = phases.calls ∧ phases.Planned query plan ∧
      phases.FailFast result := by
  rcases behaves with ⟨_, first, rfl⟩ | ⟨_, resultsKey, _, rfl, first, afterKey⟩
  · obtain ⟨rfl, error, _, rfl⟩ := trace_requested_error.mp first
    exact ⟨{}, rfl, .nothing, .refused (by simp)⟩
  obtain ⟨rfl, _⟩ := trace_requested_ok.mp first
  rcases afterKey with ⟨_, second, rfl⟩ | ⟨_, searches, _, rfl, second, afterSearches⟩
  · obtain ⟨rfl, error, _, rfl⟩ := trace_requested_error.mp second
    exact ⟨{}, rfl, .nothing, .refused (by simp)⟩
  obtain ⟨rfl, found⟩ := trace_requested_ok.mp second
  rcases afterSearches with
    ⟨failure, run, rfl⟩ | ⟨collecting, collected, _, rfl, run, afterCollecting⟩
  · obtain ⟨settled, inTurn, _⟩ := collecting_calls planned known found run
    obtain ⟨call, member, error, failed, rfl⟩ := settled.error failure rfl
    refine ⟨⟨_, none, []⟩, by simp [PhasedCalls.calls],
      ⟨fun core => (inTurn core).isPrefix, by simp, by simp⟩, ?_⟩
    exact .of_backend (by simp) (fun core => ⟨_, inTurn core⟩) (fun _ => ⟨rfl, rfl⟩)
      (PhasedCalls.causes_of_apart (by simp) ⟨call, member, failed⟩)
  · obtain ⟨settled, inTurn, complete⟩ := collecting_calls planned known found run
    rw [List.nil_append, List.nil_append]
    exact failFast_of_collected (complete collected rfl) planned known
      (fun core => ⟨_, inTurn core⟩) (settled.ok collected rfl) afterCollecting

theorem keySearchesOf_eq_nil (planned : JoinPlan.ofQuery query = .ok plan)
    (alone : plan.isPassThrough = true) (core : String) : keySearchesOf query plan core = [] := by
  obtain ⟨_, _, _, _, isPlan⟩ := JoinPlan.ofQuery_ok planned
  simp only [JoinPlan.isPassThrough, Bool.and_eq_true, List.isEmpty_iff] at alone
  obtain ⟨⟨noJoins, _⟩, noUnites⟩ := alone
  have unites : plan.uniteCores = query.unites.map (·.core) := by rw [isPlan]
  rw [unites, List.map_eq_nil_iff] at noUnites
  have nothing : keySearches query plan = .ok SortedMap.empty := by
    unfold keySearches
    rw [noJoins, noUnites]
    rfl
  unfold keySearchesOf
  rw [nothing]
  rfl

theorem executeAlone_failFast (planned : JoinPlan.ofQuery query = .ok plan)
    (alone : plan.isPassThrough = true) (known : federator.requireCore plan.resultsCore = .ok ())
    (trace : Attempt.Trace (federator.executeAlone query plan.resultsCore) calls result) :
    ∃ phases : PhasedCalls Q, calls = phases.calls ∧ phases.Planned query plan ∧
      phases.FailFast result := by
  have follows (outcome : Outcome) : PhasedCalls.Planned
      { primary := some (⟨plan.resultsCore, resultsSearch query plan.resultsCore⟩, outcome) }
      query plan := by
    refine ⟨fun _ => List.nil_prefix, ?_, by simp⟩
    rintro _ ⟨⟩
    exact ⟨fun core => (keySearchesOf_eq_nil planned alone core).symm, [], none, rfl⟩
  have nothing (core : String) : ∃ requests : List (CoreSearch Q),
      UntilFailure requests (received core []) := ⟨[], .cut []⟩
  rcases Attempt.trace_bind.mp trace with ⟨_, asked, rfl⟩ | ⟨_, answer, _, rfl, asked, ended⟩
  · obtain ⟨outcome, rfl, failed⟩ := (trace_searchDirectly known).mp asked
    exact ⟨_, rfl, follows outcome, .of_direct nothing (by simp) _ failed.symm⟩
  · obtain ⟨outcome, rfl, answered⟩ := (trace_searchDirectly known).mp asked
    obtain rfl := eq_answered_of_direct answered.symm
    obtain ⟨rfl, rfl⟩ := Attempt.trace_pure.mp ended
    refine ⟨_, rfl, follows _, .of_answered nothing ?_ _⟩
    exact List.forall_mem_singleton.mpr rfl

theorem ne_backend_of_validate {failure : Failure} (refused : query.validate = .error failure)
    (error : BackendError) : failure ≠ .backend error := by
  rintro rfl
  unfold ComposedQuery.validate at refused
  dsimp only at refused
  repeat' split at refused
  all_goals cases refused

theorem ne_backend_of_planFor {failure : Failure}
    (refused : federator.planFor query = .error failure) (error : BackendError) :
    failure ≠ .backend error := by
  unfold planFor at refused
  cases valid : query.validate with
  | error other =>
      rw [valid] at refused
      obtain rfl := Except.error.inj refused
      exact ne_backend_of_validate valid error
  | ok _ =>
      rintro rfl
      cases planned : JoinPlan.ofQuery query with
      | error other =>
          rw [valid, planned] at refused
          cases refused
      | ok plan =>
          cases known : plan.cores.forM federator.requireCore with
          | error other =>
              rw [valid, planned] at refused
              simp [Except.mapError, bind, Except.bind, known] at refused
          | ok _ =>
              rw [valid, planned] at refused
              simp only [Except.mapError, bind, Except.bind, known] at refused
              cases refused

end Federator

/-- Whatever the cores answer, and whether the searches of a phase are made in turn or at once, a
search that is not answered ends the request: a later phase does not begin, its core gets no other
search of the first phase, and the request fails with the error of such a search. -/
theorem execute_failFast (federator : Federator) (query : ComposedQuery Q) :
    (∀ calls result, Session.Trace (federator.execute query) calls result →
      Federator.executeBy .atOnce federator query calls result) ∧
    ∀ calls result, Federator.executeBy .atOnce federator query calls result →
      ∃ phases : PhasedCalls Q, calls = phases.calls ∧ phases.FailFast result ∧
        (calls = [] ∨ ∃ plan, federator.planFor (federator.withDefaultCore query) = .ok plan ∧
          phases.Planned (federator.withDefaultCore query) plan) := by
  refine ⟨fun _ _ => Federator.executeBy_atOnce, fun calls result behaves => ?_⟩
  rcases behaves with ⟨_, refused, rfl⟩ | ⟨_, plan, calls, rfl, checked, rest⟩
  · obtain ⟨rfl, found⟩ := Attempt.trace_settled.mp refused
    exact ⟨{}, rfl, .refused (Federator.ne_backend_of_planFor found.symm), Or.inl rfl⟩
  obtain ⟨rfl, found⟩ := Attempt.trace_settled.mp checked
  obtain ⟨_, planned, known⟩ := Federator.planFor_ok found.symm
  by_cases alone : plan.isPassThrough = true
  · rw [if_pos alone] at rest
    obtain ⟨phases, rfl, follows, failFast⟩ :=
      Federator.executeAlone_failFast planned alone (known _ plan.resultsCore_mem_cores) rest
    exact ⟨phases, rfl, failFast, Or.inr ⟨plan, found.symm, follows⟩⟩
  · rw [if_neg alone] at rest
    obtain ⟨phases, rfl, follows, failFast⟩ := Federator.executeJoinBy_failFast planned known rest
    exact ⟨phases, rfl, failFast, Or.inr ⟨plan, found.symm, follows⟩⟩

def unitedFederator : Federator where
  config := {}
  cores := SortedSet.ofList ["A", "B"]

def overlappingCalls : List (Call String × Outcome) :=
  [(⟨"B", joinSearch unitedQuery "B" "j"⟩, .failed (.searchFailed ⟨"B", "down"⟩)),
    (⟨"A", uniteSearch ⟨"A", "k", "u"⟩⟩, .answered {})]

theorem unitedQuery_overlaps : Federator.executeBy .atOnce unitedFederator unitedQuery
    overlappingCalls (.error (.backend (.searchFailed ⟨"B", "down"⟩))) := by
  let searchesOfA := [(Purpose.unite, uniteSearch ⟨"A", "k", "u"⟩)]
  let searchesOfB :=
    [(Purpose.join, joinSearch unitedQuery "B" "j"), (.unite, uniteSearch ⟨"B", "j", "v"⟩)]
  have answered : Attempt.Trace (collectFrom "A" searchesOfA)
      [(⟨"A", uniteSearch ⟨"A", "k", "u"⟩⟩, .answered {})] (.ok [(.unite, SortedSet.empty)]) :=
    .ask (.done _)
  have failed : Attempt.Trace (collectFrom "B" searchesOfB)
      [(⟨"B", joinSearch unitedQuery "B" "j"⟩, .failed (.searchFailed ⟨"B", "down"⟩))]
      (.error (.searchFailed ⟨"B", "down"⟩)) :=
    .ask (.done _)
  have collecting : PhaseRun unitedFederator.collecting [("A", searchesOfA), ("B", searchesOfB)]
      overlappingCalls (.error (.backend (.searchFailed ⟨"B", "down"⟩))) := by
    have knownA : unitedFederator.requireCore "A" = .ok () := if_pos (by decide +kernel)
    have knownB : unitedFederator.requireCore "B" = .ok () := if_pos (by decide +kernel)
    have taskOfA := @Federator.collecting_ok _ _ ("A", searchesOfA) knownA
    have taskOfB := @Federator.collecting_ok _ _ ("B", searchesOfB) knownB
    refine .failed (.cons ⟨_, taskOfA, answered.begins⟩ (.cons ⟨_, taskOfB, failed.begins⟩ .nil))
      ?_ taskOfB failed (.cons (.cons .nil (.of_append _ [])) (.right (.left .nil)))
    exact List.mem_cons_of_mem _ List.mem_cons_self
  refine Or.inr ⟨[], _, _, rfl, Attempt.trace_settled.mpr ⟨rfl, rfl⟩, ?_⟩
  refine Or.inr ⟨[], "k", _, rfl, trace_requested_ok.mpr ⟨rfl, rfl⟩, ?_⟩
  refine Or.inr ⟨[], _, _, rfl, trace_requested_ok.mpr ⟨rfl, rfl⟩, ?_⟩
  exact Or.inl ⟨_, collecting, rfl⟩

theorem unitedQuery_failFast :
    ∃ phases : PhasedCalls String, overlappingCalls = phases.calls ∧ phases.FailFast
      (.error (.backend (.searchFailed ⟨"B", "down"⟩)) : Except Failure SearchResponse) := by
  obtain ⟨phases, listed, failFast, _⟩ :=
    (execute_failFast unitedFederator unitedQuery).2 _ _ unitedQuery_overlaps
  exact ⟨phases, listed, failFast⟩

def relayedCalls : List (Call String × Outcome) :=
  [(⟨"A", resultsSearch (.ofResultsCore "A") "A"⟩, .failed (.taskFailed "C" (some "cancelled")))]

theorem relayedCalls_trace : Session.Trace
    (unitedFederator.execute (.ofResultsCore "A" : ComposedQuery String)) relayedCalls
    (.error (.backend (.taskFailed "C" (some "cancelled")))) :=
  .ask (.done _)

/-- Not every error of a core is that of a failed search, or tells of a core whose search broke off
in a task of the request. -/
theorem relayedCalls_taskFailed :
    ¬∀ (federator : Federator) (query : ComposedQuery String) calls result,
      Session.Trace (federator.execute query) calls result →
      (∃ call ∈ calls, ∃ error, call.2 = .failed error) →
      ∃ error, result = .error (.backend error) ∧
        ((∃ failure, error = .searchFailed failure ∧ ∃ call ∈ calls, call.2 = .failed error) ∨
          ∃ call ∈ calls, call.2 = .panicked ∧
            ∃ reason, error = .taskFailed call.1.core reason) := by
  intro claimed
  have asked : ∃ call ∈ relayedCalls, ∃ error, call.2 = .failed error :=
    ⟨_, List.mem_cons_self, _, rfl⟩
  obtain ⟨error, isError, causes⟩ := claimed _ _ _ _ relayedCalls_trace asked
  obtain rfl : BackendError.taskFailed "C" (some "cancelled") = error := by simpa using isError
  rcases causes with ⟨failure, isFailure, -⟩ | ⟨call, member, panicked, -⟩
  · cases isFailure
  · obtain rfl := List.mem_singleton.mp member
    cases panicked

end FederatedSearch
