import FederatedSearch.Proofs.FailedSearches
import FederatedSearch.Proofs.MapEntries
import FederatedSearch.Proofs.QueryInvariants
import Mathlib.Data.List.Induction

/-! Executions as the cores see them. A core sees the searches it receives in their order, and
nothing of what other cores get. So none can tell an execution whose searches overlap from one in
which they are made in turn, and cores that answer by what they see answer both alike. -/

namespace FederatedSearch

variable {Q α β : Type}

theorem received_eq_nil {core : String} {calls : List (Call Q × Outcome)} :
    received core calls = [] ↔ ∀ call ∈ calls, call.1.core ≠ core := by
  simp [received, List.filter_eq_nil_iff]

def SameHistories (calls others : List (Call Q × Outcome)) : Prop :=
  ∀ core, received core calls = received core others

theorem SameHistories.append {before before' after after' : List (Call Q × Outcome)}
    (first : SameHistories before before') (second : SameHistories after after') :
    SameHistories (before ++ after) (before' ++ after') := by
  intro core
  rw [received_append, received_append, first core, second core]

theorem SameHistories.subset {calls others : List (Call Q × Outcome)}
    (same : SameHistories calls others) : others ⊆ calls := by
  rintro ⟨⟨core, search⟩, outcome⟩ member
  have inHistory : (search, outcome) ∈ received core others :=
    List.mem_map.mpr ⟨_, List.mem_filter.mpr ⟨member, by simp⟩, rfl⟩
  rw [← same, received, List.mem_map] at inHistory
  obtain ⟨⟨⟨_, _⟩, _⟩, inHistory, isExchange⟩ := inHistory
  obtain ⟨inCalls, onCore⟩ := List.mem_filter.mp inHistory
  obtain ⟨rfl, rfl⟩ := Prod.mk.inj isExchange
  obtain rfl := of_decide_eq_true onCore
  exact inCalls

theorem AllInterleaved.sameHistories {owners : List String}
    {parts : List (List (Call Q × Outcome))} {whole : List (Call Q × Outcome)}
    (owned : List.Forall₂ (fun owner part => ∀ call ∈ part, call.1.core = owner) owners parts)
    (distinct : owners.Nodup) (merged : AllInterleaved parts whole) :
    SameHistories whole parts.flatten := by
  intro core
  induction owned generalizing whole with
  | nil =>
      cases merged
      rfl
  | @cons owner part owners parts ofOwner ofOthers ih =>
      obtain ⟨isNew, restDistinct⟩ := List.nodup_cons.mp distinct
      cases merged with
      | @cons _ others _ _ inParts merged =>
          rw [List.flatten_cons, received_append, ← ih restDistinct inParts]
          by_cases same : owner = core
          · have none : received core others = [] := by
              refine received_eq_nil.mpr fun call member onCore => ?_
              obtain ⟨other, inOthers, inPart⟩ := inParts.mem_iff.mp member
              obtain ⟨otherOwner, paired, ofOther⟩ := exists_mem_zip ofOthers inOthers
              have isOwner : otherOwner = owner := (ofOther call inPart).symm.trans
                (onCore.trans same.symm)
              exact isNew (isOwner ▸ (List.of_mem_zip paired).1)
            rw [merged.received_left none, none, List.append_nil]
          · have none : received core part = [] := received_eq_nil.mpr fun call member onCore =>
              same ((ofOwner call member).symm.trans onCore)
            rw [merged.symm.received_left none, none, List.nil_append]

/-! What is done at once could as well have been done in turn -/

theorem startEach_of_runs {prepare : α → Except RequestError (Attempt Q BackendError β)}
    {items : List α} {runs : List (List (Call Q × Outcome) × β)}
    (each : List.Forall₂ (fun item run => ∃ task, prepare item = .ok task ∧
      Attempt.Trace task run.1 (.ok run.2)) items runs) :
    Attempt.Trace (startEach prepare items) (runs.map (·.1)).flatten
      (.ok ((runs.map (·.2)).map .ok)) := by
  induction each with
  | nil => exact Attempt.trace_pure.mpr ⟨rfl, rfl⟩
  | @cons item run items runs first _ ih =>
      obtain ⟨task, prepared, trace⟩ := first
      refine Attempt.trace_bind_ok.mpr ⟨[], task, _, rfl, ?_, ?_⟩
      · exact trace_requested_ok.mpr ⟨rfl, prepared⟩
      refine Attempt.trace_bind_ok.mpr ⟨run.1, .ok run.2, _, rfl, ?_, ?_⟩
      · exact Attempt.trace_apart.mpr ⟨_, trace, rfl⟩
      · refine Attempt.trace_bind_ok.mpr ⟨_, _, [], by simp, ih, ?_⟩
        exact Attempt.trace_pure.mpr ⟨rfl, rfl⟩

def Behaviour.MatchedBy (behaviour : Behaviour Q α) (attempt : Attempt Q Failure α) : Prop :=
  ∀ calls value, behaviour calls (.ok value) →
    ∃ turned, attempt.Trace turned (.ok value) ∧ SameHistories calls turned

namespace Behaviour.MatchedBy

theorem pure (value : α) : MatchedBy (pure value : Behaviour Q α) (pure value) := by
  rintro _ _ ⟨rfl, found⟩
  exact ⟨[], Attempt.trace_pure.mpr ⟨rfl, found⟩, fun _ => rfl⟩

theorem attempt (attempt : Attempt Q Failure α) :
    MatchedBy (Conduct.atOnce.attempt attempt) (Conduct.inTurn.attempt attempt) :=
  fun calls _ trace => ⟨calls, trace, fun _ => rfl⟩

theorem phase {prepare : α → Except RequestError (Attempt Q BackendError β)} {items : List α}
    {owner : α → String} {requests : α → List (CoreSearch Q)}
    (isTask : ∀ item task, prepare item = .ok task → IsTask (owner item) (requests item) task)
    (distinct : (items.map owner).Nodup) :
    MatchedBy (Conduct.atOnce.phase prepare items) (Conduct.inTurn.phase prepare items) := by
  intro calls values run
  cases run with
  | @ended runs _ each atOnce =>
      have owned : List.Forall₂ (fun owner part => ∀ call ∈ part, call.1.core = owner)
          (items.map owner) (runs.map (·.1)) := by
        rw [List.forall₂_map_left_iff, List.forall₂_map_right_iff]
        refine each.imp fun item run ⟨task, prepared, trace⟩ call member => ?_
        obtain ⟨⟨made, onOwner, -⟩, -⟩ := isTask item task prepared _ _ trace
        rw [onOwner] at member
        obtain ⟨_, _, rfl⟩ := List.mem_map.mp member
        rfl
      refine ⟨_, ?_, atOnce.sameHistories owned distinct⟩
      refine Attempt.trace_bind_ok.mpr ⟨_, _, [], by simp, startEach_of_runs each, ?_⟩
      exact trace_awaitAll_ok.mpr ⟨rfl, rfl⟩

theorem bind {first : Behaviour Q α} {first' : Attempt Q Failure α} {second : α → Behaviour Q β}
    {second' : α → Attempt Q Failure β} (ofFirst : MatchedBy first first')
    (ofSecond : ∀ value, MatchedBy (second value) (second' value)) :
    MatchedBy (first >>= second) (first' >>= second') := by
  rintro _ result (⟨_, _, impossible⟩ | ⟨before, value, after, rfl, begins, goesOn⟩)
  · cases impossible
  obtain ⟨turnedBefore, traceBefore, sameBefore⟩ := ofFirst before value begins
  obtain ⟨turnedAfter, traceAfter, sameAfter⟩ := ofSecond value after result goesOn
  exact ⟨turnedBefore ++ turnedAfter,
    Attempt.trace_bind_ok.mpr ⟨_, value, _, rfl, traceBefore, traceAfter⟩,
    sameBefore.append sameAfter⟩

end Behaviour.MatchedBy

theorem JoinPlan.nodup_facetCores {query : ComposedQuery Q} {plan : JoinPlan}
    (built : query.Built) (planned : ofQuery query = .ok plan) : plan.facetCores.Nodup := by
  obtain ⟨results, keys, isSet, -, rfl⟩ := ofQuery_ok planned
  have distinct := ComposedQuery.nodup_cores built.wellFormed.distinct isSet
  exact distinct.drop.filter _

namespace Federator

variable {federator : Federator} {query : ComposedQuery Q} {plan : JoinPlan}
  {calls : List (Call Q × Outcome)} {response : SearchResponse}

theorem built_withDefaultCore (built : query.Built) :
    (federator.withDefaultCore query).Built := by
  unfold withDefaultCore
  split
  · exact built.edit (.setResultsCore _)
  · exact built

open Behaviour in
theorem executeJoinBy_matchedBy (distinct : plan.facetCores.Nodup) :
    MatchedBy (executeJoinBy .atOnce federator query plan) (federator.executeJoin query plan) := by
  rw [← executeJoinBy_inTurn]
  refine .bind (.attempt _) fun resultsKey => ?_
  refine .bind (.attempt _) fun searches => ?_
  refine .bind (.phase (fun _ _ => isTask_of_collecting) searches.ascending.nodup)
    fun collected => ?_
  refine .bind (.attempt _) fun answer => ?_
  refine .bind (.phase (fun _ _ => isTask_of_counting) (by simpa using distinct)) fun counted => ?_
  exact .pure _

/-- Whatever response an execution with the tasks of each phase at once gives, one with them in turn
gives as well, and no core can tell the two apart. -/
theorem exists_inTurn (built : query.Built)
    (behaves : executeBy .atOnce federator query calls (.ok response)) :
    ∃ turned, Session.Trace (federator.execute query) turned (.ok response) ∧
      SameHistories calls turned := by
  rcases behaves with ⟨_, _, impossible⟩ | ⟨_, plan, later, rfl, checked, rest⟩
  · cases impossible
  obtain ⟨rfl, found⟩ := Attempt.trace_settled.mp checked
  obtain ⟨-, planned, -⟩ := planFor_ok found.symm
  have ofPlan : ∃ turned, Attempt.Trace (if plan.isPassThrough then
        federator.executeAlone (federator.withDefaultCore query) plan.resultsCore
      else federator.executeJoin (federator.withDefaultCore query) plan) turned (.ok response) ∧
      SameHistories later turned := by
    by_cases alone : plan.isPassThrough = true
    · rw [if_pos alone] at rest ⊢
      exact Behaviour.MatchedBy.attempt _ _ _ rest
    · rw [if_neg alone] at rest ⊢
      have distinct := JoinPlan.nodup_facetCores (built_withDefaultCore built) planned
      exact executeJoinBy_matchedBy distinct _ _ rest
  obtain ⟨turned, trace, same⟩ := ofPlan
  refine ⟨turned, ?_, same⟩
  exact Attempt.trace_bind_ok.mpr
    ⟨[], plan, turned, rfl, Attempt.trace_settled.mpr ⟨rfl, found⟩, trace⟩

end Federator

/-! Cores that answer by what they have seen -/

/-- A rule by which cores answer: each may go by the searches it has received before, and by nothing
else. -/
abbrev Servers (Q : Type) :=
  String → List (CoreSearch Q) → CoreSearch Q → Outcome

namespace Servers

variable {servers : Servers Q} {calls others : List (Call Q × Outcome)}

def Serve (servers : Servers Q) (calls : List (Call Q × Outcome)) : Prop :=
  ∀ core before exchange after, received core calls = before ++ exchange :: after →
    exchange.2 = servers core (before.map (·.1)) exchange.1

theorem Serve.congr (served : servers.Serve calls) (same : SameHistories calls others) :
    servers.Serve others := by
  intro core before exchange after split
  exact served core before exchange after ((same core).trans split)

theorem Serve.of_append {later : List (Call Q × Outcome)}
    (served : servers.Serve (calls ++ later)) : servers.Serve calls := by
  intro core before exchange after split
  refine served core before exchange (after ++ received core later) ?_
  rw [received_append, split, List.append_assoc, List.cons_append]

theorem Serve.outcome_eq {call : Call Q} {outcome : Outcome}
    (served : servers.Serve (calls ++ [(call, outcome)])) :
    outcome = servers call.core ((received call.core calls).map (·.1)) call.search := by
  refine served call.core (received call.core calls) (call.search, outcome) [] ?_
  rw [received_append, received_cons, if_pos rfl]
  rfl

/-- The same calls are answered alike. -/
theorem Serve.unique (served : servers.Serve calls) (servedOthers : servers.Serve others)
    (same : calls.map (·.1) = others.map (·.1)) : calls = others := by
  induction calls using List.reverseRecOn generalizing others with
  | nil => simpa using same.symm
  | append_singleton calls exchange ih =>
      rw [List.map_append, List.map_singleton] at same
      obtain ⟨before, last, rfl, sameBefore, sameLast⟩ := List.map_eq_append_iff.mp same.symm
      obtain ⟨⟨call, outcome⟩, rfl, rfl⟩ := List.map_eq_singleton_iff.mp sameLast
      obtain rfl := ih served.of_append servedOthers.of_append sameBefore.symm
      obtain ⟨call, firstOutcome⟩ := exchange
      rw [served.outcome_eq, servedOthers.outcome_eq]

def ofAnswer (answer : Call Q → Outcome) : Servers Q :=
  fun core _ search => answer ⟨core, search⟩

theorem serve_ofAnswer (answer : Call Q → Outcome) (calls : List (Call Q)) :
    (ofAnswer answer).Serve (calls.map fun call => (call, answer call)) := by
  intro core before exchange after split
  have member : exchange ∈ received core (calls.map fun call => (call, answer call)) := by
    simp [split]
  obtain ⟨made, inCalls, rfl⟩ := List.mem_map.mp member
  obtain ⟨inCalls, onCore⟩ := List.mem_filter.mp inCalls
  obtain ⟨call, -, rfl⟩ := List.mem_map.mp inCalls
  obtain rfl := of_decide_eq_true onCore
  rfl

end Servers

end FederatedSearch
