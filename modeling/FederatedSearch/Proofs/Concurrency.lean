import FederatedSearch.Proofs.Executions
import Mathlib.Data.List.Forall2

/-! Executions whose searches overlap. The tasks of a phase run on their own, and each makes its
calls whenever it comes to them. The request waits for the tasks, and with an error of one it ends
and leaves the others wherever they are. A `Conduct` is a way to carry out the parts of a request,
and a request carried out with its tasks in turn is the one of `Federator.execute`. -/

namespace FederatedSearch

variable {Q α β ε : Type}

inductive Interleaved : List α → List α → List α → Prop
  | nil : Interleaved [] [] []
  | left {a : α} {first second both : List α} (rest : Interleaved first second both) :
      Interleaved (a :: first) second (a :: both)
  | right {a : α} {first second both : List α} (rest : Interleaved first second both) :
      Interleaved first (a :: second) (a :: both)

inductive AllInterleaved : List (List α) → List α → Prop
  | nil : AllInterleaved [] []
  | cons {part others whole : List α} {parts : List (List α)}
      (inParts : AllInterleaved parts others) (merged : Interleaved part others whole) :
      AllInterleaved (part :: parts) whole

/-- The attempt can begin with these calls. What it does after them is open, and so is whether it
ever learns the outcome of the last one. -/
def Attempt.Begins (attempt : Attempt Q ε α) (calls : List (Call Q × Outcome)) : Prop :=
  ∃ later result, attempt.Trace (calls ++ later) result

def Behaviour (Q α : Type) :=
  List (Call Q × Outcome) → Except Failure α → Prop

instance : Monad (Behaviour Q) where
  pure value := fun calls result => calls = [] ∧ result = .ok value
  bind first second := fun calls result =>
    (∃ failure, first calls (.error failure) ∧ result = .error failure) ∨
      ∃ before value after, calls = before ++ after ∧ first before (.ok value) ∧
        second value after result

inductive PhaseRun (prepare : α → Except RequestError (Attempt Q BackendError β)) (items : List α) :
    List (Call Q × Outcome) → Except Failure (List β) → Prop
  | ended {runs : List (List (Call Q × Outcome) × β)} {calls : List (Call Q × Outcome)}
      (each : List.Forall₂ (fun item run => ∃ task, prepare item = .ok task ∧
        Attempt.Trace task run.1 (.ok run.2)) items runs)
      (atOnce : AllInterleaved (runs.map (·.1)) calls) :
      PhaseRun prepare items calls (.ok (runs.map (·.2)))
  | failed {parts : List (List (Call Q × Outcome))} {calls part : List (Call Q × Outcome)}
      {item : α} {task : Attempt Q BackendError β} {error : BackendError}
      (each : List.Forall₂ (fun item part => ∃ task, prepare item = .ok task ∧
        Attempt.Begins task part) items parts)
      (ofItem : (item, part) ∈ items.zip parts) (prepared : prepare item = .ok task)
      (failure : Attempt.Trace task part (.error error)) (atOnce : AllInterleaved parts calls) :
      PhaseRun prepare items calls (.error (.backend error))
  | refused {before after : List α} {item : α} {parts : List (List (Call Q × Outcome))}
      {calls : List (Call Q × Outcome)} {error : RequestError}
      (split : items = before ++ item :: after)
      (each : List.Forall₂ (fun item part => ∃ task, prepare item = .ok task ∧
        Attempt.Begins task part) before parts)
      (unprepared : prepare item = .error error) (atOnce : AllInterleaved parts calls) :
      PhaseRun prepare items calls (.error (.request error))

structure Conduct (Q : Type) (m : Type → Type) where
  attempt {α : Type} : Attempt Q Failure α → m α
  phase {α β : Type} : (α → Except RequestError (Attempt Q BackendError β)) → List α → m (List β)

namespace Conduct

def inTurn : Conduct Q (Attempt Q Failure) where
  attempt := id
  phase prepare items := startEach prepare items >>= awaitAll

def atOnce : Conduct Q (Behaviour Q) where
  attempt := Attempt.Trace
  phase := PhaseRun

end Conduct

namespace Federator

variable {m : Type → Type} [Monad m]

def executeJoinBy (conduct : Conduct Q m) (federator : Federator) (query : ComposedQuery Q)
    (plan : JoinPlan) : m SearchResponse := do
  let resultsKey ← conduct.attempt (requested (plan.keyFor plan.resultsCore))
  let searches ← conduct.attempt (requested (keySearches query plan))
  let collected ← conduct.phase federator.collecting searches.entries
  let request := primarySearch query plan resultsKey (combineKeys collected.flatten)
  let answer ← conduct.attempt (federator.searchDirectly plan.resultsCore request)
  let primary := answer.tagged plan.resultsCore
  let counted ← conduct.phase (federator.counting query plan primary.keys) plan.facetCores
  return mergeFacets plan primary counted.flatten

def executeBy (conduct : Conduct Q m) (federator : Federator) (query : ComposedQuery Q) :
    m SearchResponse := do
  let query := federator.withDefaultCore query
  let plan ← conduct.attempt (Attempt.settled (federator.planFor query))
  if plan.isPassThrough then
    conduct.attempt (federator.executeAlone query plan.resultsCore)
  else executeJoinBy conduct federator query plan

end Federator

namespace Session

theorem bind_assoc {γ : Type} (first : Session Q α) (second : α → Session Q β)
    (third : β → Session Q γ) :
    (first.bind second).bind third = first.bind fun value => (second value).bind third := by
  induction first with
  | done value => rfl
  | ask call next ih => simp [bind, ih]

instance : LawfulMonad (Session Q) :=
  LawfulMonad.mk' (Session Q)
    (fun session => by
      induction session with
      | done value => rfl
      | ask call next ih => exact congrArg (Session.ask call) (funext ih))
    (fun _ _ => rfl) bind_assoc

end Session

namespace Federator

theorem executeJoinBy_inTurn (federator : Federator) (query : ComposedQuery Q) (plan : JoinPlan) :
    executeJoinBy .inTurn federator query plan = federator.executeJoin query plan := by
  simp only [executeJoinBy, executeJoin, Conduct.inTurn, id_eq, bind_assoc]

theorem executeBy_inTurn (federator : Federator) (query : ComposedQuery Q) :
    (executeBy .inTurn federator query).run = federator.execute query := by
  unfold executeBy execute
  simp only [executeJoinBy_inTurn]
  rfl

end Federator

/-! What is done in turn can be done at once -/

theorem Interleaved.of_nil (list : List α) : Interleaved [] list list := by
  induction list with
  | nil => exact .nil
  | cons a list ih => exact .right ih

theorem Interleaved.of_append (first second : List α) :
    Interleaved first second (first ++ second) := by
  induction first with
  | nil => exact .of_nil second
  | cons a first ih => exact .left ih

theorem AllInterleaved.of_flatten (parts : List (List α)) : AllInterleaved parts parts.flatten := by
  induction parts with
  | nil => exact .nil
  | cons part parts ih => exact .cons ih (.of_append part parts.flatten)

theorem Attempt.Trace.begins {attempt : Attempt Q ε α} {calls : List (Call Q × Outcome)}
    {result : Except ε α} (trace : attempt.Trace calls result) : attempt.Begins calls :=
  ⟨[], result, by rwa [List.append_nil]⟩

theorem mem_of_mapM_id_error {tasks : List (Except ε α)} {error : ε}
    (found : tasks.mapM id = .error error) : .error error ∈ tasks := by
  induction tasks with
  | nil => cases found
  | cons task tasks ih =>
      rw [List.mapM_cons] at found
      cases task with
      | error first =>
          obtain rfl := Except.error.inj found
          exact List.mem_cons_self
      | ok value =>
          cases later : tasks.mapM id with
          | error other =>
              rw [later] at found
              obtain rfl := Except.error.inj found
              exact List.mem_cons_of_mem _ (ih later)
          | ok values =>
              rw [later] at found
              cases found

variable {calls : List (Call Q × Outcome)}

theorem mem_of_awaitAll_error {tasks : List (Except BackendError α)} {failure : Failure}
    (trace : Attempt.Trace (awaitAll (Q := Q) tasks) calls (.error failure)) :
    calls = [] ∧ ∃ error, .error error ∈ tasks ∧ failure = .backend error := by
  obtain ⟨rfl, ended⟩ := Attempt.trace_settled.mp trace
  cases found : tasks.mapM id with
  | ok values =>
      rw [found] at ended
      cases ended
  | error error =>
      rw [found] at ended
      exact ⟨rfl, error, mem_of_mapM_id_error found, Except.error.inj ended⟩

variable {prepare : α → Except RequestError (Attempt Q BackendError β)} {items : List α}

theorem startEach_refused {failure : Failure}
    (trace : Attempt.Trace (startEach prepare items) calls (.error failure)) :
    ∃ before item after error parts, items = before ++ item :: after ∧
      List.Forall₂ (fun item part => ∃ task, prepare item = .ok task ∧
        Attempt.Begins task part) before parts ∧
      prepare item = .error error ∧ failure = .request error ∧ calls = parts.flatten := by
  induction items generalizing calls with
  | nil => cases (Attempt.trace_pure.mp trace).2
  | cons item rest ih =>
      rcases Attempt.trace_bind.mp trace with
        ⟨_, first, same⟩ | ⟨_, task, _, rfl, first, afterFirst⟩
      · obtain ⟨rfl, error, unprepared, refused⟩ := trace_requested_error.mp first
        obtain rfl := Except.error.inj same
        exact ⟨[], item, rest, error, [], rfl, .nil, unprepared, refused, rfl⟩
      obtain ⟨rfl, prepared⟩ := trace_requested_ok.mp first
      rcases Attempt.trace_bind.mp afterFirst with
        ⟨_, second, _⟩ | ⟨_, ended, _, rfl, second, afterSecond⟩
      · obtain ⟨_, _, impossible⟩ := Attempt.trace_apart.mp second
        cases impossible
      obtain ⟨result, inner, _⟩ := Attempt.trace_apart.mp second
      rcases Attempt.trace_bind.mp afterSecond with ⟨_, third, same⟩ | ⟨_, _, _, _, _, fourth⟩
      · obtain rfl := Except.error.inj same
        obtain ⟨before, other, after, error, parts, rfl, begun, unprepared, refused, rfl⟩ :=
          ih third
        exact ⟨item :: before, other, after, error, _ :: parts, rfl,
          .cons ⟨task, prepared, inner.begins⟩ begun, unprepared, refused, rfl⟩
      · cases (Attempt.trace_pure.mp fourth).2

theorem phaseRun_of_inTurn {result : Except Failure (List β)}
    (trace : Attempt.Trace (Conduct.inTurn.phase prepare items) calls result) :
    PhaseRun prepare items calls result := by
  rcases Attempt.trace_bind.mp trace with ⟨_, first, rfl⟩ | ⟨_, tasks, _, rfl, first, awaited⟩
  · obtain ⟨before, item, after, error, parts, split, begun, unprepared, rfl, rfl⟩ :=
      startEach_refused first
    exact .refused split begun unprepared (.of_flatten parts)
  cases result with
  | ok values =>
      obtain ⟨rfl, rfl⟩ := trace_awaitAll_ok.mp awaited
      obtain ⟨runs, each, rfl, rfl⟩ := startEach_awaited first
      rw [List.append_nil, List.flatMap_def]
      exact .ended each (.of_flatten _)
  | error failure =>
      obtain ⟨rfl, error, failed, rfl⟩ := mem_of_awaitAll_error awaited
      obtain ⟨runs, each, rfl, rfl⟩ := startEach_ok first
      obtain ⟨run, inRuns, isError⟩ := List.mem_map.mp failed
      obtain ⟨item, paired, task, prepared, trace⟩ := exists_mem_zip each inRuns
      rw [List.append_nil, List.flatMap_def]
      have ofItem : (item, run.1) ∈ items.zip (runs.map (·.1)) := by
        rw [List.zip_map_right]
        exact List.mem_map_of_mem paired
      have begun : List.Forall₂ (fun item part => ∃ task, prepare item = .ok task ∧
          Attempt.Begins task part) items (runs.map (·.1)) := by
        rw [List.forall₂_map_right_iff]
        exact each.imp fun _ _ ⟨task, prepared, trace⟩ => ⟨task, prepared, trace.begins⟩
      exact .failed begun ofItem prepared (isError ▸ trace) (.of_flatten _)

theorem Attempt.trace_bind_imp {first : Attempt Q Failure α} {first' : Behaviour Q α}
    {second : α → Attempt Q Failure β} {second' : α → Behaviour Q β}
    (ofFirst : ∀ calls result, first.Trace calls result → first' calls result)
    (ofSecond : ∀ value calls result, (second value).Trace calls result →
      second' value calls result)
    {result : Except Failure β} (trace : Attempt.Trace (first >>= second) calls result) :
    (first' >>= second') calls result := by
  rcases Attempt.trace_bind.mp trace with
    ⟨failure, inner, rfl⟩ | ⟨before, value, after, rfl, inner, outer⟩
  · exact Or.inl ⟨failure, ofFirst _ _ inner, rfl⟩
  · exact Or.inr ⟨before, value, after, rfl, ofFirst _ _ inner, ofSecond value _ _ outer⟩

namespace Federator

variable {federator : Federator} {query : ComposedQuery Q} {plan : JoinPlan}
  {result : Except Failure SearchResponse}

theorem executeJoinBy_atOnce
    (trace : Attempt.Trace (federator.executeJoin query plan) calls result) :
    executeJoinBy .atOnce federator query plan calls result := by
  rw [← executeJoinBy_inTurn] at trace
  refine Attempt.trace_bind_imp (fun _ _ => id) (fun resultsKey _ _ trace => ?_) trace
  refine Attempt.trace_bind_imp (fun _ _ => id) (fun searches _ _ trace => ?_) trace
  refine Attempt.trace_bind_imp (fun _ _ => phaseRun_of_inTurn)
    (fun collected _ _ trace => ?_) trace
  refine Attempt.trace_bind_imp (fun _ _ => id) (fun answer _ _ trace => ?_) trace
  refine Attempt.trace_bind_imp (fun _ _ => phaseRun_of_inTurn)
    (fun counted _ _ trace => ?_) trace
  exact Attempt.trace_pure.mp trace

/-- An execution with the tasks of each phase in turn is one with them at once. -/
theorem executeBy_atOnce (trace : Session.Trace (federator.execute query) calls result) :
    executeBy .atOnce federator query calls result := by
  refine Attempt.trace_bind_imp (fun _ _ => id) (fun plan _ _ trace => ?_) trace
  by_cases alone : plan.isPassThrough = true
  · rw [if_pos alone] at trace ⊢
    exact trace
  · rw [if_neg alone] at trace ⊢
    exact executeJoinBy_atOnce trace

end Federator

end FederatedSearch
