import FederatedSearch.Search.Outcome

/-! Sessions: computations that ask cores to search and go on with what they answer. A session says
what is asked next for every possible answer, and nothing of how the cores come to theirs; `Trace`
relates it to all the ways it can go. -/

namespace FederatedSearch

structure Call (Q : Type) where
  core : String
  search : CoreSearch Q

inductive Session (Q : Type) (α : Type) where
  | done (result : α)
  | ask (call : Call Q) (next : Outcome → Session Q α)

namespace Session

variable {Q α β : Type}

def bind (first : Session Q α) (second : α → Session Q β) : Session Q β :=
  match first with
  | .done result => second result
  | .ask call next => .ask call fun outcome => (next outcome).bind second

instance : Monad (Session Q) where
  pure := .done
  bind := bind

def search (core : String) (request : CoreSearch Q) : Session Q Outcome :=
  .ask ⟨core, request⟩ .done

def run (answer : Call Q → Outcome) : Session Q α → List (Call Q) × α
  | .done result => ([], result)
  | .ask call next =>
    let (calls, result) := (next (answer call)).run answer
    (call :: calls, result)

/-- The session can make these calls, with these outcomes, and end with this result. -/
inductive Trace : Session Q α → List (Call Q × Outcome) → α → Prop
  | done (result : α) : Trace (.done result) [] result
  | ask {call : Call Q} {next : Outcome → Session Q α} {outcome : Outcome}
      {later : List (Call Q × Outcome)} {result : α} (rest : Trace (next outcome) later result) :
      Trace (.ask call next) ((call, outcome) :: later) result

theorem trace_run (answer : Call Q → Outcome) (session : Session Q α) :
    Trace session ((session.run answer).1.map fun call => (call, answer call))
      (session.run answer).2 := by
  induction session with
  | done result => exact Trace.done result
  | ask call next ih => exact Trace.ask (ih (answer call))

theorem trace_bind {first : Session Q α} {second : α → Session Q β}
    {calls : List (Call Q × Outcome)} {result : β} :
    Trace (first.bind second) calls result ↔
      ∃ before middle after, calls = before ++ after ∧ Trace first before middle ∧
        Trace (second middle) after result := by
  constructor
  · intro trace
    induction first generalizing calls with
    | done middle => exact ⟨[], middle, calls, rfl, Trace.done middle, trace⟩
    | ask call next ih =>
      cases trace with
      | ask rest =>
        obtain ⟨before, middle, after, rfl, inner, outer⟩ := ih _ rest
        exact ⟨_ :: before, middle, after, rfl, Trace.ask inner, outer⟩
  · rintro ⟨before, middle, after, rfl, inner, outer⟩
    induction inner with
    | done _ => exact outer
    | ask _ ih => exact Trace.ask (ih outer)

theorem trace_done {value result : α} {calls : List (Call Q × Outcome)} :
    Trace (.done value) calls result ↔ calls = [] ∧ result = value := by
  constructor
  · intro trace
    cases trace
    exact ⟨rfl, rfl⟩
  · rintro ⟨rfl, rfl⟩
    exact Trace.done _

theorem trace_ask {call : Call Q} {next : Outcome → Session Q α} {result : α}
    {calls : List (Call Q × Outcome)} :
    Trace (.ask call next) calls result ↔
      ∃ outcome later, calls = (call, outcome) :: later ∧ Trace (next outcome) later result := by
  constructor
  · intro trace
    cases trace with
    | ask rest => exact ⟨_, _, rfl, rest⟩
  · rintro ⟨outcome, later, rfl, rest⟩
    exact Trace.ask rest

end Session

abbrev Attempt (Q ε : Type) :=
  ExceptT ε (Session Q)

namespace Attempt

variable {Q ε ε' α β : Type}

def settled (found : Except ε α) : Attempt Q ε α :=
  ExceptT.mk (.done found)

def apart (task : Attempt Q ε α) : Attempt Q ε' (Except ε α) :=
  ExceptT.mk (task.run.bind fun result => .done (.ok result))

def Trace (attempt : Attempt Q ε α) (calls : List (Call Q × Outcome)) (result : Except ε α) :
    Prop :=
  Session.Trace attempt.run calls result

theorem trace_pure {value : α} {calls : List (Call Q × Outcome)} {result : Except ε α} :
    Trace (pure value) calls result ↔ calls = [] ∧ result = .ok value :=
  Session.trace_done

theorem trace_settled {found result : Except ε α} {calls : List (Call Q × Outcome)} :
    Trace (settled found) calls result ↔ calls = [] ∧ result = found :=
  Session.trace_done

theorem trace_apart {task : Attempt Q ε α} {calls : List (Call Q × Outcome)}
    {result : Except ε' (Except ε α)} :
    Trace (apart task) calls result ↔ ∃ ended, Trace task calls ended ∧ result = .ok ended := by
  unfold Trace apart
  rw [ExceptT.run_mk, Session.trace_bind]
  constructor
  · rintro ⟨before, ended, after, rfl, inner, outer⟩
    obtain ⟨rfl, rfl⟩ := Session.trace_done.mp outer
    exact ⟨ended, by simpa using inner, rfl⟩
  · rintro ⟨ended, inner, rfl⟩
    exact ⟨calls, ended, [], by simp, inner, Session.trace_done.mpr ⟨rfl, rfl⟩⟩

/-- An attempt ends with an error of its first part, or goes on with what that gives. -/
theorem trace_bind {first : Attempt Q ε α} {second : α → Attempt Q ε β}
    {calls : List (Call Q × Outcome)} {result : Except ε β} :
    Trace (first >>= second) calls result ↔
      (∃ error, Trace first calls (.error error) ∧ result = .error error) ∨
        ∃ before value after, calls = before ++ after ∧ Trace first before (.ok value) ∧
          Trace (second value) after result := by
  unfold Trace
  rw [ExceptT.run_bind]
  change Session.Trace (first.run.bind _) calls result ↔ _
  rw [Session.trace_bind]
  constructor
  · rintro ⟨before, middle, after, rfl, inner, outer⟩
    cases middle with
    | error error =>
        obtain ⟨rfl, rfl⟩ := Session.trace_done.mp outer
        exact Or.inl ⟨error, by simpa using inner, rfl⟩
    | ok value => exact Or.inr ⟨before, value, after, rfl, inner, outer⟩
  · rintro (⟨error, inner, rfl⟩ | ⟨before, value, after, rfl, inner, outer⟩)
    · exact ⟨calls, .error error, [], by simp, inner, Session.trace_done.mpr ⟨rfl, rfl⟩⟩
    · exact ⟨before, .ok value, after, rfl, inner, outer⟩

theorem trace_bind_ok {first : Attempt Q ε α} {second : α → Attempt Q ε β}
    {calls : List (Call Q × Outcome)} {result : β} :
    Trace (first >>= second) calls (.ok result) ↔
      ∃ before value after, calls = before ++ after ∧ Trace first before (.ok value) ∧
        Trace (second value) after (.ok result) := by
  rw [trace_bind]
  simp

end Attempt

end FederatedSearch
