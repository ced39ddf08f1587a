import FederatedSearch.Federation.Execution
import FederatedSearch.Proofs.Grouping
import FederatedSearch.Proofs.ListResults

/-! The parts of an execution, seen in two ways: by the calls they make and the outcomes they go on
with, whatever these are, and by what they give where every call has an outcome of its own. -/

namespace FederatedSearch

variable {Q α β ε ε' : Type} {calls : List (Call Q × Outcome)}

/-! Calls and outcomes -/

theorem trace_searchApart {core : String} {request : CoreSearch Q}
    {result : Except BackendError CoreResponse} :
    Attempt.Trace (searchApart core request) calls result ↔
      ∃ outcome, calls = [(⟨core, request⟩, outcome)] ∧ result = outcome.apart core := by
  unfold Attempt.Trace searchApart
  rw [ExceptT.run_mk, Session.trace_ask]
  constructor
  · rintro ⟨outcome, later, rfl, rest⟩
    obtain ⟨rfl, rfl⟩ := Session.trace_done.mp rest
    exact ⟨outcome, rfl, rfl⟩
  · rintro ⟨outcome, rfl, rfl⟩
    exact ⟨outcome, [], rfl, Session.trace_done.mpr ⟨rfl, rfl⟩⟩

theorem trace_requested_ok {found : Except RequestError α} {value : α} :
    Attempt.Trace (requested found) calls (.ok value) ↔ calls = [] ∧ found = .ok value := by
  unfold requested
  rw [Attempt.trace_settled]
  cases found <;> simp [Except.mapError, eq_comm]

theorem trace_requested_error {found : Except RequestError α} {failure : Failure} :
    Attempt.Trace (requested found) calls (.error failure) ↔
      calls = [] ∧ ∃ error, found = .error error ∧ failure = .request error := by
  unfold requested
  rw [Attempt.trace_settled]
  cases found <;> simp [Except.mapError]

theorem trace_searchDirectly {federator : Federator} {core : String} {request : CoreSearch Q}
    {result : Except Failure CoreResponse} (known : federator.requireCore core = .ok ()) :
    Attempt.Trace (federator.searchDirectly core request) calls result ↔
      ∃ outcome, calls = [(⟨core, request⟩, outcome)] ∧ result = outcome.direct := by
  unfold Federator.searchDirectly
  rw [known, Attempt.trace_bind]
  constructor
  · rintro (⟨error, impossible, _⟩ | ⟨before, _, after, rfl, first, rest⟩)
    · obtain ⟨_, _, found, _⟩ := trace_requested_error.mp impossible
      cases found
    · obtain ⟨rfl, _⟩ := trace_requested_ok.mp first
      obtain ⟨outcome, later, rfl, ended⟩ := Session.trace_ask.mp rest
      obtain ⟨rfl, rfl⟩ := Session.trace_done.mp ended
      exact ⟨outcome, rfl, rfl⟩
  · rintro ⟨outcome, rfl, rfl⟩
    refine Or.inr ⟨[], (), _, rfl, trace_requested_ok.mpr ⟨rfl, rfl⟩, ?_⟩
    exact Session.trace_ask.mpr ⟨outcome, [], rfl, Session.trace_done.mpr ⟨rfl, rfl⟩⟩

theorem eq_answered_of_apart {core : String} {outcome : Outcome} {response : CoreResponse}
    (ended : outcome.apart core = .ok response) : outcome = .answered response := by
  cases outcome with
  | answered found => rw [Except.ok.inj ended]
  | failed failure => cases ended
  | panicked => cases ended

theorem eq_answered_of_direct {outcome : Outcome} {response : CoreResponse}
    (ended : outcome.direct = .ok response) : outcome = .answered response := by
  cases outcome with
  | answered found => rw [Except.ok.inj ended]
  | failed failure => cases ended
  | panicked => cases ended

structure Exchange (Q : Type) where
  core : String
  purpose : Purpose
  search : CoreSearch Q
  answer : CoreResponse

namespace Exchange

def asked (exchange : Exchange Q) : String × Purpose × CoreSearch Q :=
  (exchange.core, exchange.purpose, exchange.search)

def call (exchange : Exchange Q) : Call Q × Outcome :=
  (⟨exchange.core, exchange.search⟩, .answered exchange.answer)

def keys (exchange : Exchange Q) : PurposedKeys :=
  (exchange.purpose, exchange.answer.keys)

theorem eq_of_asked {exchange : Exchange Q} {core : String} {purpose : Purpose}
    {search : CoreSearch Q} (asked : exchange.asked = (core, purpose, search)) :
    exchange = ⟨core, purpose, search, exchange.answer⟩ := by
  cases exchange
  cases asked
  rfl

end Exchange

theorem collectFrom_ok {core : String} {searches : List (Purpose × CoreSearch Q)}
    {keys : List PurposedKeys}
    (trace : Attempt.Trace (collectFrom core searches) calls (.ok keys)) :
    ∃ exchanges : List (Exchange Q), exchanges.map Exchange.asked = searches.map (core, ·) ∧
      calls = exchanges.map Exchange.call ∧ keys = exchanges.map Exchange.keys := by
  induction searches generalizing calls keys with
  | nil =>
      obtain ⟨rfl, found⟩ := Attempt.trace_pure.mp trace
      exact ⟨[], rfl, rfl, Except.ok.inj found⟩
  | cons head rest ih =>
      obtain ⟨purpose, request⟩ := head
      obtain ⟨before, response, after, rfl, first, later⟩ := Attempt.trace_bind_ok.mp trace
      obtain ⟨middle, others, last, rfl, second, ended⟩ := Attempt.trace_bind_ok.mp later
      obtain ⟨outcome, rfl, answered⟩ := trace_searchApart.mp first
      obtain ⟨exchanges, asked, rfl, rfl⟩ := ih second
      obtain ⟨rfl, found⟩ := Attempt.trace_pure.mp ended
      have isAnswer := eq_answered_of_apart answered.symm
      refine ⟨⟨core, purpose, request, response⟩ :: exchanges, ?_, ?_, ?_⟩
      · simp [Exchange.asked, asked]
      · simp [Exchange.call, isAnswer]
      · simpa [Exchange.keys] using Except.ok.inj found

theorem mapM_id_ok {tasks : List (Except ε α)} {values : List α} :
    tasks.mapM id = .ok values ↔ tasks = values.map .ok := by
  rw [mapM_ok_iff]
  constructor
  · intro each
    induction each with
    | nil => rfl
    | cons first _ ih => rw [List.map_cons, ← ih, ← first, id_eq]
  · rintro rfl
    rw [List.forall₂_map_left_iff, List.forall₂_same]
    exact fun value _ => rfl

theorem trace_awaitAll_ok {tasks : List (Except BackendError α)} {values : List α} :
    Attempt.Trace (awaitAll (Q := Q) tasks) calls (.ok values) ↔
      calls = [] ∧ tasks = values.map .ok := by
  unfold awaitAll
  rw [Attempt.trace_settled, ← mapM_id_ok]
  cases tasks.mapM id <;> simp [Except.mapError, eq_comm]

theorem trace_awaitAll_error {tasks : List (Except BackendError α)} {failure : Failure}
    (trace : Attempt.Trace (awaitAll (Q := Q) tasks) calls (.error failure)) :
    calls = [] ∧ ∃ error, failure = .backend error := by
  unfold awaitAll at trace
  obtain ⟨rfl, ended⟩ := Attempt.trace_settled.mp trace
  refine ⟨rfl, ?_⟩
  cases found : tasks.mapM id with
  | error error =>
      rw [found] at ended
      exact ⟨error, Except.error.inj ended⟩
  | ok values =>
      rw [found] at ended
      cases ended

theorem startEach_ok {prepare : α → Except RequestError (Attempt Q BackendError β)}
    {items : List α} {tasks : List (Except BackendError β)}
    (trace : Attempt.Trace (startEach prepare items) calls (.ok tasks)) :
    ∃ runs : List (List (Call Q × Outcome) × Except BackendError β),
      List.Forall₂ (fun item run => ∃ task, prepare item = .ok task ∧
        Attempt.Trace task run.1 run.2) items runs ∧
      calls = runs.flatMap (·.1) ∧ tasks = runs.map (·.2) := by
  induction items generalizing calls tasks with
  | nil =>
      obtain ⟨rfl, found⟩ := Attempt.trace_pure.mp trace
      exact ⟨[], List.Forall₂.nil, rfl, Except.ok.inj found⟩
  | cons item rest ih =>
      obtain ⟨before, task, after, rfl, first, afterFirst⟩ := Attempt.trace_bind_ok.mp trace
      obtain ⟨taskCalls, ended, others, rfl, second, afterSecond⟩ :=
        Attempt.trace_bind_ok.mp afterFirst
      obtain ⟨restCalls, endedRest, last, rfl, third, fourth⟩ :=
        Attempt.trace_bind_ok.mp afterSecond
      obtain ⟨rfl, prepared⟩ := trace_requested_ok.mp first
      obtain ⟨result, inner, same⟩ := Attempt.trace_apart.mp second
      obtain ⟨runs, matched, rfl, rfl⟩ := ih third
      obtain ⟨rfl, found⟩ := Attempt.trace_pure.mp fourth
      cases same
      refine ⟨(taskCalls, ended) :: runs, List.Forall₂.cons ⟨task, prepared, inner⟩ matched, ?_, ?_⟩
      · simp
      · simpa using Except.ok.inj found

theorem startEach_error {prepare : α → Except RequestError (Attempt Q BackendError β)}
    {items : List α} {failure : Failure}
    (trace : Attempt.Trace (startEach prepare items) calls (.error failure)) :
    ∃ item ∈ items, ∃ error, prepare item = .error error := by
  induction items generalizing calls failure with
  | nil => cases (Attempt.trace_pure.mp trace).2
  | cons item rest ih =>
      rcases Attempt.trace_bind.mp trace with ⟨_, first, _⟩ | ⟨_, task, _, _, _, afterFirst⟩
      · obtain ⟨_, error, unprepared, _⟩ := trace_requested_error.mp first
        exact ⟨item, List.mem_cons_self, error, unprepared⟩
      rcases Attempt.trace_bind.mp afterFirst with ⟨_, second, _⟩ | ⟨_, ended, _, _, _, afterSecond⟩
      · obtain ⟨_, _, impossible⟩ := Attempt.trace_apart.mp second
        cases impossible
      rcases Attempt.trace_bind.mp afterSecond with ⟨_, third, _⟩ | ⟨_, _, _, _, _, fourth⟩
      · obtain ⟨other, inRest, error, unprepared⟩ := ih third
        exact ⟨other, List.mem_cons_of_mem item inRest, error, unprepared⟩
      · cases (Attempt.trace_pure.mp fourth).2

/-! Results -/

namespace Session

theorem run_bind (answer : Call Q → Outcome) (first : Session Q α) (second : α → Session Q β) :
    (first.bind second).run answer =
      ((first.run answer).1 ++ ((second (first.run answer).2).run answer).1,
        ((second (first.run answer).2).run answer).2) := by
  induction first with
  | done value => rfl
  | ask call next ih => simp [bind, run, ih]

end Session

namespace Attempt

variable {answer : Call Q → Outcome}

def result (answer : Call Q → Outcome) (attempt : Attempt Q ε α) : Except ε α :=
  (Session.run answer attempt.run).2

@[simp] theorem result_pure (value : α) :
    result answer (pure value : Attempt Q ε α) = .ok value :=
  rfl

@[simp] theorem result_settled (found : Except ε α) :
    result answer (settled found : Attempt Q ε α) = found :=
  rfl

@[simp] theorem result_bind (first : Attempt Q ε α) (second : α → Attempt Q ε β) :
    result answer (first >>= second) =
      (result answer first).bind fun value => result answer (second value) := by
  unfold result
  rw [ExceptT.run_bind]
  change (Session.run answer (first.run.bind _)).2 = _
  rw [Session.run_bind]
  cases (Session.run answer first.run).2 <;> rfl

@[simp] theorem result_apart (task : Attempt Q ε α) :
    result answer (apart task : Attempt Q ε' (Except ε α)) = .ok (result answer task) := by
  unfold result apart
  rw [ExceptT.run_mk, Session.run_bind]
  rfl

@[simp] theorem result_searchApart (core : String) (request : CoreSearch Q) :
    result answer (searchApart core request) = (answer ⟨core, request⟩).apart core :=
  rfl

end Attempt

theorem result_searchDirectly {answer : Call Q → Outcome} {federator : Federator} {core : String}
    (known : federator.requireCore core = .ok ()) (request : CoreSearch Q) :
    Attempt.result answer (federator.searchDirectly core request) =
      (answer ⟨core, request⟩).direct := by
  unfold Federator.searchDirectly requested
  rw [known, Attempt.result_bind, Attempt.result_settled]
  rfl

theorem result_collectFrom {answer : Call Q → Outcome} {core : String}
    {respond : CoreSearch Q → CoreResponse} {searches : List (Purpose × CoreSearch Q)}
    (answered : ∀ search ∈ searches,
      answer ⟨core, search.2⟩ = .answered (respond search.2)) :
    Attempt.result answer (collectFrom core searches) =
      .ok (searches.map fun search => (search.1, (respond search.2).keys)) := by
  induction searches with
  | nil => rfl
  | cons head rest ih =>
      have first := answered head List.mem_cons_self
      have later := ih fun search member => answered search (List.mem_cons_of_mem head member)
      obtain ⟨purpose, request⟩ := head
      simp only [collectFrom, Attempt.result_bind, Attempt.result_searchApart, first,
        Outcome.apart, Except.bind, later, Attempt.result_pure, List.map_cons]

theorem result_startEach {answer : Call Q → Outcome}
    {prepare : α → Except RequestError (Attempt Q BackendError β)} {value : α → β} {items : List α}
    (prepared : ∀ item ∈ items, ∃ task, prepare item = .ok task ∧
      Attempt.result answer task = .ok (value item)) :
    Attempt.result answer (startEach prepare items) =
      .ok ((items.map value).map .ok) := by
  induction items with
  | nil => rfl
  | cons item rest ih =>
      obtain ⟨task, found, gives⟩ := prepared item List.mem_cons_self
      have later := ih fun other member => prepared other (List.mem_cons_of_mem item member)
      simp only [startEach, found, requested, Except.mapError, Attempt.result_bind,
        Attempt.result_settled, Except.bind, Attempt.result_apart, gives, later,
        Attempt.result_pure, List.map_cons]

theorem result_awaitAll {answer : Call Q → Outcome} {values : List α} :
    Attempt.result answer (awaitAll (Q := Q) (values.map .ok)) = .ok values := by
  unfold awaitAll
  rw [mapM_id_ok.mpr rfl]
  rfl

end FederatedSearch
