import FederatedSearch.Proofs.ConvertedQueries
import FederatedSearch.Proofs.CoreHistories

/-! Executions with other queries. An execution hands queries to the cores and looks at none of them
itself, so with every query changed it makes the same calls, with the queries in them changed. -/

namespace FederatedSearch

variable {Q R α β γ δ ε : Type}

/-! Sessions with other queries -/

def Call.convert (change : Q → R) (call : Call Q) : Call R where
  core := call.core
  search := call.search.convert change

def convertCalls (change : Q → R) (calls : List (Call Q × Outcome)) : List (Call R × Outcome) :=
  calls.map fun (call, outcome) => (call.convert change, outcome)

theorem convertCalls_append (change : Q → R) (before after : List (Call Q × Outcome)) :
    convertCalls change (before ++ after) =
      convertCalls change before ++ convertCalls change after :=
  List.map_append

theorem outcomes_convertCalls (change : Q → R) (calls : List (Call Q × Outcome)) :
    (convertCalls change calls).map (·.2) = calls.map (·.2) := by
  unfold convertCalls
  rw [List.map_map]
  rfl

variable {change : Q → R} {onResult : α → β} {onFirst : α → γ} {onLast : β → δ}

namespace Session

def carry (change : Q → R) (onResult : α → β) : Session Q α → Session R β
  | .done result => .done (onResult result)
  | .ask call next => .ask (call.convert change) fun outcome => (next outcome).carry change onResult

theorem carry_bind {first : Session Q α} {second : α → Session Q β} {second' : γ → Session R δ}
    (goesOn : ∀ value, (second value).carry change onLast = second' (onFirst value)) :
    (first.bind second).carry change onLast = (first.carry change onFirst).bind second' := by
  induction first with
  | done value => exact goesOn value
  | ask call next ih => exact congrArg (Session.ask _) (funext ih)

theorem trace_carry {session : Session Q α} {others : List (Call R × Outcome)} {result : β} :
    Trace (session.carry change onResult) others result ↔ ∃ calls value,
      Trace session calls value ∧ others = convertCalls change calls ∧ result = onResult value := by
  constructor
  · intro trace
    induction session generalizing others with
    | done value =>
        obtain ⟨rfl, rfl⟩ := trace_done.mp trace
        exact ⟨[], value, .done value, rfl, rfl⟩
    | ask call next ih =>
        obtain ⟨outcome, later, rfl, rest⟩ := trace_ask.mp trace
        obtain ⟨calls, value, made, rfl, same⟩ := ih outcome rest
        exact ⟨(call, outcome) :: calls, value, .ask made, rfl, same⟩
  · rintro ⟨calls, value, trace, rfl, rfl⟩
    induction trace with
    | done value => exact .done _
    | ask _ ih => exact .ask ih

/-- The calls of a session are determined by their outcomes. -/
theorem Trace.eq_of_outcomes {session : Session Q α} {calls part later : List (Call Q × Outcome)}
    {result other : α} (trace : Trace session calls result)
    (begins : Trace session (part ++ later) other) (same : calls.map (·.2) = part.map (·.2)) :
    calls = part := by
  induction trace generalizing part with
  | done value => exact (List.map_eq_nil_iff.mp same.symm).symm
  | @ask call next outcome calls result _ ih =>
      cases part with
      | nil => simp at same
      | cons exchange part =>
          obtain ⟨_, _, split, rest⟩ := trace_ask.mp begins
          obtain ⟨rfl, rfl⟩ := List.cons.inj split
          obtain ⟨rfl, sameRest⟩ := List.cons.inj same
          rw [ih rest sameRest]

end Session

namespace Attempt

def carry (change : Q → R) (onResult : α → β) (attempt : Attempt Q ε α) : Attempt R ε β :=
  ExceptT.mk (attempt.run.carry change (Except.map onResult))

theorem carry_bind {first : Attempt Q ε α} {second : α → Attempt Q ε β}
    {second' : γ → Attempt R ε δ}
    (goesOn : ∀ value, (second value).carry change onLast = second' (onFirst value)) :
    (first >>= second).carry change onLast = first.carry change onFirst >>= second' := by
  refine congrArg ExceptT.mk (Session.carry_bind fun result => ?_)
  cases result with
  | error error => rfl
  | ok value => exact congrArg ExceptT.run (goesOn value)

/-- Both parts of an attempt are looked at one after the other. -/
theorem carry_bind_eq (onFirst : α → γ) {first : Attempt Q ε α} {first' : Attempt R ε γ}
    {second : α → Attempt Q ε β} {second' : γ → Attempt R ε δ}
    (begins : first.carry change onFirst = first')
    (goesOn : ∀ value, (second value).carry change onLast = second' (onFirst value)) :
    (first >>= second).carry change onLast = first' >>= second' := by
  rw [carry_bind goesOn, begins]

theorem carry_apart {task : Attempt Q ε α} {ε' : Type} :
    (apart task : Attempt Q ε' (Except ε α)).carry change (Except.map onResult) =
      apart (task.carry change onResult) :=
  congrArg ExceptT.mk (Session.carry_bind fun _ => rfl)

theorem carry_requested (found : Except RequestError α) :
    (requested found : Attempt Q Failure α).carry change onResult =
      requested (found.map onResult) := by
  cases found <;> rfl

theorem trace_carry {attempt : Attempt Q ε α} {others : List (Call R × Outcome)}
    {result : Except ε β} :
    Trace (attempt.carry change onResult) others result ↔ ∃ calls value,
      Trace attempt calls value ∧ others = convertCalls change calls ∧
        result = value.map onResult :=
  Session.trace_carry

end Attempt

/-! What is asked of the cores -/

section Searches

variable (change : Q → R) (query : ComposedQuery Q) (plan : JoinPlan)

theorem coreSearch_convert (core : String) :
    coreSearch (query.convert change) core = (coreSearch query core).convert change := by
  rw [ComposedQuery.coreSearch_eq, ComposedQuery.coreSearch_eq, ComposedQuery.bundleOf_convert]
  rfl

theorem resultsSearch_convert (core : String) :
    resultsSearch (query.convert change) core = (resultsSearch query core).convert change := by
  unfold resultsSearch
  rw [coreSearch_convert, ComposedQuery.rankQueryFor_eq, ComposedQuery.rankQueryFor_eq,
    ComposedQuery.facetsFor_eq, ComposedQuery.facetsFor_eq, ComposedQuery.bundleOf_convert]
  rfl

theorem primarySearch_convert (key : String) (keys : List (SortedSet String)) :
    primarySearch (query.convert change) plan key keys =
      (primarySearch query plan key keys).convert change := by
  unfold primarySearch
  rw [resultsSearch_convert]
  rfl

theorem facetSearch_convert (core key : String) (keys : SortedSet String) :
    facetSearch (query.convert change) core key keys =
      (facetSearch query core key keys).convert change := by
  unfold facetSearch
  rw [coreSearch_convert, ComposedQuery.facetsFor_eq, ComposedQuery.facetsFor_eq,
    ComposedQuery.bundleOf_convert]
  rfl

def convertSearches (change : Q → R) (searches : List (Purpose × CoreSearch Q)) :
    List (Purpose × CoreSearch R) :=
  searches.map (Prod.map id (CoreSearch.convert change))

theorem keySearches_convert : keySearches (query.convert change) plan =
    (keySearches query plan).map (SortedMap.mapValues (convertSearches change)) := by
  have join (core key : String) : joinSearch (query.convert change) core key =
      (joinSearch query core key).convert change := by
    unfold joinSearch
    rw [coreSearch_convert]
    rfl
  have joins : plan.joinCores.mapM (fun core => do
        return (core, Purpose.join, joinSearch (query.convert change) core (← plan.keyFor core))) =
      (plan.joinCores.mapM (fun core => do
        return (core, Purpose.join, joinSearch query core (← plan.keyFor core)))).map
          (List.map (Prod.map id (Prod.map id (CoreSearch.convert change)))) := by
    induction plan.joinCores with
    | nil => rfl
    | cons core rest ih =>
        rw [List.mapM_cons, List.mapM_cons, ih]
        cases plan.keyFor core with
        | error error => rfl
        | ok key =>
            simp only [join]
            cases rest.mapM (fun core => do
              return (core, Purpose.join, joinSearch query core (← plan.keyFor core))) <;> rfl
  have unites : (query.convert change).unites.map (fun unite =>
        (unite.core, Purpose.unite, uniteSearch unite)) =
      (query.unites.map fun unite => (unite.core, Purpose.unite, uniteSearch unite)).map
        (Prod.map id (Prod.map id (CoreSearch.convert change))) := by
    rw [List.map_map]
    exact List.map_map
  unfold keySearches
  rw [joins, unites]
  cases plan.joinCores.mapM (fun core => do
      return (core, Purpose.join, joinSearch query core (← plan.keyFor core))) with
  | error error => rfl
  | ok joins =>
      refine congrArg Except.ok ?_
      rw [← List.map_append]
      exact SortedMap.grouped_map _ _

end Searches

/-! The parts of an execution -/

section Parts

variable (change : Q → R) (federator : Federator) (query : ComposedQuery Q) (plan : JoinPlan)

theorem carry_searchApart (core : String) (request : CoreSearch Q) :
    (searchApart core request).carry change id = searchApart core (request.convert change) := by
  refine congrArg (fun next => ExceptT.mk (Session.ask _ next)) (funext fun outcome => ?_)
  exact congrArg Session.done (congrFun Except.map_id (outcome.apart core))

theorem carry_collectFrom (core : String) (searches : List (Purpose × CoreSearch Q)) :
    (collectFrom core searches).carry change id =
      collectFrom core (convertSearches change searches) := by
  induction searches with
  | nil => rfl
  | cons search rest ih =>
      refine Attempt.carry_bind_eq id (carry_searchApart change core search.2) fun response => ?_
      exact Attempt.carry_bind_eq id ih fun later => rfl

theorem carry_countFrom (core : String) (request : CoreSearch Q) :
    (countFrom core request).carry change id = countFrom core (request.convert change) :=
  Attempt.carry_bind_eq id (carry_searchApart change core request) fun _ => rfl

theorem collecting_convert (searches : String × List (Purpose × CoreSearch Q)) :
    federator.collecting (Prod.map id (convertSearches change) searches) =
      (federator.collecting searches).map (Attempt.carry change id) := by
  unfold Federator.collecting
  rw [Prod.map_fst, Prod.map_snd, ← carry_collectFrom, id_eq]
  cases federator.requireCore searches.1 <;> rfl

theorem counting_convert (keys : SortedSet String) (core : String) :
    federator.counting (query.convert change) plan keys core =
      (federator.counting query plan keys core).map (Attempt.carry change id) := by
  unfold Federator.counting
  cases plan.keyFor core with
  | error error => rfl
  | ok key =>
      simp only [facetSearch_convert, ← carry_countFrom]
      cases federator.requireCore core <;> rfl

theorem carry_searchDirectly (core : String) (request : CoreSearch Q) :
    (federator.searchDirectly core request).carry change id =
      federator.searchDirectly core (request.convert change) := by
  refine Attempt.carry_bind_eq id ?_ fun _ => ?_
  · rw [Attempt.carry_requested, Except.map_id, id_eq]
  · refine congrArg (fun next => ExceptT.mk (Session.ask _ next)) (funext fun outcome => ?_)
    exact congrArg Session.done (congrFun Except.map_id outcome.direct)

theorem carry_executeAlone (core : String) :
    (federator.executeAlone query core).carry change id =
      federator.executeAlone (query.convert change) core := by
  refine Attempt.carry_bind_eq id ?_ fun _ => rfl
  rw [carry_searchDirectly, resultsSearch_convert]

end Parts

/-! Ways to carry out requests -/

structure Carriage {m n : Type → Type} [Monad m] [Monad n] (change : Q → R) (first : Conduct Q m)
    (second : Conduct R n) where
  carry {α β : Type} : (α → β) → m α → n β
  carry_pure {α β : Type} (onResult : α → β) (value : α) :
    carry onResult (pure value) = pure (onResult value)
  carry_bind {α β γ δ : Type} (onFirst : α → γ) {onLast : β → δ} {part : m α} {part' : n γ}
    {next : α → m β} {next' : γ → n δ} (begins : carry onFirst part = part')
    (goesOn : ∀ value, carry onLast (next value) = next' (onFirst value)) :
    carry onLast (part >>= next) = part' >>= next'
  carry_attempt {α β : Type} (onResult : α → β) (attempt : Attempt Q Failure α) :
    carry onResult (first.attempt attempt) = second.attempt (attempt.carry change onResult)
  carry_phase {α β γ : Type} {prepare : α → Except RequestError (Attempt Q BackendError β)}
    {prepare' : γ → Except RequestError (Attempt R BackendError β)} (onItem : α → γ)
    (prepared : ∀ item, prepare' (onItem item) = (prepare item).map (Attempt.carry change id))
    (items : List α) :
    carry id (first.phase prepare items) = second.phase prepare' (items.map onItem)

namespace Carriage

variable {m n : Type → Type} [Monad m] [Monad n] {first : Conduct Q m} {second : Conduct R n}
  (carriage : Carriage change first second)

theorem carry_requested (onResult : α → β) (found : Except RequestError α) :
    carriage.carry onResult (first.attempt (requested found)) =
      second.attempt (requested (found.map onResult)) := by
  rw [carriage.carry_attempt, Attempt.carry_requested]

theorem carry_executeJoinBy (federator : Federator) (query : ComposedQuery Q) (plan : JoinPlan) :
    carriage.carry id (federator.executeJoinBy first query plan) =
      federator.executeJoinBy second (query.convert change) plan := by
  refine carriage.carry_bind id ?_ fun resultsKey => ?_
  · rw [carriage.carry_requested, Except.map_id, id_eq]
  refine carriage.carry_bind (SortedMap.mapValues (convertSearches change)) ?_
    fun searches => ?_
  · rw [carriage.carry_requested, keySearches_convert]
  refine carriage.carry_bind id ?_ fun collected => ?_
  · exact carriage.carry_phase _ (collecting_convert change federator) searches.entries
  refine carriage.carry_bind id ?_ fun answer => ?_
  · rw [carriage.carry_attempt, carry_searchDirectly, primarySearch_convert]
    rfl
  refine carriage.carry_bind id ?_ fun counted => ?_
  · rw [carriage.carry_phase id (counting_convert change federator query plan _),
      List.map_id]
    rfl
  · exact carriage.carry_pure id _

/-- An execution with other queries is the execution with the queries changed. -/
theorem carry_executeBy (federator : Federator) (query : ComposedQuery Q) :
    carriage.carry id (federator.executeBy first query) =
      federator.executeBy second (query.convert change) := by
  unfold Federator.executeBy
  refine carriage.carry_bind id ?_ fun plan => ?_
  · rw [carriage.carry_attempt, Federator.withDefaultCore_convert, Federator.planFor_convert]
    refine congrArg second.attempt ?_
    exact congrArg Attempt.settled (congrFun Except.map_id _)
  · rw [Federator.withDefaultCore_convert]
    by_cases alone : plan.isPassThrough = true
    · rw [if_pos alone, id_eq, if_pos alone, carriage.carry_attempt, carry_executeAlone]
    · rw [if_neg alone, id_eq, if_neg alone, carriage.carry_executeJoinBy]

end Carriage

/-! Tasks in turn -/

section InTurn

variable {prepare : α → Except RequestError (Attempt Q BackendError β)}
  {prepare' : γ → Except RequestError (Attempt R BackendError β)} {onItem : α → γ}
  (prepared : ∀ item, prepare' (onItem item) = (prepare item).map (Attempt.carry change id))

include prepared

theorem carry_startEach (items : List α) :
    (startEach prepare items).carry change id = startEach prepare' (items.map onItem) := by
  induction items with
  | nil => rfl
  | cons item rest ih =>
      refine Attempt.carry_bind_eq (Attempt.carry change id) ?_ fun task => ?_
      · rw [Attempt.carry_requested, prepared]
      refine Attempt.carry_bind_eq id ?_ fun ended => ?_
      · rw [← Attempt.carry_apart, Except.map_id]
      · exact Attempt.carry_bind_eq id ih fun others => rfl

end InTurn

def Carriage.inTurn (change : Q → R) : Carriage change Conduct.inTurn Conduct.inTurn where
  carry := Attempt.carry change
  carry_pure _ _ := rfl
  carry_bind onFirst := Attempt.carry_bind_eq onFirst
  carry_attempt _ _ := rfl
  carry_phase _ prepared items :=
    Attempt.carry_bind_eq id (carry_startEach prepared items) fun _ =>
      congrArg Attempt.settled (congrFun Except.map_id _)

theorem Federator.execute_convert (federator : Federator) (change : Q → R)
    (query : ComposedQuery Q) :
    federator.execute (query.convert change) = (federator.execute query).carry change id := by
  have carried := (Carriage.inTurn change).carry_executeBy federator query
  rw [← executeBy_inTurn, ← executeBy_inTurn, ← carried]
  change Session.carry change (Except.map id) _ = _
  rw [Except.map_id]

end FederatedSearch
