import FederatedSearch.Proofs.ChangedPhases

/-! Executions of requests whose queries are converted. A request and what it is converted to become
the same request when the one is changed by the conversion, which may fail, and the other by
`Except.ok`. So their executions are the same but for the queries in the calls. -/

namespace FederatedSearch

variable {Q R β ε : Type}

def ConvertsTo (convert : Q → Except ε R) (exchange : Call Q × Outcome)
    (converted : Call R × Outcome) : Prop :=
  exchange.1.core = converted.1.core ∧
    exchange.1.search.tryConvert convert = .ok converted.1.search ∧ exchange.2 = converted.2

def SameRuns (convert : Q → Except ε R) (runs : List (Call Q × Outcome) → β → Prop)
    (convertedRuns : List (Call R × Outcome) → β → Prop) : Prop :=
  (∀ calls result, runs calls result → ∃ converted,
    List.Forall₂ (ConvertsTo convert) calls converted ∧ convertedRuns converted result) ∧
  ∀ converted result, convertedRuns converted result → ∃ calls,
    List.Forall₂ (ConvertsTo convert) calls converted ∧ runs calls result

section Converted

variable {convert : Q → Except ε R} {calls : List (Call Q × Outcome)}
  {converted : List (Call R × Outcome)}

theorem forall₂_convertsTo_iff : List.Forall₂ (ConvertsTo convert) calls converted ↔
    convertCalls convert calls = convertCalls .ok converted := by
  rw [convertCalls, convertCalls, ← List.forall₂_eq_eq_eq, List.forall₂_map_left_iff,
    List.forall₂_map_right_iff]
  refine iff_of_eq (congrArg (fun relates => List.Forall₂ relates calls converted) ?_)
  funext exchange other
  obtain ⟨⟨core, search⟩, outcome⟩ := exchange
  obtain ⟨⟨otherCore, otherSearch⟩, otherOutcome⟩ := other
  rw [ConvertsTo, CoreSearch.tryConvert_ok_iff]
  simp [Call.convert, and_assoc]

theorem SameRuns.of_carried {runs : List (Call Q × Outcome) → β → Prop}
    {convertedRuns : List (Call R × Outcome) → β → Prop}
    (carried : ∀ whole result,
      (∃ calls value, runs calls value ∧ whole = convertCalls convert calls ∧ result = value) ↔
        ∃ converted value, convertedRuns converted value ∧ whole = convertCalls .ok converted ∧
          result = value) :
    SameRuns convert runs convertedRuns := by
  refine ⟨fun calls result run => ?_, fun converted result run => ?_⟩
  · obtain ⟨converted, _, convertedRun, same, rfl⟩ :=
      (carried _ result).mp ⟨calls, result, run, rfl, rfl⟩
    exact ⟨converted, forall₂_convertsTo_iff.mpr same, convertedRun⟩
  · obtain ⟨calls, _, run, same, rfl⟩ :=
      (carried _ result).mpr ⟨converted, result, run, rfl, rfl⟩
    exact ⟨calls, forall₂_convertsTo_iff.mpr same.symm, run⟩

theorem received_forall₂ (same : List.Forall₂ (ConvertsTo convert) calls converted)
    (core : String) :
    List.Forall₂ (fun exchange other => exchange.1.tryConvert convert = .ok other.1 ∧
      exchange.2 = other.2) (received core calls) (received core converted) := by
  induction same with
  | nil => exact .nil
  | @cons exchange other calls converted related _ ih =>
      obtain ⟨sameCore, isConverted, sameOutcome⟩ := related
      rw [received_cons, received_cons, sameCore]
      split
      · exact .cons ⟨isConverted, sameOutcome⟩ ih
      · exact ih

def Servers.converting (convert : Q → Except ε R) (refuse : ε → Outcome) (servers : Servers R) :
    Servers Q :=
  fun core before search =>
    match search.tryConvert convert with
    | .error error => refuse error
    | .ok converted =>
      servers core (before.filterMap fun earlier => (earlier.tryConvert convert).toOption) converted

theorem Servers.serve_converting_iff {servers : Servers R} {refuse : ε → Outcome}
    (same : List.Forall₂ (ConvertsTo convert) calls converted) :
    (servers.converting convert refuse).Serve calls ↔ servers.Serve converted := by
  have answer {core : String} {before : List (CoreSearch Q × Outcome)}
      {otherBefore : List (CoreSearch R × Outcome)} {search : CoreSearch Q}
      {other : CoreSearch R}
      (ofBefore : List.Forall₂ (fun exchange other => exchange.1.tryConvert convert = .ok other.1 ∧
        exchange.2 = other.2) before otherBefore)
      (isConverted : search.tryConvert convert = .ok other) :
      servers.converting convert refuse core (before.map (·.1)) search =
        servers core (otherBefore.map (·.1)) other := by
    have earlier : (before.map (·.1)).filterMap (fun search =>
        (search.tryConvert convert).toOption) = otherBefore.map (·.1) := by
      clear isConverted
      induction ofBefore with
      | nil => rfl
      | @cons exchange other _ _ related _ ih =>
          rw [List.map_cons, List.filterMap_cons, related.1, ih]
          rfl
    unfold converting
    rw [isConverted, earlier]
  have each (core : String) := received_forall₂ same core
  constructor
  · intro served core otherBefore other otherAfter split
    obtain ⟨before, exchange, after, splitBefore, ofBefore, isConverted, sameOutcome⟩ :=
      exists_split_of_forall₂ (split ▸ each core)
    rw [← sameOutcome, served core before exchange after splitBefore, answer ofBefore isConverted]
  · intro served core before exchange after split
    obtain ⟨otherBefore, other, otherAfter, splitOther, ofBefore, isConverted, sameOutcome⟩ :=
      exists_split_of_forall₂ (split ▸ (each core).flip)
    rw [answer ofBefore.flip isConverted, sameOutcome]
    exact served core otherBefore other otherAfter splitOther

theorem SameRuns.served {runs : List (Call Q × Outcome) → β → Prop}
    {convertedRuns : List (Call R × Outcome) → β → Prop}
    (same : SameRuns convert runs convertedRuns) (servers : Servers R) (refuse : ε → Outcome) :
    SameRuns convert
      (fun calls result => runs calls result ∧ (servers.converting convert refuse).Serve calls)
      (fun converted result => convertedRuns converted result ∧ servers.Serve converted) := by
  refine ⟨fun calls result ⟨run, served⟩ => ?_, fun converted result ⟨run, served⟩ => ?_⟩
  · obtain ⟨converted, related, convertedRun⟩ := same.1 calls result run
    exact ⟨converted, related, convertedRun, (Servers.serve_converting_iff related).mp served⟩
  · obtain ⟨calls, related, before⟩ := same.2 converted result run
    exact ⟨calls, related, before, (Servers.serve_converting_iff related).mpr served⟩

end Converted

namespace Federator

variable (federator : Federator) {convert : Q → Except RequestError R} {query : ComposedQuery Q}
  {converted : ComposedQuery R}

theorem sameRuns_execute (done : query.tryConvert convert = .ok converted) :
    SameRuns convert (Session.Trace (federator.execute query))
      (Session.Trace (federator.execute converted)) := by
  have both : (federator.execute query).carry convert id =
      (federator.execute converted).carry .ok id := by
    rw [← execute_convert, ← execute_convert, ComposedQuery.convert_of_tryConvert done]
  refine .of_carried fun whole result => ?_
  have same := iff_of_eq (congrArg (fun session => session.Trace whole result) both)
  rwa [Session.trace_carry, Session.trace_carry] at same

theorem sameRuns_atOnce (done : query.tryConvert convert = .ok converted) :
    SameRuns convert (federator.executeBy .atOnce query)
      (federator.executeBy .atOnce converted) := by
  have both : Behaviour.carry convert id (federator.executeBy .atOnce query) =
      Behaviour.carry .ok id (federator.executeBy .atOnce converted) := by
    have ofQuery := (Carriage.atOnce convert).carry_executeBy federator query
    have ofConverted := (Carriage.atOnce (.ok : R → Except RequestError R)).carry_executeBy
      federator converted
    rw [← ComposedQuery.convert_of_tryConvert done] at ofConverted
    exact ofQuery.trans ofConverted.symm
  refine .of_carried fun whole result => ?_
  have same := iff_of_eq (congrFun (congrFun both whole) result)
  simpa only [Behaviour.carry, Except.map_id, id_eq] using same

/-- The conversion of queries cannot be told by the results. If all queries of a request can be
converted, the converted request is valid alike and has the same plan, and however its execution
goes, the request as it was can be executed likewise on cores that convert the queries themselves,
and the other way round: with the same result and the same calls in the same order, each converted.
Otherwise the first query that cannot be converted is reported, and no core is asked. -/
theorem executeConverted_sameRuns (convert : Q → Except RequestError R) (query : ComposedQuery Q)
    (servers : Servers R) (refuse : RequestError → Outcome) :
    ((∀ part ∈ query.everyQuery, ∃ result, convert part = .ok result) →
      ∃ converted, query.tryConvert convert = .ok converted ∧
        converted.validate = query.validate ∧
        JoinPlan.ofQuery converted = JoinPlan.ofQuery query ∧
        SameRuns convert
          (fun calls result => Session.Trace (federator.execute query) calls result ∧
            (servers.converting convert refuse).Serve calls)
          (fun calls result => Session.Trace (federator.executeConverted convert query) calls
            result ∧ servers.Serve calls) ∧
        SameRuns convert
          (fun calls result => federator.executeBy .atOnce query calls result ∧
            (servers.converting convert refuse).Serve calls)
          (fun calls result => federator.executeBy .atOnce converted calls result ∧
            servers.Serve calls)) ∧
    ∀ before part after error, query.everyQuery = before ++ part :: after →
      (∀ earlier ∈ before, ∃ result, convert earlier = .ok result) →
      convert part = .error error →
      federator.executeConverted convert query = .done (.error (.request error)) := by
  refine ⟨fun each => ?_, fun before part after error split each isError => ?_⟩
  · obtain ⟨converted, done⟩ := ComposedQuery.exists_tryConvert_iff.mpr each
    have executes : federator.executeConverted convert query = federator.execute converted := by
      unfold executeConverted
      rw [done]
    have changed := ComposedQuery.convert_of_tryConvert done
    have valid : converted.validate = query.validate := by
      rw [← (converted.sameCores_convert (.ok : R → Except RequestError R)).validate, ← changed,
        (query.sameCores_convert convert).validate]
    have planned : JoinPlan.ofQuery converted = JoinPlan.ofQuery query := by
      rw [← converted.ofQuery_convert (.ok : R → Except RequestError R), ← changed,
        query.ofQuery_convert]
    refine ⟨converted, done, valid, planned, ?_, ?_⟩
    · rw [executes]
      exact (federator.sameRuns_execute done).served servers refuse
    · exact (federator.sameRuns_atOnce done).served servers refuse
  · have refused :=
      ComposedQuery.tryConvert_error_iff.mpr ⟨before, part, after, split, each, isError⟩
    unfold executeConverted
    rw [refused]
    rfl

def dutchWords : ComposedQuery String :=
  ({} : ComposedQuery String).edited
    [.setResultsCore "A", .addMatch [("A", "author"), ("B", "name")], .setCoreQuery "A" "*",
      .addFilter "B" "from=NL"]

def brokenWords : ComposedQuery String :=
  dutchWords.addFilter "A" "author="

theorem dutchWords_sameRuns :
    (∀ part ∈ dutchWords.everyQuery, ∃ result, parseQuery part = .ok result) ∧
    (∃ calls result,
      Session.Trace ((libraryBackends.federator {}).execute dutchWords) calls result ∧
      ((Servers.ofAnswer libraryBackends.answer).converting parseQuery fun _ => .panicked).Serve
        calls ∧ result.toOption.map (·.total) = some 1) ∧
    brokenWords.everyQuery = ["*"] ++ "author=" :: ["from=NL"] ∧
    (∀ earlier ∈ ["*"], ∃ result, parseQuery earlier = .ok result) ∧
    ∃ error, parseQuery "author=" = .error error ∧
      (libraryBackends.federator {}).executeConverted parseQuery brokenWords =
        .done (.error (.request error)) := by
  have isRead : ∀ part ∈ dutchWords.everyQuery, ∃ result, parseQuery part = .ok result := by
    have parts : dutchWords.everyQuery = ["*", "from=NL"] := by decide +kernel
    rw [parts]
    simp only [List.forall_mem_cons, List.not_mem_nil, false_imp_iff, implies_true, and_true]
    exact ⟨⟨_, rfl⟩, ⟨_, rfl⟩⟩
  have earlier : ∀ earlier ∈ ["*"], ∃ result, parseQuery earlier = .ok result := by
    rw [List.forall_mem_singleton]
    exact ⟨_, rfl⟩
  have parts : brokenWords.everyQuery = ["*"] ++ "author=" :: ["from=NL"] := by decide +kernel
  obtain ⟨sameRuns, -⟩ := (libraryBackends.federator {}).executeConverted_sameRuns parseQuery
    dutchWords (.ofAnswer libraryBackends.answer) fun _ => .panicked
  obtain ⟨-, refused⟩ := (libraryBackends.federator {}).executeConverted_sameRuns parseQuery
    brokenWords (.ofAnswer libraryBackends.answer) fun _ => .panicked
  refine ⟨isRead, ?_, parts, earlier, _, rfl, refused _ _ _ _ parts earlier rfl⟩
  obtain ⟨converted, done, -, -, same, -⟩ := sameRuns isRead
  have trace := Session.trace_run libraryBackends.answer
    ((libraryBackends.federator {}).executeConverted parseQuery dutchWords)
  obtain ⟨calls, -, before, served⟩ := same.2 _ _
    ⟨trace, Servers.serve_ofAnswer libraryBackends.answer _⟩
  exact ⟨calls, _, before, served, by decide +kernel⟩

end Federator

end FederatedSearch
