import FederatedSearch.Proofs.ChangedQueries

/-! Executions whose searches overlap, with other queries. Tasks that run at once make the same
calls in the same order, with the queries in them changed; and whatever calls tasks make with
changed queries can be made with the queries as they were. -/

namespace FederatedSearch

variable {Q R α β γ δ ε : Type} {change : Q → R} {onResult : α → β}

theorem Interleaved.map (onItem : α → β) {first second both : List α}
    (merged : Interleaved first second both) :
    Interleaved (first.map onItem) (second.map onItem) (both.map onItem) := by
  induction merged with
  | nil => exact .nil
  | left _ ih => exact .left ih
  | right _ ih => exact .right ih

theorem Interleaved.exists_of_map {onItem : α → β} {first second : List α} {both : List β}
    (merged : Interleaved (first.map onItem) (second.map onItem) both) :
    ∃ whole, Interleaved first second whole ∧ both = whole.map onItem := by
  generalize isFirst : first.map onItem = firstAfter at merged
  generalize isSecond : second.map onItem = secondAfter at merged
  induction merged generalizing first second with
  | nil =>
      obtain rfl := List.map_eq_nil_iff.mp isFirst
      obtain rfl := List.map_eq_nil_iff.mp isSecond
      exact ⟨[], .nil, rfl⟩
  | left _ ih =>
      obtain ⟨item, rest, rfl, rfl, isRest⟩ := List.map_eq_cons_iff.mp isFirst
      obtain ⟨whole, merged, rfl⟩ := ih isRest isSecond
      exact ⟨item :: whole, .left merged, rfl⟩
  | right _ ih =>
      obtain ⟨item, rest, rfl, rfl, isRest⟩ := List.map_eq_cons_iff.mp isSecond
      obtain ⟨whole, merged, rfl⟩ := ih isFirst isRest
      exact ⟨item :: whole, .right merged, rfl⟩

theorem AllInterleaved.map (onItem : α → β) {parts : List (List α)} {whole : List α}
    (merged : AllInterleaved parts whole) :
    AllInterleaved (parts.map (List.map onItem)) (whole.map onItem) := by
  induction merged with
  | nil => exact .nil
  | cons _ merged ih => exact .cons ih (merged.map onItem)

theorem AllInterleaved.exists_of_map {onItem : α → β} {parts : List (List α)} {others : List β}
    (merged : AllInterleaved (parts.map (List.map onItem)) others) :
    ∃ whole, AllInterleaved parts whole ∧ others = whole.map onItem := by
  induction parts generalizing others with
  | nil =>
      cases merged
      exact ⟨[], .nil, rfl⟩
  | cons part rest ih =>
      cases merged with
      | cons inRest merged =>
          obtain ⟨later, restMerged, rfl⟩ := ih inRest
          obtain ⟨whole, isWhole, rfl⟩ := merged.exists_of_map
          exact ⟨whole, .cons restMerged isWhole, rfl⟩

theorem Attempt.begins_carry {attempt : Attempt Q ε α} {others : List (Call R × Outcome)} :
    (attempt.carry change onResult).Begins others ↔
      ∃ calls, attempt.Begins calls ∧ others = convertCalls change calls := by
  constructor
  · rintro ⟨later, result, trace⟩
    obtain ⟨calls, value, made, split, -⟩ := trace_carry.mp trace
    obtain ⟨part, rest, rfl, rfl, rfl⟩ := List.map_eq_append_iff.mp split.symm
    exact ⟨part, ⟨rest, value, made⟩, rfl⟩
  · rintro ⟨calls, ⟨later, value, made⟩, rfl⟩
    refine ⟨convertCalls change later, value.map onResult, ?_⟩
    exact trace_carry.mpr ⟨_, value, made, (convertCalls_append change calls later).symm, rfl⟩

def Behaviour.carry (change : Q → R) (onResult : α → β) (behaviour : Behaviour Q α) :
    Behaviour R β :=
  fun others result => ∃ calls value, behaviour calls value ∧
    others = convertCalls change calls ∧ result = value.map onResult

section AtOnce

variable {prepare : α → Except RequestError (Attempt Q BackendError β)}
  {prepare' : γ → Except RequestError (Attempt R BackendError β)} {onItem : α → γ}
  (prepared : ∀ item, prepare' (onItem item) = (prepare item).map (Attempt.carry change id))
  {items : List α}

include prepared

theorem exists_prepared {item : α} {task : Attempt R BackendError β}
    (isTask : prepare' (onItem item) = .ok task) :
    ∃ before, prepare item = .ok before ∧ task = before.carry change id := by
  rw [prepared] at isTask
  obtain ⟨before, isBefore, rfl⟩ := map_ok_iff.mp isTask
  exact ⟨before, isBefore, rfl⟩

theorem prepared_ok {item : α} {task : Attempt Q BackendError β}
    (isTask : prepare item = .ok task) : prepare' (onItem item) = .ok (task.carry change id) := by
  rw [prepared, isTask]
  rfl

theorem begun_map {items : List α} {parts : List (List (Call Q × Outcome))}
    (each : List.Forall₂ (fun item part => ∃ task, prepare item = .ok task ∧
      Attempt.Begins task part) items parts) :
    List.Forall₂ (fun item part => ∃ task, prepare' item = .ok task ∧ Attempt.Begins task part)
      (items.map onItem) (parts.map (convertCalls change)) := by
  rw [List.forall₂_map_left_iff, List.forall₂_map_right_iff]
  refine each.imp fun item part ⟨task, isTask, begins⟩ => ?_
  exact ⟨_, prepared_ok prepared isTask, Attempt.begins_carry.mpr ⟨part, begins, rfl⟩⟩

theorem exists_begun {items : List α} {others : List (List (Call R × Outcome))}
    (each : List.Forall₂ (fun item part => ∃ task, prepare' item = .ok task ∧
      Attempt.Begins task part) (items.map onItem) others) :
    ∃ parts, List.Forall₂ (fun item part => ∃ task, prepare item = .ok task ∧
      Attempt.Begins task part) items parts ∧ others = parts.map (convertCalls change) := by
  rw [List.forall₂_map_left_iff] at each
  refine exists_map_of_forall₂ _ _ (each.imp fun item part ⟨task, isTask, begins⟩ => ?_)
  obtain ⟨before, isBefore, rfl⟩ := exists_prepared prepared isTask
  obtain ⟨calls, begun, rfl⟩ := Attempt.begins_carry.mp begins
  exact ⟨calls, ⟨before, isBefore, begun⟩, rfl⟩

theorem phaseRun_map {calls : List (Call Q × Outcome)} {result : Except Failure (List β)}
    (run : PhaseRun prepare items calls result) :
    PhaseRun prepare' (items.map onItem) (convertCalls change calls) result := by
  cases run with
  | @ended runs calls each atOnce =>
      have mapped : List.Forall₂ (fun item run => ∃ task, prepare' item = .ok task ∧
            Attempt.Trace task run.1 (.ok run.2)) (items.map onItem)
          (runs.map (Prod.map (convertCalls change) id)) := by
        rw [List.forall₂_map_left_iff, List.forall₂_map_right_iff]
        refine each.imp fun item run ⟨task, isTask, trace⟩ => ?_
        exact ⟨_, prepared_ok prepared isTask, Attempt.trace_carry.mpr ⟨_, _, trace, rfl, rfl⟩⟩
      have values : (runs.map (Prod.map (convertCalls change) id)).map (·.2) = runs.map (·.2) := by
        rw [List.map_map]
        rfl
      rw [← values]
      refine .ended mapped ?_
      have merged := atOnce.map fun exchange : Call Q × Outcome =>
        (exchange.1.convert change, exchange.2)
      rw [List.map_map] at merged ⊢
      exact merged
  | @failed parts _ part item task error each ofItem isTask failure atOnce =>
      have inZip : (onItem item, convertCalls change part) ∈
          (items.map onItem).zip (parts.map (convertCalls change)) := by
        rw [List.zip_map]
        exact List.mem_map_of_mem ofItem
      refine .failed (begun_map prepared each) inZip (prepared_ok prepared isTask) ?_ (atOnce.map _)
      exact Attempt.trace_carry.mpr ⟨_, _, failure, rfl, rfl⟩
  | @refused before after item parts _ error split each unprepared atOnce =>
      have isSplit : items.map onItem =
          before.map onItem ++ onItem item :: after.map onItem := by
        rw [split, List.map_append, List.map_cons]
      refine .refused isSplit (begun_map prepared each) ?_ (atOnce.map _)
      rw [prepared, unprepared]
      rfl

/-- Tasks that end with changed queries end alike with the queries as they were. -/
theorem exists_ended {runs : List (List (Call R × Outcome) × β)}
    (each : List.Forall₂ (fun item run => ∃ task, prepare' item = .ok task ∧
      Attempt.Trace task run.1 (.ok run.2)) (items.map onItem) runs) :
    ∃ before, List.Forall₂ (fun item run => ∃ task, prepare item = .ok task ∧
        Attempt.Trace task run.1 (.ok run.2)) items before ∧
      runs = before.map (Prod.map (convertCalls change) id) := by
  rw [List.forall₂_map_left_iff] at each
  refine exists_map_of_forall₂ _ _ (each.imp fun item run ⟨task, isTask, trace⟩ => ?_)
  obtain ⟨made, isMade, rfl⟩ := exists_prepared prepared isTask
  obtain ⟨calls, value, trace, isCalls, isValue⟩ := Attempt.trace_carry.mp trace
  rw [Except.map_id] at isValue
  exact ⟨(calls, run.2), ⟨made, isMade, isValue ▸ trace⟩, Prod.ext isCalls rfl⟩

theorem prepare_error {item : α} {error : RequestError}
    (isError : prepare' (onItem item) = .error error) : prepare item = .error error := by
  rw [prepared] at isError
  exact map_error_iff.mp isError

theorem exists_phaseRun {others : List (Call R × Outcome)} {result : Except Failure (List β)}
    (run : PhaseRun prepare' (items.map onItem) others result) :
    ∃ calls, PhaseRun prepare items calls result ∧ others = convertCalls change calls := by
  cases run with
  | @ended runs others each atOnce =>
      obtain ⟨before, isBefore, rfl⟩ := exists_ended prepared each
      have parts : (before.map (Prod.map (convertCalls change) id)).map (·.1) =
          (before.map (·.1)).map (convertCalls change) := by
        rw [List.map_map, List.map_map]
        rfl
      rw [parts] at atOnce
      obtain ⟨calls, merged, rfl⟩ := AllInterleaved.exists_of_map atOnce
      have values : (before.map (Prod.map (convertCalls change) id)).map (·.2) =
          before.map (·.2) := by
        rw [List.map_map]
        rfl
      rw [values]
      exact ⟨calls, .ended isBefore merged, rfl⟩
  | @failed others _ part item task error each ofItem isTask failure atOnce =>
      obtain ⟨parts, begun, rfl⟩ := exists_begun prepared each
      obtain ⟨calls, merged, rfl⟩ := AllInterleaved.exists_of_map atOnce
      rw [List.zip_map] at ofItem
      obtain ⟨⟨item, part⟩, inZip, same⟩ := List.mem_map.mp ofItem
      obtain ⟨rfl, rfl⟩ := Prod.mk.inj same
      obtain ⟨before, isBefore, rfl⟩ := exists_prepared prepared isTask
      obtain ⟨made, value, trace, samePart, isError⟩ := Attempt.trace_carry.mp failure
      obtain ⟨other, isOther, later, ended, begins⟩ := List.forall₂_zip begun inZip
      obtain rfl := Except.ok.inj (isBefore.symm.trans isOther)
      have outcomes : made.map (·.2) = part.map (·.2) := by
        rw [← outcomes_convertCalls change made, ← samePart, outcomes_convertCalls]
      obtain rfl := Session.Trace.eq_of_outcomes trace begins outcomes
      rw [Except.map_id] at isError
      exact ⟨calls, .failed begun inZip isBefore (isError ▸ trace) merged, rfl⟩
  | @refused before after item others calls error split each isError atOnce =>
      obtain ⟨first, rest, rfl, rfl, isRest⟩ := List.map_eq_append_iff.mp split
      obtain ⟨item, last, rfl, rfl, rfl⟩ := List.map_eq_cons_iff.mp isRest
      obtain ⟨parts, begun, rfl⟩ := exists_begun prepared each
      obtain ⟨calls, merged, rfl⟩ := AllInterleaved.exists_of_map atOnce
      exact ⟨calls, .refused rfl begun (prepare_error prepared isError) merged, rfl⟩

end AtOnce

def Carriage.atOnce (change : Q → R) : Carriage change Conduct.atOnce Conduct.atOnce where
  carry := Behaviour.carry change
  carry_pure onResult value := by
    funext others result
    refine propext ⟨?_, ?_⟩
    · rintro ⟨_, _, ⟨rfl, rfl⟩, rfl, rfl⟩
      exact ⟨rfl, rfl⟩
    · rintro ⟨rfl, rfl⟩
      exact ⟨[], .ok value, ⟨rfl, rfl⟩, rfl, rfl⟩
  carry_bind onFirst onLast part part' next next' begins goesOn := by
    obtain rfl := begins
    funext others result
    refine propext ⟨?_, ?_⟩
    · rintro ⟨calls, value, ⟨failure, first, rfl⟩ | ⟨before, middle, after, rfl, first, rest⟩, rfl,
        rfl⟩
      · exact Or.inl ⟨failure, ⟨calls, _, first, rfl, rfl⟩, rfl⟩
      · refine Or.inr ⟨_, onFirst middle, _, convertCalls_append change before after,
          ⟨before, _, first, rfl, rfl⟩, ?_⟩
        rw [← goesOn]
        exact ⟨after, value, rest, rfl, rfl⟩
    · rintro (⟨failure, ⟨calls, value, first, rfl, isError⟩, rfl⟩ |
        ⟨_, _, _, rfl, ⟨before, value, first, rfl, isOk⟩, second⟩)
      · cases value with
        | ok _ => cases isError
        | error _ =>
            obtain rfl := Except.error.inj isError
            exact ⟨calls, _, Or.inl ⟨failure, first, rfl⟩, rfl, rfl⟩
      · cases value with
        | error _ => cases isOk
        | ok middle =>
            obtain rfl := Except.ok.inj isOk
            rw [← goesOn] at second
            obtain ⟨after, last, rest, rfl, rfl⟩ := second
            exact ⟨before ++ after, last, Or.inr ⟨before, middle, after, rfl, first, rest⟩,
              (convertCalls_append change before after).symm, rfl⟩
  carry_attempt onResult attempt := by
    funext others result
    exact propext Attempt.trace_carry.symm
  carry_phase _ prepared items := by
    funext others result
    refine propext ⟨?_, fun run => ?_⟩
    · rintro ⟨calls, value, run, rfl, rfl⟩
      rw [Except.map_id]
      exact phaseRun_map prepared run
    · obtain ⟨calls, before, rfl⟩ := exists_phaseRun prepared run
      exact ⟨calls, result, before, rfl, (congrFun Except.map_id result).symm⟩

end FederatedSearch
