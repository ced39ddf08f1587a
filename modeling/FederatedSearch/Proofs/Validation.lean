import FederatedSearch.Codec.Composed
import FederatedSearch.Codec.Expression
import FederatedSearch.Proofs.FailedSearches

/-! Which requests can be validated at all. Validation looks up a second core when there are two
bundles, and it breaks off where both of them are for the results core. Operations register a core
once, so that such a pair of bundles is there from the start or never. -/

namespace FederatedSearch

/-! What operations do to the registered cores. -/

namespace Outline

def Extends (outline changed : Outline) : Prop :=
  ∃ added : List String, changed.registered = outline.registered ++ added ∧ added.Nodup ∧
    ∀ core ∈ added, core ∉ outline.registered

namespace Extends

variable {first second third : Outline}

theorem of_eq (same : second.registered = first.registered) : first.Extends second :=
  ⟨[], by simp [same], List.nodup_nil, by simp⟩

theorem trans (one : first.Extends second) (other : second.Extends third) :
    first.Extends third := by
  obtain ⟨added, isSecond, distinct, new⟩ := one
  obtain ⟨later, isThird, laterDistinct, laterNew⟩ := other
  refine ⟨added ++ later, by rw [isThird, isSecond, List.append_assoc], ?_, ?_⟩
  · rw [List.nodup_append]
    refine ⟨distinct, laterDistinct, ?_⟩
    rintro core inAdded _ inLater rfl
    refine laterNew core inLater ?_
    rw [isSecond]
    exact List.mem_append_right _ inAdded
  · intro core member
    rcases List.mem_append.mp member with inAdded | inLater
    · exact new core inAdded
    · intro wasThere
      refine laterNew core inLater ?_
      rw [isSecond]
      exact List.mem_append_left _ wasThere

theorem register (outline : Outline) (core : String) :
    outline.Extends (outline.register core) := by
  by_cases present : core ∈ outline.registered
  · exact of_eq (by simp [Outline.register, JoinPlan.addCore, present])
  · exact ⟨[core], by simp [Outline.register, JoinPlan.addCore, present], by simp,
      by simpa using present⟩

theorem of_step (step : Step first second) : first.Extends second := by
  cases step with
  | keep => exact of_eq rfl
  | register core => exact register first core
  | setResultsCore core => exact register first core
  | declare => exact of_eq rfl
  | unite => exact (register first _).trans (register _ _)

/-- A core that is registered twice was so from the start. -/
theorem of_twice (extends' : first.Extends second) {core : String}
    (twice : second.registered = [core, core]) : first.registered = [core, core] := by
  obtain ⟨added, isSecond, distinct, new⟩ := extends'
  rw [twice] at isSecond
  match listed : first.registered with
  | [] =>
      rw [listed, List.nil_append] at isSecond
      simp [← isSecond] at distinct
  | [only] =>
      rw [listed] at isSecond new
      obtain ⟨rfl, rfl⟩ : core = only ∧ [core] = added := by simpa using isSecond
      simp at new
  | one :: other :: rest =>
      rw [listed] at isSecond
      obtain ⟨rfl, rfl, rfl, -⟩ : core = one ∧ core = other ∧ rest = [] ∧ added = [] := by
        simpa using isSecond
      rfl

end Extends

end Outline

namespace ComposedQuery

variable {P Q R : Type}

inductive Reached (start : ComposedQuery P) : {Q : Type} → ComposedQuery Q → Prop
  | start : Reached start start
  | edit {Q : Type} {query : ComposedQuery Q} (before : Reached start query) (edit : Edit Q) :
      Reached start (edit.applyOrKeep query)
  | convert {Q R : Type} {query : ComposedQuery Q} (before : Reached start query)
      (convert : Q → R) : Reached start (query.convert convert)
  | tryConvert {Q R ε : Type} {query : ComposedQuery Q} {converted : ComposedQuery R}
      (before : Reached start query) (convert : Q → Except ε R)
      (done : query.tryConvert convert = .ok converted) : Reached start converted

theorem Reached.edited {start : ComposedQuery P} {query : ComposedQuery Q}
    (reached : start.Reached query) (edits : List (Edit Q)) :
    start.Reached (query.edited edits) := by
  unfold ComposedQuery.edited
  induction edits generalizing query with
  | nil => exact reached
  | cons edit rest ih => exact ih (reached.edit edit)

theorem Reached.extends {start : ComposedQuery P} {query : ComposedQuery Q}
    (reached : start.Reached query) : start.outline.Extends query.outline := by
  induction reached with
  | start => exact .of_eq rfl
  | edit before edit ih => exact ih.trans (.of_step (step_applyOrKeep _ edit))
  | convert before convert ih =>
      rw [outline_convert]
      exact ih
  | tryConvert before convert done ih =>
      rw [outline_tryConvert done]
      exact ih

/-! Where validation breaks off. -/

theorem cores_of_twice {query : ComposedQuery Q} {core : String}
    (isSet : query.resultsCore = some core) (twice : query.outline.registered = [core, core]) :
    query.cores = [core] := by
  rw [cores_of_resultsCore isSet, twice]
  simp

theorem twice_of_no_second {query : ComposedQuery Q} {core : String}
    (isSet : query.resultsCore = some core) (two : query.outline.registered.length = 2)
    (noSecond : ∀ first second rest, query.cores = first :: second :: rest → False) :
    query.outline.registered = [core, core] := by
  rw [cores_of_resultsCore isSet] at noSecond
  have others : query.outline.registered.filter (· ≠ core) = [] := by
    cases found : query.outline.registered.filter (· ≠ core) with
    | nil => rfl
    | cons other rest => exact absurd (found ▸ rfl) (noSecond core other rest)
  have allSame : ∀ other ∈ query.outline.registered, other = core := by
    simpa using List.filter_eq_nil_iff.mp others
  have twice := List.eq_replicate_of_mem allSame
  rwa [two] at twice

theorem validate_eq_crash_iff {query : ComposedQuery Q} :
    query.validate = .error .crash ↔ ∃ core, query.outline.registered = [core, core] ∧
      query.resultsCore = some core ∧ query.matchings.isEmpty = false := by
  have counted : query.numberOfCores = query.outline.registered.length := by
    simp [numberOfCores, outline]
  constructor
  · intro crashed
    unfold validate at crashed
    rw [counted] at crashed
    dsimp only at crashed
    split at crashed
    · cases crashed
    next inRange =>
      split at crashed
      · cases crashed
      next isSome =>
        split at crashed
        · cases crashed
        next several =>
          split at crashed
          · cases crashed
          next hasMatch =>
            have two : query.outline.registered.length = 2 := by
              rw [Bool.or_eq_true, decide_eq_true_iff, decide_eq_true_iff] at inRange
              unfold maxCores at inRange
              omega
            obtain ⟨core, isSet⟩ : ∃ core, query.resultsCore = some core := by
              simpa [Option.isNone_iff_eq_none, Option.ne_none_iff_exists'] using isSome
            split at crashed
            · split at crashed <;> cases crashed
            next noSecond =>
              exact ⟨core, twice_of_no_second isSet two noSecond, isSet, by simpa using hasMatch⟩
  · rintro ⟨core, twice, isSet, hasMatch⟩
    unfold validate
    rw [counted, twice, cores_of_twice isSet twice]
    simp [isSet, hasMatch, maxCores]

/-- Validation ends, and what it finds wrong is an error of the request. -/
def HasVerdict (query : ComposedQuery Q) : Prop :=
  query.validate = .ok () ∨ ∃ error, query.validate = .error (.request error)

theorem hasVerdict_iff {query : ComposedQuery Q} :
    query.HasVerdict ↔ query.validate ≠ .error .crash := by
  unfold HasVerdict
  cases validated : query.validate with
  | ok _ => simp
  | error failure =>
      cases failure with
      | request error => simp
      | backend error => exact absurd rfl (Federator.ne_backend_of_validate validated error)
      | crash => simp

theorem isEmpty_declare (matchings : Matchings) (first second : String × String) :
    SortedMap.isEmpty (matchings.declare first second) = false := by
  obtain ⟨entries, _⟩ := matchings
  have notNil : putEntry (⟨first.1, second.1⟩ : CorePair) (first.2, second.2) entries ≠ [] := by
    cases entries with
    | nil => simp [putEntry]
    | cons head rest =>
        simp only [putEntry]
        split <;> simp
  simpa [Matchings.declare, SortedMap.insert, SortedMap.isEmpty] using notNil

theorem addMatch_of_ne (query : ComposedQuery Q) {first second : String × String}
    (different : first.1 ≠ second.1) : ∃ one other, query.addMatch [first, second] =
      .ok { query with matchings := query.matchings.declare one other } := by
  unfold addMatch orderedPair
  cases order : compare first.1 second.1 with
  | lt => exact ⟨first, second, by simp only [order]; rfl⟩
  | gt => exact ⟨second, first, by simp only [order]; rfl⟩
  | eq => exact absurd (Std.LawfulEqCmp.eq_of_compare order) different

theorem exists_crash_of_twice {start : ComposedQuery P} {core : String}
    (twice : start.outline.registered = [core, core]) :
    ∃ query : ComposedQuery P, start.Reached query ∧ query.validate = .error .crash := by
  have different : core ≠ core ++ "'" := by
    intro same
    have length := congrArg String.length same
    simp at length
  have distinct : (core, "k").1 ≠ (core ++ "'", "k").1 := different
  obtain ⟨one, other, matched⟩ := (start.setResultsCore core).addMatch_of_ne distinct
  refine ⟨start.edited [.setResultsCore core, .addMatch [(core, "k"), (core ++ "'", "k")]],
    Reached.start.edited _, validate_eq_crash_iff.mpr ⟨core, ?_⟩⟩
  have edited : start.edited [.setResultsCore core, .addMatch [(core, "k"), (core ++ "'", "k")]] =
      { start.setResultsCore core with
        matchings := (start.setResultsCore core).matchings.declare one other } := by
    simp [ComposedQuery.edited, Edit.applyOrKeep, Edit.apply, matched]
  have registered : (start.setResultsCore core).outline.registered = [core, core] := by
    change ((start.register core).outline).registered = _
    rw [outline_register]
    simp [Outline.register, JoinPlan.addCore, twice]
  rw [edited]
  exact ⟨registered, rfl, isEmpty_declare _ one other⟩

/-- Validation breaks off for a query with a match and two bundles, both for its results core, and
for no other. Operations lead from a query, such as a decoded one, to one of these just if it has
two bundles for one core to begin with. -/
theorem hasVerdict_unless_repeated {P : Type} (start : ComposedQuery P) :
    (start.HasVerdict ↔ ¬∃ core, start.bundles.map (·.core) = [core, core] ∧
      start.resultsCore = some core ∧ start.matchings.isEmpty = false) ∧
    ((∀ {Q : Type} (query : ComposedQuery Q), start.Reached query → query.HasVerdict) ↔
      ∀ core, start.bundles.map (·.core) ≠ [core, core]) := by
  refine ⟨?itself, ?always, ?never⟩
  case itself => rw [hasVerdict_iff, ne_eq, validate_eq_crash_iff]; rfl
  case always =>
    intro verdicts core twice
    obtain ⟨query, reached, crashed⟩ := exists_crash_of_twice twice
    exact hasVerdict_iff.mp (verdicts query reached) crashed
  case never =>
    intro once Q query reached
    rw [hasVerdict_iff]
    intro crashed
    obtain ⟨core, twice, -, -⟩ := validate_eq_crash_iff.mp crashed
    exact once core (reached.extends.of_twice twice)

def repeatedBundle : Value :=
  .object [("coreQueries", .list [.object [("core", .text "A")], .object [("core", .text "A")]]),
    ("matches", .object [("A->B", .list [.text "k", .text "j"])]), ("resultsFrom", .text "A"),
    ("unites", .list [])]

theorem repeatedBundle_crashes : ∃ query : ComposedQuery Expression,
    ComposedQuery.decode Expression.decode repeatedBundle = .ok query ∧
      query.validate = .error .crash :=
  ⟨_, rfl, rfl⟩

end ComposedQuery

end FederatedSearch
