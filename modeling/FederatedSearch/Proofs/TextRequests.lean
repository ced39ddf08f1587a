import FederatedSearch.Proofs.SupportedRequests

/-! What comes of a request to stores whose query is a text: a response, an error of the request, or
nothing if the joined documents cannot be put in order. No store ever fails. -/

namespace FederatedSearch

variable {Q : Type}

def Backends.AreStores (backends : Backends Expression) (stores : String → Store) : Prop :=
  ∀ core backend, backends.get? core = some backend → backend = (stores core).backend

namespace Federator

variable {federator : Federator} {query : ComposedQuery Q} {results : String} {failure : Failure}

theorem run_execute_of_refused {answer : Call Q → Outcome}
    (isSet : query.resultsCore = some results)
    (refused : federator.planFor query = .error failure) :
    ((federator.execute query).run answer).2 = .error failure := by
  have unchanged : federator.withDefaultCore query = query := by
    unfold withDefaultCore
    rw [isSet]
  unfold execute
  rw [unchanged]
  change Attempt.result answer (Attempt.settled (federator.planFor query) >>= _) = _
  rw [Attempt.result_bind, Attempt.result_settled, refused]
  rfl

theorem exists_request_of_refused (valid : query.validate = .ok ())
    (refused : federator.planFor query = .error failure) : ∃ error, failure = .request error := by
  unfold planFor at refused
  rw [valid] at refused
  cases planned : JoinPlan.ofQuery query with
  | error error =>
      rw [planned] at refused
      exact ⟨error, (Except.error.inj refused).symm⟩
  | ok plan =>
      cases known : plan.cores.forM federator.requireCore with
      | error error =>
          simp only [planned, Except.mapError, bind, Except.bind, known] at refused
          exact ⟨error, (Except.error.inj refused).symm⟩
      | ok _ =>
          simp only [planned, Except.mapError, bind, Except.bind, known] at refused
          cases refused

end Federator

section Stores

variable {backends : Backends Expression} {stores : String → Store} {config : FederatorConfig}
  {query : ComposedQuery Expression} {plan : JoinPlan} {results : String}

theorem Backends.AreStores.serve (areStores : backends.AreStores stores)
    (planned : (backends.federator config).planFor query = .ok plan) :
    backends.Serve stores query := by
  obtain ⟨-, isPlan, known⟩ := Federator.planFor_ok planned
  intro other isOther core member
  obtain rfl := Except.ok.inj (isPlan.symm.trans isOther)
  have inBackends : (SortedSet.ofList backends.keys).contains core = true := by
    have found := known core member
    unfold Federator.requireCore Backends.federator at found
    split at found
    next present => exact present
    next => cases found
  obtain ⟨backend, found⟩ := SortedMap.mem_keys_iff.mp
    ((SortedSet.contains_ofList _ core).mp inBackends)
  rw [found, areStores core backend found]

/-- A request to stores that can be executed comes to the joined documents. -/
theorem run_execute_stores (areStores : backends.AreStores stores) (built : query.Built)
    (isSet : query.resultsCore = some results) (supported : query.Supported) :
    (((backends.federator config).execute query).run backends.answer).2 =
      match (backends.federator config).planFor query with
      | .error failure => .error failure
      | .ok _ => joinedOutcome query stores results := by
  cases planned : (backends.federator config).planFor query with
  | ok plan =>
      have valid := (Federator.planFor_ok planned).1
      exact execute_stores built valid isSet supported (areStores.serve planned)
  | error failure => exact Federator.run_execute_of_refused isSet planned

end Stores

namespace Translator

variable {translator : Translator} {request : SearchRequest} {translated : TranslatedRequest}

theorem run_execute {federator : Federator} {answer : Call Expression → Outcome} :
    ((translator.execute federator request).run answer).2 =
      match translator.compose request with
      | .error failure => .error failure
      | .ok translated =>
          ((federator.execute translated.query).run answer).2.map translated.restore := by
  unfold execute
  cases translator.compose request with
  | error failure => rfl
  | ok translated =>
      change (((federator.execute translated.query).bind fun response =>
        Session.done (response.map translated.restore)).run answer).2 = _
      rw [Session.run_bind]
      rfl

theorem exists_request_of_uncomposed {failure : Failure}
    (refused : translator.compose request = .error failure) :
    ∃ error, failure = .request error := by
  unfold compose at refused
  cases built : translator.build request with
  | error error =>
      rw [built] at refused
      exact ⟨error, (Except.error.inj refused).symm⟩
  | ok translated =>
      obtain ⟨_, _, _, _, _, _, composes⟩ := build_ok built
      have hasVerdict : translated.query.HasVerdict := by
        rw [ComposedQuery.hasVerdict_iff]
        intro crashed
        obtain ⟨core, twice, -, -⟩ := ComposedQuery.validate_eq_crash_iff.mp crashed
        have distinct := composes.built.wellFormed.distinct
        simp [twice] at distinct
      rcases hasVerdict with valid | ⟨error, invalid⟩
      · simp [built, valid, bind, Except.bind, pure, Except.pure] at refused
      · simp only [built, invalid, bind, Except.bind] at refused
        exact ⟨error, (Except.error.inj refused).symm⟩

/-- A request with a text comes to the joined documents once it is composed and planned. -/
theorem run_execute_text {backends : Backends Expression} {stores : String → Store} {text : String}
    (sound : translator.parser.IsSound) (isText : request.query = .text text)
    (areStores : backends.AreStores stores) (config : FederatorConfig)
    (composed : translator.compose request = .ok translated) :
    ((translator.execute (backends.federator config) request).run backends.answer).2 =
      match (backends.federator config).planFor translated.query with
      | .error failure => .error failure
      | .ok _ => (joinedOutcome translated.query stores translator.config.resultsCore).map
          translated.restore := by
  obtain ⟨query, read, composes⟩ := exists_composes composed
  rw [run_execute, composed]
  dsimp only
  have supported := supported_of_text sound isText composed
  rw [run_execute_stores areStores composes.built composes.isSet supported]
  cases (backends.federator config).planFor translated.query <;> rfl

/-- The request is accepted, but the documents it joins cannot be put in order. -/
def BreaksOff (translator : Translator) (federator : Federator) (stores : String → Store)
    (request : SearchRequest) : Prop :=
  ∃ translated plan, translator.compose request = .ok translated ∧
    federator.planFor translated.query = .ok plan ∧
    translated.query.rankedHits stores translator.config.resultsCore = none

section Ends

variable {backends : Backends Expression} {stores : String → Store} {text : String}
  (sound : translator.parser.IsSound) (isText : request.query = .text text)
  (areStores : backends.AreStores stores) (config : FederatorConfig)

include sound isText areStores

theorem crash_of_breaksOff
    (broken : translator.BreaksOff (backends.federator config) stores request) :
    ((translator.execute (backends.federator config) request).run backends.answer).2 =
      .error .crash := by
  obtain ⟨translated, plan, composed, planned, none⟩ := broken
  rw [run_execute_text sound isText areStores config composed, planned]
  dsimp only
  unfold joinedOutcome
  rw [none]
  rfl

theorem ended_of_not_breaksOff
    (ordered : ¬translator.BreaksOff (backends.federator config) stores request) :
    (∃ response, ((translator.execute (backends.federator config) request).run
      backends.answer).2 = .ok response) ∨
    ∃ error, ((translator.execute (backends.federator config) request).run
      backends.answer).2 = .error (.request error) := by
  cases composed : translator.compose request with
  | error failure =>
      obtain ⟨error, rfl⟩ := exists_request_of_uncomposed composed
      rw [run_execute, composed]
      exact Or.inr ⟨error, rfl⟩
  | ok translated =>
      rw [run_execute_text sound isText areStores config composed]
      cases planned : (backends.federator config).planFor translated.query with
      | error failure =>
          have valid := (build_of_compose composed).2
          obtain ⟨error, rfl⟩ := Federator.exists_request_of_refused valid planned
          exact Or.inr ⟨error, rfl⟩
      | ok plan =>
          cases ranked : translated.query.rankedHits stores translator.config.resultsCore with
          | none => exact absurd ⟨translated, plan, composed, planned, ranked⟩ ordered
          | some hits =>
              unfold joinedOutcome
              rw [ranked]
              exact Or.inl ⟨_, rfl⟩

end Ends

/-- What comes of a request with a text is a response or an error of the request, unless it breaks
off. It does not if few documents are joined, or if the values they are sorted by are consistently
ordered. -/
theorem outcome_of_text {backends : Backends Expression} {stores : String → Store} {text : String}
    (sound : translator.parser.IsSound) (isText : request.query = .text text)
    (areStores : backends.AreStores stores) (config : FederatorConfig) :
    let results := translator.config.resultsCore
    let federator := backends.federator config
    let outcome := ((translator.execute federator request).run backends.answer).2
    ((∃ response, outcome = .ok response) ∨ (∃ error, outcome = .error (.request error)) ↔
      ¬translator.BreaksOff federator stores request) ∧
    (translator.BreaksOff federator stores request → outcome = .error .crash) ∧
    ∀ translated, translator.compose request = .ok translated →
      ((translated.query.joined stores results).length ≤ insertionLength ∨
        ∀ key ∈ translated.query.options.sortKeys, key.core = results →
          IsPreorderOn compareValues (Scored.valuesUnder key
            ((translated.query.joined stores results).map
              (Scored.under (translated.query.rankQueryFor results))))) →
      ¬translator.BreaksOff federator stores request := by
  intro results federator outcome
  refine ⟨⟨?_, ended_of_not_breaksOff sound isText areStores config⟩,
    crash_of_breaksOff sound isText areStores config, ?_⟩
  · rintro ended broken
    have crashed : outcome = .error .crash :=
      crash_of_breaksOff sound isText areStores config broken
    rcases ended with ⟨response, answered⟩ | ⟨error, refused⟩
    · rw [crashed] at answered
      cases answered
    · rw [crashed] at refused
      cases refused
  · rintro translated composed orderly ⟨other, plan, isOther, -, none⟩
    obtain rfl := Except.ok.inj (composed.symm.trans isOther)
    have isSome := rankedHits_isSome orderly
    rw [none] at isSome
    cases isSome

def libraryTranslator : Translator where
  config := { resultsCore := "A", matchings := [[⟨"A", "author"⟩, ⟨"B", "name"⟩]] }
  grouping := false
  clustering := true
  localName := id

theorem libraryBackends_areStores : libraryBackends.AreStores library := by
  intro core backend found
  have member := SortedMap.mem_of_get?_ofList found
  simp only [List.mem_cons, Prod.mk.injEq, List.not_mem_nil, or_false] at member
  rcases member with ⟨rfl, rfl⟩ | ⟨rfl, rfl⟩ <;> rfl

def dutchText : SearchRequest where
  query := .text "author Any \"x y\" NOT author<>x AND B.from EXACT NL"
  sortKeys := [⟨"author", true⟩]

theorem dutchText_outcome : libraryTranslator.parser.IsSound ∧
    dutchText.query = .text "author Any \"x y\" NOT author<>x AND B.from EXACT NL" ∧
    libraryBackends.AreStores library ∧
    let outcome := ((libraryTranslator.execute (libraryBackends.federator {}) dutchText).run
      libraryBackends.answer).2
    (∃ response, outcome = .ok response) ∨ ∃ error, outcome = .error (.request error) := by
  obtain ⟨ended_iff, -, ordered⟩ := @outcome_of_text libraryTranslator dutchText _ _ _
    parseQuery_isSound rfl libraryBackends_areStores {}
  refine ⟨parseQuery_isSound, rfl, libraryBackends_areStores, ended_iff.mpr ?_⟩
  rintro ⟨translated, plan, composed, planned, none⟩
  refine ordered translated composed (Or.inl ?_) ⟨translated, plan, composed, planned, none⟩
  exact (List.length_filter_le _ _).trans (by decide)

def yearTranslator : Translator where
  config := { resultsCore := "A" }
  grouping := false
  clustering := true
  localName := id

def yearText : SearchRequest where
  query := .text "*"
  sortKeys := [⟨"year", false⟩]
  stop := some 0

def yearQuery : ComposedQuery Expression where
  resultsCore := some "A"
  bundles := [{ core := "A", query := some .matchAll }]
  options := { sortKeys := [⟨"A", "year", false⟩], stop := some 0 }

/-- A request with a text to sort by years of which some are no numbers breaks off. -/
theorem yearText_breaks :
    yearTranslator.config.validate = .ok () ∧ yearText.query = .text "*" ∧
      yearBackends.AreStores (fun _ => mixedYears) ∧
      ((yearTranslator.execute (yearBackends.federator {}) yearText).run
        yearBackends.answer).2 = .error .crash := by
  have areStores : yearBackends.AreStores (fun _ => mixedYears) := by
    intro core backend found
    have member := SortedMap.mem_of_get?_ofList found
    simp only [List.mem_singleton, Prod.mk.injEq] at member
    exact member.2
  have composed : yearTranslator.compose yearText =
      .ok ⟨yearQuery, [], SortedMap.empty, "A"⟩ := by rfl
  have planned : (yearBackends.federator {}).planFor yearQuery =
      .ok ⟨"A", SortedMap.empty, [], [], []⟩ := by decide +kernel
  have broken : (yearQuery.rankedHits (fun _ => mixedYears) "A").isNone = true := by
    decide +kernel
  refine ⟨rfl, rfl, areStores, ?_⟩
  rw [run_execute_text parseQuery_isSound rfl areStores {} composed, planned]
  change (joinedOutcome yearQuery (fun _ => mixedYears) "A").map _ = _
  unfold joinedOutcome
  rw [Option.isNone_iff_eq_none.mp broken]
  rfl

end Translator

end FederatedSearch
