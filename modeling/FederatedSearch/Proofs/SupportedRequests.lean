import FederatedSearch.Proofs.AcceptedRequests
import FederatedSearch.Proofs.OperatorChains
import FederatedSearch.Proofs.RoundTrips
import FederatedSearch.Proofs.StoreResponses
import FederatedSearch.Translation.Restoration

/-! Requests to stores from one end to the other. What is read from texts has known relations only,
and still has once it is taken apart, its names are made plain and it is put together again for each
core. So no store fails on it: a request is refused before a store is asked, or it comes to the
joined documents. -/

namespace FederatedSearch

variable {Q : Type}

namespace Expression

mutual

theorem clauses_mapIndexes (change : String → String) : (query : Expression) →
    (query.mapIndexes change).clauses = query.clauses.map (Clause.mapIndex change)
  | .clause leaf => rfl
  | .all operands => by rw [mapIndexes, clauses, clauses, clausesOf_mapIndexesOf]
  | .any operands => by rw [mapIndexes, clauses, clauses, clausesOf_mapIndexesOf]
  | .not operand => by rw [mapIndexes, clauses, clauses, clauses_mapIndexes]

theorem clausesOf_mapIndexesOf (change : String → String) : (queries : List Expression) →
    clausesOf (mapIndexesOf change queries) = (clausesOf queries).map (Clause.mapIndex change)
  | [] => rfl
  | query :: queries => by
      rw [mapIndexesOf, clausesOf, clausesOf, clauses_mapIndexes, clausesOf_mapIndexesOf,
        List.map_append]

end

theorem flatMap_clauses_conjuncts (query : Expression) :
    query.conjuncts.flatMap clauses = query.clauses := by
  cases query <;> simp [conjuncts, clauses, clausesOf_eq_flatMap]

theorem clauses_of_allOf {queries : List Expression} {whole : Expression}
    (found : allOf queries = some whole) : whole.clauses = queries.flatMap clauses := by
  rw [← clauses_conjunction, conjunction, found, Option.getD_some]

theorem clauses_of_anyOf {queries : List Expression} {whole : Expression}
    (found : anyOf queries = some whole) : whole.clauses = queries.flatMap clauses := by
  rw [← clauses_disjunction, disjunction, found, Option.getD_some]

theorem supported_of_flatMap {query : Expression} {parts : List Expression}
    (same : query.clauses = parts.flatMap clauses) (each : ∀ part ∈ parts, part.Supported) :
    query.Supported := by
  intro leaf member
  rw [same, List.mem_flatMap] at member
  obtain ⟨part, inParts, inPart⟩ := member
  exact each part inParts leaf inPart

namespace Supported

variable {query : Expression}

theorem mapIndexes (supported : query.Supported) (change : String → String) :
    (query.mapIndexes change).Supported := by
  intro leaf member
  rw [clauses_mapIndexes] at member
  obtain ⟨before, inQuery, rfl⟩ := List.mem_map.mp member
  exact supported before inQuery

theorem conjuncts (supported : query.Supported) :
    ∀ operand ∈ query.conjuncts, operand.Supported := by
  intro operand member leaf inOperand
  refine supported leaf ?_
  rw [← flatMap_clauses_conjuncts]
  exact List.mem_flatMap.mpr ⟨operand, member, inOperand⟩

end Supported

end Expression

/-- What requests rely on in the parser of their texts: it fails as parsers do, and what it reads has
an operand and known relations. -/
structure QueryParser.IsSound (parser : QueryParser) : Prop where
  faults : ∀ text error, parser text = .error error → ∃ fault, error = .queryParse fault
  disjuncts : ∀ text query, parser text = .ok query → query.disjuncts ≠ []
  supported : ∀ text query, parser text = .ok query → query.Supported

theorem parseQuery_ok_iff {text : String} {query : Expression} :
    parseQuery text = .ok query ↔ parse text = .ok query := by
  unfold parseQuery
  cases parse text <;> simp

theorem parseQuery_isSound : QueryParser.IsSound parseQuery where
  faults text error failed := by
    unfold parseQuery at failed
    cases parsed : parse text with
    | ok query => simp [parsed] at failed
    | error fault =>
        rw [parsed] at failed
        exact ⟨fault, (Except.error.inj failed).symm⟩
  disjuncts text query read :=
    (isCanonical_of_parse (parseQuery_ok_iff.mp read)).disjuncts.1
  supported text query read :=
    Expression.supported_of_isCanonical (isCanonical_of_parse (parseQuery_ok_iff.mp read))

/-! What is composed of texts -/

theorem Edit.unites_apply {query changed : ComposedQuery Q} {edit : Edit Q}
    (noUnite : ∀ queries, edit ≠ .unite queries) (done : edit.apply query = .ok changed) :
    changed.unites = query.unites := by
  cases edit with
  | addMatch sides =>
      obtain ⟨_, _, _, rfl⟩ := ComposedQuery.addMatch_ok done
      rfl
  | unite queries => exact absurd rfl (noUnite queries)
  | setResultsCore | add | setCoreQuery | addFilter | addFacet | addDrilldown | setRankQuery
    | addSortKey | setStart | setStop | setSuggestions | setDedup | setGroupingField
    | setClustering =>
      cases done
      rfl

theorem ComposedQuery.bundleOf_of_mem {query : ComposedQuery Q} {bundle : Bundle Q}
    (distinct : (query.bundles.map (·.core)).Nodup) (member : bundle ∈ query.bundles) :
    query.bundleOf bundle.core = bundle := by
  unfold bundleOf bundle?
  generalize query.bundles = bundles at distinct member
  induction bundles with
  | nil => cases member
  | cons head rest ih =>
      obtain ⟨isNew, restDistinct⟩ := List.nodup_cons.mp distinct
      rcases List.mem_cons.mp member with rfl | later
      · simp
      · have different : head.core ≠ bundle.core := fun same =>
          isNew (List.mem_map.mpr ⟨bundle, later, same.symm⟩)
        rw [List.find?_cons_of_neg (by simpa using different)]
        exact ih restDistinct later

namespace Translator

variable {translator : Translator} {request : SearchRequest} {translated : TranslatedRequest}
  {query : Expression} {read : ReadRequest}

theorem unites_applyAll {before changed : ComposedQuery Expression}
    {edits : List (Edit Expression)} (noUnite : ∀ edit ∈ edits, ∀ queries, edit ≠ .unite queries)
    (done : applyAll before edits = .ok changed) : changed.unites = before.unites := by
  induction edits generalizing before with
  | nil =>
      cases done
      rfl
  | cons edit rest ih =>
      obtain ⟨ofEdit, ofRest⟩ := List.forall_mem_cons.mp noUnite
      obtain ⟨next, first, later⟩ := bind_ok_iff.mp done
      rw [ih ofRest later, Edit.unites_apply ofEdit first]

theorem unites_of_build (built : translator.build request = .ok translated) :
    translated.query.unites = [] := by
  obtain ⟨start, read, started, -, done, -⟩ := build_ok built
  have ofMatches : ∀ edit ∈ translator.matchEdits, ∀ queries, edit ≠ .unite queries := by
    simp [matchEdits]
  have ofAdditions : ∀ edit ∈ translator.readEdits request read, ∀ queries,
      edit ≠ .unite queries := by
    rintro _ member queries rfl
    exact additions_readEdits translator request read _ member
  rw [unites_applyAll ofAdditions done, unites_applyAll ofMatches started]
  rfl

theorem supported_of_valueFor {α γ : Type} {target : γ → String} {value : γ → Expression}
    {core : String} {step : α → Except RequestError γ} {item : α} {part : Expression}
    (each : ∀ result, step item = .ok result → (value result).Supported)
    (found : valueFor target value core step item = some part) : part.Supported := by
  cases done : step item with
  | error error =>
      rw [valueFor, done] at found
      cases found
  | ok result =>
      rw [valueFor_of_ok target value core done] at found
      split at found
      · rw [← Option.some.inj found]
        exact each result done
      · cases found

theorem readFor_ok_iff {text : String} {result : String × Expression} :
    translator.readFor text = .ok result ↔
      (translator.resolve text).1 = result.1 ∧
        translator.parser (translator.resolve text).2 = .ok result.2 := by
  unfold readFor
  rw [bind_ok_iff]
  constructor
  · rintro ⟨parsed, isParsed, same⟩
    obtain rfl := Except.ok.inj same
    exact ⟨rfl, isParsed⟩
  · rintro ⟨isCore, isParsed⟩
    exact ⟨result.2, isParsed, congrArg Except.ok (Prod.ext isCore rfl)⟩

section Sound

variable (sound : translator.parser.IsSound)

include sound

theorem supported_argumentFor {core text : String} {part : Expression}
    (found : translator.argumentFor core text = some part) : part.Supported := by
  refine supported_of_valueFor (fun result done => ?_) found
  exact sound.supported _ _ (readFor_ok_iff.mp done).2

theorem supported_givenFor {core : String} {given : String × String} {part : Expression}
    (found : translator.givenFor core given = some part) : part.Supported := by
  refine supported_of_valueFor (fun result done => ?_) found
  obtain ⟨parsed, isParsed, same⟩ := bind_ok_iff.mp done
  obtain rfl := Except.ok.inj same
  exact sound.supported _ _ isParsed

theorem supported_bundleFor (supported : query.Supported) (core : String) :
    let bundle := translator.bundleFor request query core
    ∀ part ∈ bundle.query.toList ++ bundle.filters ++ bundle.rankQuery.toList,
      part.Supported := by
  intro bundle part member
  have ofConjuncts := supported.conjuncts
  have ofArguments (name : String) : ∀ part ∈
      (request.extra name).filterMap (translator.argumentFor core), part.Supported := by
    intro part inArguments
    obtain ⟨text, -, found⟩ := List.mem_filterMap.mp inArguments
    exact supported_argumentFor sound found
  rcases List.mem_append.mp member with ofSearch | isRank
  · rcases List.mem_append.mp ofSearch with isQuery | isFilter
    · have found := Option.mem_toList.mp isQuery
      dsimp only [bundle, bundleFor] at found
      split at found
      · refine Expression.supported_of_flatMap (Expression.clauses_of_allOf found) ?_
        exact fun operand kept => ofConjuncts operand (List.mem_filter.mp kept).1
      · cases found
    · rcases List.mem_append.mp isFilter with ofOthers | isGiven
      · rcases List.mem_append.mp ofOthers with isOwned | isArgued
        · obtain ⟨operand, inQuery, owned⟩ := List.mem_filterMap.mp isOwned
          unfold ownedBy at owned
          split at owned
          · rw [← Option.some.inj owned]
            exact (ofConjuncts operand inQuery).mapIndexes _
          · cases owned
        · exact ofArguments filterArgument part isArgued
      · obtain ⟨given, -, found⟩ := List.mem_filterMap.mp isGiven
        exact supported_givenFor sound found
  · have found := Option.mem_toList.mp isRank
    exact Expression.supported_of_flatMap (Expression.clauses_of_anyOf found)
      (ofArguments rankArgument)

theorem Composes.supported (composes : translator.Composes request query read translated)
    (noUnites : translated.query.unites = []) (supported : query.Supported) :
    translated.query.Supported := by
  intro part member
  rw [ComposedQuery.everyQuery, noUnites, List.map_nil, List.append_nil,
    List.mem_flatMap] at member
  obtain ⟨bundle, inBundles, inBundle⟩ := member
  have distinct := composes.built.wellFormed.distinct
  rw [← ComposedQuery.bundleOf_of_mem distinct inBundles, composes.bundleOf] at inBundle
  exact supported_bundleFor sound supported bundle.core part inBundle

/-- Every query in what a request with a text is composed to can be evaluated. -/
theorem supported_of_text {text : String} (isText : request.query = .text text)
    (composed : translator.compose request = .ok translated) : translated.query.Supported := by
  obtain ⟨query, read, composes⟩ := exists_composes composed
  have isQuery := composes.reads.isQuery
  rw [isText] at isQuery
  exact composes.supported sound (unites_of_build (build_of_compose composed).1)
    (sound.supported _ _ isQuery)

end Sound

end Translator

end FederatedSearch
