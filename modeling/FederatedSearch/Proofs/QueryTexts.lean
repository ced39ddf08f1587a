import FederatedSearch.Proofs.AlikeOperands

/-! Requests that differ in the text of their query alone. What else is in them is read alike, so
they come to the same if their texts hold the same operands: texts joined by "and" or "or" can
change places, and one joined by "and" with itself is as good as alone. -/

namespace FederatedSearch

def SearchRequest.withQuery (request : SearchRequest) (input : QueryInput) : SearchRequest :=
  { request with query := input }

namespace Translator

variable {translator : Translator} {request : SearchRequest}

structure RequestRest where
  argued : List (String × Expression)
  given : List (String × Expression)
  rankQueries : List (String × Expression)
  facets : List RoutedFacet

def readRest (translator : Translator) (request : SearchRequest) :
    Except RequestError RequestRest := do
  let argued ← (request.extra filterArgument).mapM translator.readFor
  let given ← request.filters.mapM fun (core, text) => do return (core, ← translator.parser text)
  let rankQueries ← translator.rankQueries request
  let facets ← request.facets.mapM translator.routeFacet
  return { argued, given, rankQueries, facets }

def RequestRest.readWith (rest : RequestRest) (extracted : Extraction) : ReadRequest where
  extracted
  filters := ungroup extracted.filters.entries ++ rest.argued ++ rest.given
  rankQueries := rest.rankQueries
  facets := rest.facets

theorem read_eq (translator : Translator) (request : SearchRequest) :
    translator.read request = do
      let query ← request.query.read translator.parser
      let rest ← translator.readRest request
      return rest.readWith (Extraction.ofQuery translator.config.cores
        translator.config.resultsCore query) := by
  unfold Translator.read filters readRest
  simp only [bind_assoc, pure_bind]
  rfl

/-! Building -/

theorem exists_built {start : ComposedQuery Expression} {read : ReadRequest}
    (started : applyAll (.ofResultsCore translator.config.resultsCore) translator.matchEdits =
      .ok start) (isRead : translator.read request = .ok read) :
    ∃ translated query, translator.build request = .ok translated ∧
      translator.Composes request query read translated ∧
      translated.query.outline = { start.outline with
        registered := (translator.touched request read).foldl JoinPlan.addCore
          start.outline.registered } ∧
      translated.query.options = (translator.readEdits request read).foldl Edit.onOptions {} := by
  obtain ⟨changed, done, outlined⟩ :=
    applyAll_of_additions (additions_readEdits translator request read) start
  have isBuilt : translator.build request = .ok _ :=
    bind_ok_iff.mpr ⟨start, started, bind_ok_iff.mpr ⟨read, isRead,
      bind_ok_iff.mpr ⟨changed, done, rfl⟩⟩⟩
  obtain ⟨_, other, _, isOther, _, query, composes⟩ := build_ok isBuilt
  obtain rfl := Except.ok.inj (isRead.symm.trans isOther)
  refine ⟨_, query, isBuilt, composes, outlined, ?_⟩
  rw [← options_start started]
  exact options_applyAll done

theorem build_of_unstarted {error : RequestError}
    (started : applyAll (.ofResultsCore translator.config.resultsCore) translator.matchEdits =
      .error error) : translator.build request = .error error := by
  unfold build
  dsimp only
  rw [started]
  rfl

theorem build_of_unread {start : ComposedQuery Expression} {error : RequestError}
    (started : applyAll (.ofResultsCore translator.config.resultsCore) translator.matchEdits =
      .ok start) (unread : translator.read request = .error error) :
    translator.build request = .error error := by
  unfold build
  dsimp only
  rw [started, unread]
  rfl

theorem compose_of_unbuilt {error : RequestError}
    (unbuilt : translator.build request = .error error) :
    translator.compose request = .error (.request error) := by
  unfold compose
  rw [unbuilt]

theorem compose_of_built {translated : TranslatedRequest}
    (built : translator.build request = .ok translated) :
    translator.compose request = translated.query.validate.map fun _ => translated := by
  unfold compose
  rw [built]
  dsimp only
  cases translated.query.validate <;> rfl

theorem built_start {start : ComposedQuery Expression}
    (started : applyAll (.ofResultsCore translator.config.resultsCore) translator.matchEdits =
      .ok start) : start.Built :=
  built_applyAll (ComposedQuery.Built.empty.edit (.setResultsCore _)) started

theorem restore_congr {first second : TranslatedRequest}
    (facetOrder : first.facetOrder = second.facetOrder)
    (callerNames : first.callerNames = second.callerNames)
    (resultsCore : first.resultsCore = second.resultsCore) : first.restore = second.restore := by
  funext response
  unfold TranslatedRequest.restore TranslatedRequest.restoreBlocks TranslatedRequest.renamed
    TranslatedRequest.position
  rw [facetOrder, callerNames, resultsCore]

theorem mem_extracted_cores {core : String} {operands : List Expression} :
    core ∈ (ungroup (Extraction.filtersOf translator.config.cores translator.config.resultsCore
        operands).entries).map (·.1) ↔ operands.filterMap (translator.ownedBy core) ≠ [] := by
  rw [← filter_extracted, ne_eq, List.map_eq_nil_iff, List.filter_eq_nil_iff, List.mem_map]
  simp

/-- The query of a request and its filters matter to the options only where hits are to be
grouped. -/
theorem options_edits {main otherMain : Option Expression}
    {filters otherFilters ranks : List (String × Expression)} {facets : List RoutedFacet}
    {options : QueryOptions} : ∃ groupingField,
      (translator.edits request otherMain otherFilters ranks facets).foldl Edit.onOptions options =
        { (translator.edits request main filters ranks facets).foldl Edit.onOptions options with
          groupingField } := by
  rw [edits, edits]
  simp only [List.foldl_append, List.foldl_map, Edit.onOptions, List.foldl_fixed]
  generalize List.foldl _ _ (translator.dedups request).toList = before
  cases translator.groups main request <;> cases translator.groups otherMain request <;>
    cases translator.clusters request <;> exact ⟨_, rfl⟩

section Operands

open Expression

variable {one other : Expression} {first second : ComposedQuery Expression}

/-- The query of a request matters to what is composed by its operands alone. -/
theorem asksAlike (same : SameOperands one.conjuncts other.conjuncts)
    (isSet : first.resultsCore = some translator.config.resultsCore)
    (ofFirst : ∀ core, first.bundleOf core = translator.bundleFor request one core)
    (ofSecond : ∀ core, second.bundleOf core = translator.bundleFor request other core)
    (sameCores : first.SameCores second) (unites : first.unites = second.unites)
    (options : ∃ groupingField, second.options = { first.options with groupingField }) :
    first.AsksAlike second translator.config.resultsCore := by
  refine ⟨isSet, sameCores, fun core document => ?satisfied, fun core isOther => ?constrains,
    fun core => ?facets, fun core => ?rank, unites, options⟩
  case satisfied =>
      unfold ComposedQuery.Satisfied ComposedQuery.queriesFor
      rw [ComposedQuery.queryFor_eq, ComposedQuery.queryFor_eq, ComposedQuery.filtersFor_eq,
        ComposedQuery.filtersFor_eq, ComposedQuery.drilldownsFor_eq,
        ComposedQuery.drilldownsFor_eq, ofFirst, ofSecond]
      unfold bundleFor
      simp only [List.forall_mem_append]
      rw [translator.forall_owned_iff same]
      refine and_congr_left fun _ => and_congr_left fun _ => ?_
      split
      · rw [forall_allOf_accept, forall_allOf_accept, translator.forall_kept_iff same]
      · rfl
  case constrains =>
      rw [ComposedQuery.constrains_eq, ComposedQuery.constrains_eq, ofFirst, ofSecond,
        Bool.eq_iff_iff]
      unfold Bundle.isConstrained bundleFor
      simp only [if_neg isOther, Option.isSome_none, Bool.false_or, Bool.or_eq_true,
        Bool.not_eq_true', List.isEmpty_eq_false_iff, ne_eq, List.append_eq_nil_iff,
        translator.owned_eq_nil_iff same]
  case facets =>
      rw [ComposedQuery.facetsFor_eq, ComposedQuery.facetsFor_eq, ofFirst, ofSecond]
      rfl
  case rank =>
      rw [ComposedQuery.rankQueryFor_eq, ComposedQuery.rankQueryFor_eq, ofFirst, ofSecond]
      rfl

def RequestRest.readWithQuery (translator : Translator) (rest : RequestRest)
    (query : Expression) : ReadRequest :=
  rest.readWith <|
    Extraction.ofQuery translator.config.cores translator.config.resultsCore query

def RequestRest.touched (translator : Translator) (request : SearchRequest) (rest : RequestRest) :
    List String :=
  rest.argued.map (·.1) ++ rest.given.map (·.1) ++ rest.rankQueries.map (·.1) ++
    rest.facets.map (·.core) ++
    request.drilldowns.map fun drilldown => (translator.routeDrilldown drilldown).1

theorem mem_touched_iff {rest : RequestRest} {core : String}
    (isOther : core ≠ translator.config.resultsCore) :
    core ∈ translator.touched request (rest.readWithQuery translator one) ↔
      one.conjuncts.filterMap (translator.ownedBy core) ≠ [] ∨
        core ∈ rest.touched translator request := by
  have kept (query : Option Expression) :
      core ∉ query.toList.map fun _ => translator.config.resultsCore := by
    simp [isOther]
  rw [touched_eq, ← mem_extracted_cores]
  unfold RequestRest.readWithQuery RequestRest.readWith RequestRest.touched Extraction.ofQuery
  simp only [List.map_append, List.mem_append, kept, false_or, or_assoc]

variable {start : ComposedQuery Expression} {rest : RequestRest} {input : QueryInput}

theorem read_withQuery : translator.read (request.withQuery input) = do
    let query ← input.read translator.parser
    let rest ← translator.readRest request
    return rest.readWithQuery translator query :=
  read_eq translator (request.withQuery input)

theorem exists_built_with
    (started : applyAll (.ofResultsCore translator.config.resultsCore) translator.matchEdits =
      .ok start)
    (isRest : translator.readRest request = .ok rest)
    (isQuery : input.read translator.parser = .ok one) :
    ∃ translated, translator.build (request.withQuery input) = .ok translated ∧
      translator.Composes (request.withQuery input) one (rest.readWithQuery translator one)
        translated ∧
      translated.query.outline = { start.outline with
        registered := (translator.touched request (rest.readWithQuery translator one)).foldl
          JoinPlan.addCore start.outline.registered } ∧
      translated.query.options =
        (translator.readEdits request (rest.readWithQuery translator one)).foldl
          Edit.onOptions {} := by
  have isRead : translator.read (request.withQuery input) =
      .ok (rest.readWithQuery translator one) := by
    rw [read_withQuery, isQuery, isRest]
    rfl
  obtain ⟨translated, query, built, composes, outline, options⟩ := exists_built started isRead
  obtain rfl := Except.ok.inj (composes.reads.isQuery.symm.trans isQuery)
  exact ⟨translated, built, composes, outline, options⟩

/-- Where the same cores besides the results core are touched, the same cores are registered. -/
theorem sameCores_of_touched {touched others : List String}
    (same : ∀ core, core ≠ translator.config.resultsCore → (core ∈ touched ↔ core ∈ others))
    (started : applyAll (.ofResultsCore translator.config.resultsCore) translator.matchEdits =
      .ok start)
    (firstSet : first.resultsCore = some translator.config.resultsCore)
    (secondSet : second.resultsCore = some translator.config.resultsCore)
    (ofFirst : first.outline = { start.outline with
      registered := touched.foldl JoinPlan.addCore start.outline.registered })
    (ofSecond : second.outline = { start.outline with
      registered := others.foldl JoinPlan.addCore start.outline.registered }) :
    first.SameCores second := by
  have wellFormed := (built_start started).wellFormed
  have registered := wellFormed.resultsRegistered _ (resultsCore_start started)
  have firstDistinct : first.outline.registered.Nodup := by
    rw [ofFirst]
    exact JoinPlan.nodup_foldl_addCore wellFormed.distinct
  have secondDistinct : second.outline.registered.Nodup := by
    rw [ofSecond]
    exact JoinPlan.nodup_foldl_addCore wellFormed.distinct
  have matchings : first.matchings = second.matchings :=
    (congrArg Outline.matchings ofFirst).trans (congrArg Outline.matchings ofSecond).symm
  refine .of_registered firstSet secondSet matchings ?_ firstDistinct ?_
  · rw [List.perm_ext_iff_of_nodup firstDistinct secondDistinct, ofFirst, ofSecond]
    intro core
    rw [JoinPlan.mem_foldl_addCore, JoinPlan.mem_foldl_addCore]
    by_cases isResults : core = translator.config.resultsCore
    · simp [isResults, registered]
    · rw [same core isResults]
  · rw [ofFirst, JoinPlan.mem_foldl_addCore]
    exact Or.inl registered

/-- With what else is in the request read, what is composed with either of two queries of the same
operands asks alike, and responses are restored alike. -/
theorem built_alike {firstInput secondInput : QueryInput}
    (started : applyAll (.ofResultsCore translator.config.resultsCore) translator.matchEdits =
      .ok start)
    (isRest : translator.readRest request = .ok rest)
    (ofFirst : firstInput.read translator.parser = .ok one)
    (ofSecond : secondInput.read translator.parser = .ok other)
    (same : SameOperands one.conjuncts other.conjuncts) :
    ∃ first second, translator.build (request.withQuery firstInput) = .ok first ∧
      translator.build (request.withQuery secondInput) = .ok second ∧
      first.query.AsksAlike second.query translator.config.resultsCore ∧
      first.restore = second.restore := by
  obtain ⟨first, firstBuilt, firstComposes, firstOutline, firstOptions⟩ :=
    exists_built_with started isRest ofFirst
  obtain ⟨second, secondBuilt, secondComposes, secondOutline, secondOptions⟩ :=
    exists_built_with started isRest ofSecond
  have touched : ∀ core, core ≠ translator.config.resultsCore →
      (core ∈ translator.touched request (rest.readWithQuery translator one) ↔
        core ∈ translator.touched request (rest.readWithQuery translator other)) := by
    intro core isOther
    rw [mem_touched_iff isOther, mem_touched_iff isOther, ne_eq, translator.owned_eq_nil_iff same]
  refine ⟨first, second, firstBuilt, secondBuilt, ?_, ?_⟩
  · refine asksAlike same firstComposes.isSet firstComposes.bundleOf secondComposes.bundleOf
      (sameCores_of_touched touched started firstComposes.isSet secondComposes.isSet firstOutline
        secondOutline) ?_ ?_
    · rw [unites_of_build firstBuilt, unites_of_build secondBuilt]
    · rw [firstOptions, secondOptions]
      exact options_edits
  · refine restore_congr ?_ ?_ ?_
    · rw [firstComposes.facetOrder, secondComposes.facetOrder]
      rfl
    · rw [firstComposes.callerNames, secondComposes.callerNames]
      rfl
    · rw [firstComposes.resultsCore, secondComposes.resultsCore]

/-- With either of two queries of the same operands a request is refused alike, or what is composed
of it asks alike and responses are restored alike. -/
theorem compose_alike {firstInput secondInput : QueryInput}
    (ofFirst : firstInput.read translator.parser = .ok one)
    (ofSecond : secondInput.read translator.parser = .ok other)
    (same : SameOperands one.conjuncts other.conjuncts) :
    (∃ failure, translator.compose (request.withQuery firstInput) = .error failure ∧
      translator.compose (request.withQuery secondInput) = .error failure) ∨
    ∃ first second, translator.compose (request.withQuery firstInput) = .ok first ∧
      translator.compose (request.withQuery secondInput) = .ok second ∧
      first.query.AsksAlike second.query translator.config.resultsCore ∧
      first.restore = second.restore := by
  cases started : applyAll (.ofResultsCore translator.config.resultsCore) translator.matchEdits with
  | error error =>
      exact Or.inl ⟨.request error, compose_of_unbuilt (build_of_unstarted started),
        compose_of_unbuilt (build_of_unstarted started)⟩
  | ok start =>
      cases isRest : translator.readRest request with
      | error error =>
          have unread {input : QueryInput} {query : Expression}
              (isQuery : input.read translator.parser = .ok query) :
              translator.read (request.withQuery input) = .error error := by
            rw [read_withQuery, isQuery, isRest]
            rfl
          exact Or.inl ⟨.request error,
            compose_of_unbuilt (build_of_unread started (unread ofFirst)),
            compose_of_unbuilt (build_of_unread started (unread ofSecond))⟩
      | ok rest =>
          obtain ⟨first, second, firstBuilt, secondBuilt, alike, restores⟩ :=
            built_alike started isRest ofFirst ofSecond same
          rw [compose_of_built firstBuilt, compose_of_built secondBuilt, ← alike.sameCores.validate]
          cases first.query.validate with
          | error failure => exact Or.inl ⟨failure, rfl, rfl⟩
          | ok _ => exact Or.inr ⟨first, second, rfl, rfl, alike, restores⟩

variable {backends : Backends Expression} {stores : String → Store} {firstText secondText : String}

theorem run_execute_alike (sound : translator.parser.IsSound)
    (areStores : backends.AreStores stores) (config : FederatorConfig)
    (ofFirst : translator.parser firstText = .ok one)
    (ofSecond : translator.parser secondText = .ok other)
    (same : SameOperands one.conjuncts other.conjuncts) :
    ((translator.execute (backends.federator config) (request.withQuery (.text firstText))).run
        backends.answer).2 =
      ((translator.execute (backends.federator config) (request.withQuery (.text secondText))).run
        backends.answer).2 := by
  have alikeOrRefused := @compose_alike translator request _ _ (.text firstText) (.text secondText)
    ofFirst ofSecond same
  rw [run_execute, run_execute]
  rcases alikeOrRefused with
    ⟨failure, first, second⟩ | ⟨first, second, isFirst, isSecond, alike, restores⟩
  · rw [first, second]
  · obtain ⟨_, _, firstComposes⟩ := exists_composes isFirst
    obtain ⟨_, _, secondComposes⟩ := exists_composes isSecond
    rw [isFirst, isSecond]
    dsimp only
    rw [restores, alike.run_execute areStores firstComposes.built secondComposes.built
      (supported_of_text sound rfl isFirst) (supported_of_text sound rfl isSecond)]

end Operands

end Translator

/-! Texts in parentheses with an operator between them -/

def operationText (word firstText secondText : String) : String :=
  "(" ++ firstText ++ ") " ++ word ++ " (" ++ secondText ++ ")"

section Operations

open Expression

variable {firstText secondText : String} {one other : Expression}

theorem parse_enclosed (parsed : parse firstText = .ok one) :
    parse ("(" ++ firstText ++ ")") = .ok one := by
  have chain := ChainLink.parse_chainText parsed []
  rwa [ChainLink.chainText, ChainLink.linksText, String.append_empty] at chain

theorem parse_operationText {word : String} {connective : Connective}
    (spelled : asciiLowerCase word = connective.name) (ofFirst : parse firstText = .ok one)
    (ofSecond : parse secondText = .ok other) :
    parse (operationText word firstText secondText) = .ok (connective.join one other) := by
  have chain := ChainLink.parse_chainText ofFirst
    [⟨word, connective, spelled, secondText, other, ofSecond⟩]
  have written : operationText word firstText secondText =
      ChainLink.chainText firstText [⟨word, connective, spelled, secondText, other, ofSecond⟩] := by
    rw [← String.toList_inj]
    simp [operationText, ChainLink.chainText, ChainLink.linksText]
  rw [written]
  exact chain

theorem conjuncts_join_and (ofOne : one.IsCanonical) (ofOther : other.IsCanonical) :
    (Connective.and.join one other).conjuncts = one.conjuncts ++ other.conjuncts := by
  have flat {query : Expression} (canonical : query.IsCanonical) :
      ∀ operand ∈ query.conjuncts, operand.conjuncts = [operand] := by
    intro operand member
    obtain ⟨first, others, listed, -, flat, -⟩ := canonical.conjuncts
    exact conjuncts_of_isAll (flat operand (listed ▸ member))
  have each : ∀ operand ∈ [one, other].flatMap conjuncts, operand.conjuncts = [operand] := by
    simpa [or_imp, forall_and] using ⟨flat ofOne, flat ofOther⟩
  have whole : (joined conjuncts .all [one, other]).conjuncts = [one, other].flatMap conjuncts :=
    parts_joined (fun _ => rfl) each
  change (conjunction [one, other]).conjuncts = _
  rw [conjunction_eq, whole]
  simp

theorem conjuncts_join_or (ofOne : one.IsCanonical) (ofOther : other.IsCanonical) :
    (Connective.or.join one other).conjuncts = [.any (one.disjuncts ++ other.disjuncts)] := by
  have some := List.length_pos_iff.mpr ofOne.disjuncts.1
  have someOther := List.length_pos_iff.mpr ofOther.disjuncts.1
  have several : 2 ≤ ([one, other].flatMap disjuncts).length := by
    simp only [List.flatMap_cons, List.flatMap_nil, List.append_nil, List.length_append]
    omega
  change (disjunction [one, other]).conjuncts = _
  rw [disjunction_eq, joined_of_several several]
  simp [conjuncts]

end Operations

namespace Translator

open Expression

/-- Of two texts under "and" or "or" either can stand first, and a text under "and" with itself is
as good as alone, whatever else the request asks and whichever cores the parts of the texts are
about. -/
theorem run_execute_operations {translator : Translator} {backends : Backends Expression}
    {stores : String → Store} {firstText secondText : String} {one other : Expression}
    (cql : translator.parser = parseQuery) (areStores : backends.AreStores stores)
    (config : FederatorConfig) (request : SearchRequest) (ofFirst : parse firstText = .ok one)
    (ofSecond : parse secondText = .ok other) :
    let outcome text := ((translator.execute (backends.federator config)
      (request.withQuery (.text text))).run backends.answer).2
    outcome (operationText "AND" firstText secondText) =
        outcome (operationText "AND" secondText firstText) ∧
      outcome (operationText "OR" firstText secondText) =
        outcome (operationText "OR" secondText firstText) ∧
      outcome (operationText "AND" firstText firstText) = outcome ("(" ++ firstText ++ ")") := by
  have sound : translator.parser.IsSound := cql ▸ parseQuery_isSound
  have isRead {text : String} {query : Expression} (parsed : parse text = .ok query) :
      translator.parser text = .ok query := cql ▸ parseQuery_ok_iff.mpr parsed
  have ofOne := isCanonical_of_parse ofFirst
  have ofOther := isCanonical_of_parse ofSecond
  have spelledAnd : asciiLowerCase "AND" = Connective.and.name := by decide
  have spelledOr : asciiLowerCase "OR" = Connective.or.name := by decide
  refine ⟨?and, ?or, ?twice⟩
  case and =>
      refine run_execute_alike sound areStores config
        (isRead (parse_operationText spelledAnd ofFirst ofSecond))
        (isRead (parse_operationText spelledAnd ofSecond ofFirst)) ?_
      rw [conjuncts_join_and ofOne ofOther, conjuncts_join_and ofOther ofOne]
      exact .of_mem_iff fun operand => by rw [List.mem_append, List.mem_append, or_comm]
  case or =>
      refine run_execute_alike sound areStores config
        (isRead (parse_operationText spelledOr ofFirst ofSecond))
        (isRead (parse_operationText spelledOr ofSecond ofFirst)) ?_
      rw [conjuncts_join_or ofOne ofOther, conjuncts_join_or ofOther ofOne]
      have alike : Alike (.any (one.disjuncts ++ other.disjuncts))
          (.any (other.disjuncts ++ one.disjuncts)) := .any_of_perm List.perm_append_comm
      exact .of_alike alike
  case twice =>
      refine run_execute_alike sound areStores config
        (isRead (parse_operationText spelledAnd ofFirst ofFirst))
        (isRead (parse_enclosed ofFirst)) ?_
      rw [conjuncts_join_and ofOne ofOne]
      exact .of_mem_iff fun operand => by rw [List.mem_append, or_self]

theorem dutchText_operations :
    parse "author=x and B.from=NL" =
      .ok (.all [.ofField "author" "x", .ofField "B.from" "NL"]) ∧
    parse "B.name any \"x z\"" = .ok (.clause (.related "B.name" "any" "x z")) ∧
    libraryTranslator.parser = parseQuery ∧ libraryBackends.AreStores library ∧
    let outcome text := ((libraryTranslator.execute (libraryBackends.federator {})
      (dutchText.withQuery (.text text))).run libraryBackends.answer).2
    outcome "(author=x and B.from=NL) AND (B.name any \"x z\")" =
        outcome "(B.name any \"x z\") AND (author=x and B.from=NL)" ∧
      (outcome "(B.name any \"x z\") AND (author=x and B.from=NL)").toOption.map (·.total) =
        some 1 := by
  have ofFirst : parse "author=x and B.from=NL" =
      .ok (.all [.ofField "author" "x", .ofField "B.from" "NL"]) := by rfl
  have ofSecond : parse "B.name any \"x z\"" = .ok (.clause (.related "B.name" "any" "x z")) := by
    rfl
  have laws := @run_execute_operations libraryTranslator _ _ _ _ _ _ rfl libraryBackends_areStores
    {} dutchText ofFirst ofSecond
  exact ⟨ofFirst, ofSecond, rfl, libraryBackends_areStores, laws.1, by decide +kernel⟩

end Translator

end FederatedSearch
