import FederatedSearch.Proofs.PrefixedNames
import FederatedSearch.Proofs.QueryTexts

/-! Two ways of restricting a core besides the results core: operands of the query whose names all
have the core before them, and a filter argument. The operands lose the core before every name. The
argument has it once, before its whole text, and is read from behind it, so that a name further on
that has the core before it again is a name of a field. -/

namespace FederatedSearch

namespace Expression

variable {query : Expression}

theorem conjuncts_mapIndexes (change : String → String) (query : Expression) :
    (query.mapIndexes change).conjuncts = query.conjuncts.map (mapIndexes change) := by
  cases query with
  | all operands => rw [mapIndexes, conjuncts, conjuncts, mapIndexesOf_eq_map]
  | clause leaf => rfl
  | any operands => rfl
  | not operand => rfl

theorem allMatchedBy_parts (document : Document) (query : Expression) :
    allMatchedBy document query.conjuncts = query.matchedBy document := by
  have whole := @allMatchedBy_conjuncts document [query]
  rwa [List.flatMap_singleton, allMatchedBy_singleton] at whole

theorem IsCanonical.clauses_ne_nil (canonical : query.IsCanonical) : query.clauses ≠ [] := by
  induction canonical with
  | clause => simp [clauses]
  | all several flat ofFirst ofOthers isSome => simp [clauses, clausesOf, isSome]
  | @any operands several flat each isSome =>
      obtain ⟨operand, member⟩ := List.exists_mem_of_length_pos (show 0 < operands.length by omega)
      rw [clauses, clausesOf_eq_flatMap, ne_eq, List.flatMap_eq_nil_iff]
      exact fun none => isSome operand member (none operand member)

/-- A query all of whose names have the core before them has no operand that is about another. -/
theorem IsCanonical.owner? {core resultsCore : String} {cores : SortedSet String}
    (canonical : query.IsCanonical) (spoken : ∀ leaf ∈ query.clauses, leaf.core? = some core)
    (isOther : core ≠ resultsCore) (configured : cores.contains core = true) :
    ∀ operand ∈ query.conjuncts, operand.owner? cores resultsCore = some core := by
  intro operand member
  have isSome : operand.clauses ≠ [] := by
    obtain ⟨first, others, listed, ofFirst, -, ofOthers⟩ := canonical.conjuncts
    rw [listed] at member
    rcases List.mem_cons.mp member with rfl | later
    · exact ofFirst.clauses_ne_nil
    · rw [← clauses_unnegated]
      exact (ofOthers operand later).clauses_ne_nil
  have each : ∀ leaf ∈ operand.clauses, leaf.core? = some core := by
    intro leaf inOperand
    refine spoken leaf ?_
    rw [← flatMap_clauses_conjuncts]
    exact List.mem_flatMap.mpr ⟨operand, member, inOperand⟩
  unfold Expression.owner?
  rw [spokenOf?_eq_some_iff.mpr ⟨isSome, each⟩]
  simp [isOther, configured]

end Expression

namespace Translator

variable {translator : Translator} {core : String}

def argumentRequest (argument : String) : SearchRequest :=
  (SearchRequest.withExtra {} filterArgument argument).withQuery (.text "*")

def operandRequest (text : String) : SearchRequest :=
  SearchRequest.withQuery {} (.text (operationText "AND" "*" text))

/-- What is composed of the two requests admits the same documents of the core, and asks the same of
every other, and for all there is in the results core. -/
def RestrictAlike (translator : Translator) (core : String) (first second : SearchRequest) : Prop :=
  ∃ one other, translator.compose first = .ok one ∧ translator.compose second = .ok other ∧
    one.query.bundleOf translator.config.resultsCore =
      { core := translator.config.resultsCore, query := some .matchAll } ∧
    (∀ target, target ≠ core → one.query.bundleOf target = other.query.bundleOf target) ∧
    ∀ document, Expression.allMatchedBy document (one.query.filtersFor core) =
      Expression.allMatchedBy document (other.query.filtersFor core)

section Operand

variable {text : String} {query : Expression} (parsed : parse text = .ok query)
  (spoken : ∀ leaf ∈ query.clauses, leaf.core? = some core)

include parsed

theorem read_operandRequest (cql : translator.parser = parseQuery) :
    (operandRequest text).query.read translator.parser =
      .ok (Connective.and.join .matchAll query) := by
  rw [cql]
  have spelled : asciiLowerCase "AND" = Connective.and.name := by decide
  have whole := parse_operationText spelled (show parse "*" = .ok .matchAll from rfl) parsed
  change parseQuery (operationText "AND" "*" text) = _
  unfold parseQuery
  rw [whole]

theorem conjuncts_operandRequest :
    (Connective.and.join .matchAll query).conjuncts = .matchAll :: query.conjuncts :=
  conjuncts_join_and (isCanonical_of_parse (show parse "*" = .ok .matchAll from rfl))
    (isCanonical_of_parse parsed)

include spoken

variable (isOther : core ≠ translator.config.resultsCore)
  (configured : translator.config.cores.contains core = true)

include isOther configured

theorem filterMap_ownedBy (target : String) :
    (Connective.and.join .matchAll query).conjuncts.filterMap (translator.ownedBy target) =
      if target = core then (query.mapIndexes (unqualifiedIndex core)).conjuncts else [] := by
  have owner := (isCanonical_of_parse parsed).owner? spoken isOther configured
  have ofMatchAll : translator.ownedBy target .matchAll = none := rfl
  rw [conjuncts_operandRequest parsed, List.filterMap_cons_none ofMatchAll,
    Expression.conjuncts_mapIndexes]
  split
  next isCore =>
    subst isCore
    rw [← List.filterMap_eq_map]
    refine List.filterMap_congr fun operand member => ?_
    rw [ownedBy, if_pos (owner operand member)]
    rfl
  next isNot =>
    rw [List.filterMap_eq_nil_iff]
    intro operand member
    rw [ownedBy, owner operand member, if_neg]
    exact fun same => isNot (Option.some.inj same).symm

theorem operandsKept_operandRequest :
    Extraction.operandsKept translator.config.cores translator.config.resultsCore
      (Connective.and.join .matchAll query).conjuncts = [.matchAll] := by
  have owner := (isCanonical_of_parse parsed).owner? spoken isOther configured
  have none : Extraction.operandsKept translator.config.cores translator.config.resultsCore
      query.conjuncts = [] := by
    unfold Extraction.operandsKept
    rw [List.filter_eq_nil_iff]
    intro operand member
    simp [owner operand member]
  rw [conjuncts_operandRequest parsed]
  unfold Extraction.operandsKept at none ⊢
  rw [List.filter_cons, none]
  rfl

theorem bundleFor_operandRequest (target : String) :
    translator.bundleFor (operandRequest text) (Connective.and.join .matchAll query) target =
      { core := target
        query := if target = translator.config.resultsCore then some .matchAll else none
        filters :=
          if target = core then (query.mapIndexes (unqualifiedIndex core)).conjuncts else [] } := by
  have noExtra (name : String) : (operandRequest text).extra name = [] := rfl
  unfold bundleFor
  rw [filterMap_ownedBy parsed spoken isOther configured,
    operandsKept_operandRequest parsed spoken isOther configured, noExtra, noExtra,
    List.filterMap_nil, List.append_nil]
  simp only [operandRequest, SearchRequest.withQuery, List.filterMap_nil, List.append_nil]
  rfl

end Operand

section Argument

variable {argument : String} {about : String} {plain : Expression}
  (isRead : translator.readFor argument = .ok (about, plain))

include isRead

theorem readRest_argument :
    translator.readRest (SearchRequest.withExtra {} filterArgument argument) =
      .ok ⟨[(about, plain)], [], [], []⟩ := by
  have argued : [argument].mapM translator.readFor = .ok [(about, plain)] :=
    mapM_ok_iff.mpr (.cons isRead .nil)
  change ([argument].mapM translator.readFor >>= _) = _
  rw [argued]
  rfl

theorem bundleFor_argumentRequest (target : String) :
    translator.bundleFor (argumentRequest argument) .matchAll target =
      { core := target
        query := if target = translator.config.resultsCore then some .matchAll else none
        filters := if target = about then [plain] else [] } := by
  have argued : (argumentRequest argument).extra filterArgument = [argument] := rfl
  have notRanked : (argumentRequest argument).extra rankArgument = [] := rfl
  have ofArgument : [argument].filterMap (translator.argumentFor target) =
      if target = about then [plain] else [] := by
    rw [argumentFor, List.filterMap_cons, valueFor_of_ok _ _ _ isRead]
    by_cases same : target = about
    · simp [same]
    · simp [same, Ne.symm same]
  unfold bundleFor
  rw [argued, notRanked, ofArgument]
  simp only [argumentRequest, SearchRequest.withQuery, SearchRequest.withExtra, List.filterMap_nil,
    List.append_nil]
  rfl

end Argument

theorem readFor_of_compose {argument : String} {translated : TranslatedRequest}
    (composed : translator.compose (argumentRequest argument) = .ok translated) :
    ∃ about plain, translator.readFor argument = .ok (about, plain) := by
  obtain ⟨_, _, composes⟩ := exists_composes composed
  obtain ⟨argued, areArgued, -⟩ := bind_ok_iff.mp composes.reads.filters
  have member : argument ∈ (argumentRequest argument).extra filterArgument :=
    List.mem_singleton.mpr rfl
  obtain ⟨⟨about, plain⟩, -, isRead⟩ := exists_ok_of_mapM areArgued member
  exact ⟨about, plain, isRead⟩

theorem read_argumentRequest (cql : translator.parser = parseQuery) (argument : String) :
    (argumentRequest argument).query.read translator.parser = .ok .matchAll := by
  rw [cql]
  rfl

theorem bundleOf_argumentRequest {argument about : String} {plain : Expression}
    {translated : TranslatedRequest} (cql : translator.parser = parseQuery)
    (isRead : translator.readFor argument = .ok (about, plain))
    (composed : translator.compose (argumentRequest argument) = .ok translated) (target : String) :
    translated.query.bundleOf target =
      { core := target
        query := if target = translator.config.resultsCore then some .matchAll else none
        filters := if target = about then [plain] else [] } := by
  obtain ⟨_, _, composes⟩ := exists_composes composed
  obtain rfl :=
    Except.ok.inj ((read_argumentRequest cql argument).symm.trans composes.reads.isQuery)
  rw [composes.bundleOf, bundleFor_argumentRequest isRead]

/-- The argument admits what the query admits that it is read as. -/
theorem allMatchedBy_argumentRequest {argument : String} {plain : Expression}
    {translated : TranslatedRequest} (cql : translator.parser = parseQuery)
    (isRead : translator.readFor argument = .ok (core, plain))
    (composed : translator.compose (argumentRequest argument) = .ok translated)
    (document : Document) :
    Expression.allMatchedBy document (translated.query.filtersFor core) =
      plain.matchedBy document := by
  rw [ComposedQuery.filtersFor_eq, bundleOf_argumentRequest cql isRead composed, if_pos rfl,
    Expression.allMatchedBy_singleton]

section Both

variable {text argument : String} {query : Expression} {target : String}
  (valid : translator.config.validate = .ok ()) (isOther : core ≠ translator.config.resultsCore)
  (configured : translator.config.cores.contains core = true) (parsed : parse text = .ok query)
  (spoken : ∀ leaf ∈ query.clauses, leaf.core? = some core)

theorem touched_argumentRequest (plain : Expression)
    (isNot : target ≠ translator.config.resultsCore) :
    target ∈ translator.touched (argumentRequest argument)
      (RequestRest.readWithQuery translator ⟨[(core, plain)], [], [], []⟩ .matchAll) ↔
      target = core := by
  have noOperand : (Expression.matchAll.conjuncts).filterMap (translator.ownedBy target) = [] := rfl
  rw [mem_touched_iff isNot, noOperand]
  simp [RequestRest.touched, argumentRequest, SearchRequest.withQuery, SearchRequest.withExtra]

include isOther configured parsed spoken

theorem touched_operandRequest (isNot : target ≠ translator.config.resultsCore) :
    target ∈ translator.touched (operandRequest text)
      (RequestRest.readWithQuery translator ⟨[], [], [], []⟩
        (Connective.and.join .matchAll query)) ↔ target = core := by
  obtain ⟨_, _, isCons, -⟩ := (isCanonical_of_parse parsed).conjuncts
  rw [mem_touched_iff isNot, filterMap_ownedBy parsed spoken isOther configured,
    Expression.conjuncts_mapIndexes, isCons]
  simp [RequestRest.touched, operandRequest, SearchRequest.withQuery]

theorem bundleOf_operandRequest {translated : TranslatedRequest}
    (cql : translator.parser = parseQuery)
    (composed : translator.compose (operandRequest text) = .ok translated) (target : String) :
    translated.query.bundleOf target =
      { core := target
        query := if target = translator.config.resultsCore then some .matchAll else none
        filters :=
          if target = core then (query.mapIndexes (unqualifiedIndex core)).conjuncts else [] } := by
  obtain ⟨_, _, composes⟩ := exists_composes composed
  obtain rfl := Except.ok.inj ((read_operandRequest parsed cql).symm.trans composes.reads.isQuery)
  rw [composes.bundleOf, bundleFor_operandRequest parsed spoken isOther configured]

/-- The operands admit what the text admits without the core before its names. -/
theorem allMatchedBy_operandRequest {translated : TranslatedRequest}
    (cql : translator.parser = parseQuery)
    (composed : translator.compose (operandRequest text) = .ok translated) (document : Document) :
    Expression.allMatchedBy document (translated.query.filtersFor core) =
      (query.mapIndexes (unqualifiedIndex core)).matchedBy document := by
  rw [ComposedQuery.filtersFor_eq,
    bundleOf_operandRequest isOther configured parsed spoken cql composed, if_pos rfl,
    Expression.allMatchedBy_parts]

omit spoken in
/-- A text of one name and one term is read for the core as the operand it is. -/
theorem readFor_equation (cql : translator.parser = parseQuery) (pointless : '.' ∉ core.toList)
    {field term : String} (isText : text = qualifiedIndex core field ++ "=" ++ term)
    (isCore : IsWord core.toList) (isField : IsWord field.toList) (isTerm : IsWord term.toList) :
    translator.readFor text = .ok (core, query.mapIndexes (unqualifiedIndex core)) := by
  obtain rfl := isText
  have isName : IsWord (qualifiedIndex core field).toList := by
    refine ⟨by simp [qualifiedIndex], fun c member => ?_⟩
    simp only [qualifiedIndex, String.toList_append, List.mem_append] at member
    rcases member with (inCore | isPoint) | inField
    · exact isCore.2 c inCore
    · obtain rfl : c = '.' := by simpa using isPoint
      decide
    · exact isField.2 c inField
  obtain rfl := Except.ok.inj ((parse_equation isName isTerm).symm.trans parsed)
  rw [readFor_qualified pointless isOther configured cql isField isTerm]
  simp [Expression.ofField, Expression.mapIndexes, Clause.mapIndex, Clause.related,
    unqualifiedIndex_qualified]

omit isOther configured in
theorem not_mem_of_spoken : '.' ∉ core.toList := by
  obtain ⟨leaf, member⟩ := List.exists_mem_of_ne_nil _ (isCanonical_of_parse parsed).clauses_ne_nil
  obtain ⟨index, -, isCore⟩ := Option.bind_eq_some_iff.mp (spoken leaf member)
  obtain ⟨⟨before, rest⟩, cut, rfl⟩ := Option.map_eq_some_iff.mp isCore
  intro pointed
  refine not_infix_of_cutChars (by decide) (cutAt?_eq_some_iff.mp cut) ?_
  exact (singleton_infix_iff.mpr pointed).trans (List.prefix_append _ _).isInfix

include valid

variable (cql : translator.parser = parseQuery)

include cql

/-- Where the argument is read for the core, the two requests are accepted or refused alike. -/
theorem exists_built_both {plain : Expression}
    (isRead : translator.readFor argument = .ok (core, plain)) :
    ∃ one other oneRead otherRead,
      translator.build (argumentRequest argument) = .ok one ∧
      translator.build (operandRequest text) = .ok other ∧
      translator.Composes (argumentRequest argument) .matchAll oneRead one ∧
      translator.Composes (operandRequest text) (Connective.and.join .matchAll query) otherRead
        other ∧
      one.query.validate = other.query.validate ∧
      (other.query.validate = .ok () ↔
        translator.config.Matches translator.config.resultsCore core) := by
  obtain ⟨start, started, -⟩ := exists_start valid
  have noRest : translator.readRest {} = .ok ⟨[], [], [], []⟩ := rfl
  obtain ⟨one, oneBuilt, oneComposes, oneOutline, -⟩ := exists_built_with started
    (readRest_argument isRead) (read_argumentRequest cql argument)
  obtain ⟨other, otherBuilt, otherComposes, otherOutline, -⟩ :=
    exists_built_with started noRest (read_operandRequest parsed cql)
  have ofOperand : ∀ target, target ≠ translator.config.resultsCore → (_ ↔ target = core) :=
    fun target isNot => touched_operandRequest isOther configured parsed spoken isNot
  refine ⟨one, other, _, _, oneBuilt, otherBuilt, oneComposes, otherComposes, ?_, ?_⟩
  · refine (sameCores_of_touched (fun target isNot => ?_) started oneComposes.isSet
      otherComposes.isSet oneOutline otherOutline).validate
    exact (touched_argumentRequest plain isNot).trans (ofOperand target isNot).symm
  · obtain ⟨built, isBuilt, valid_iff⟩ :=
      build_of_read valid (read_ok_iff.mpr ⟨_, otherComposes.reads⟩)
    obtain rfl := Except.ok.inj (isBuilt.symm.trans otherBuilt)
    rw [valid_iff]
    constructor
    · intro alone
      exact (alone core ((ofOperand core isOther).mpr rfl) isOther).1
    · intro matched target touched isNot
      obtain rfl := (ofOperand target isNot).mp touched
      exact ⟨matched, fun another also anotherNot => (ofOperand another anotherNot).mp also⟩

theorem matches_of_restrictAlike
    (alike : translator.RestrictAlike core (argumentRequest argument) (operandRequest text)) :
    translator.config.Matches translator.config.resultsCore core ∧
      ∃ plain, translator.readFor argument = .ok (core, plain) ∧ ∀ document,
        plain.matchedBy document =
          (query.mapIndexes (unqualifiedIndex core)).matchedBy document := by
  obtain ⟨one, other, isOne, isOperand, -, elsewhere, same⟩ := alike
  obtain ⟨about, plain, isRead⟩ := readFor_of_compose isOne
  have ofOne := bundleOf_argumentRequest cql isRead isOne
  have ofOther := bundleOf_operandRequest isOther configured parsed spoken cql isOperand
  obtain rfl : about = core := by
    by_contra different
    have filters := congrArg Bundle.filters (elsewhere about different)
    rw [ofOne, ofOther] at filters
    simp [different] at filters
  obtain ⟨_, built, _, _, -, otherBuilt, -, -, -, valid_iff⟩ :=
    exists_built_both valid isOther configured parsed spoken cql isRead
  obtain ⟨isBuilt, isValid⟩ := build_of_compose isOperand
  obtain rfl := Except.ok.inj (isBuilt.symm.trans otherBuilt)
  refine ⟨valid_iff.mp isValid, plain, isRead, fun document => ?_⟩
  rw [← allMatchedBy_argumentRequest cql isRead isOne, same,
    allMatchedBy_operandRequest isOther configured parsed spoken cql isOperand]

theorem exists_composed_both {plain : Expression}
    (matched : translator.config.Matches translator.config.resultsCore core)
    (isRead : translator.readFor argument = .ok (core, plain)) :
    ∃ one other, translator.compose (argumentRequest argument) = .ok one ∧
      translator.compose (operandRequest text) = .ok other := by
  obtain ⟨one, other, _, _, oneBuilt, otherBuilt, -, -, alike, valid_iff⟩ :=
    exists_built_both valid isOther configured parsed spoken cql isRead
  have isOne := compose_of_built oneBuilt
  have isOperand := compose_of_built otherBuilt
  rw [alike, valid_iff.mpr matched] at isOne
  rw [valid_iff.mpr matched] at isOperand
  exact ⟨one, other, isOne, isOperand⟩

theorem restrictAlike_of_readFor {plain : Expression}
    (matched : translator.config.Matches translator.config.resultsCore core)
    (isRead : translator.readFor argument = .ok (core, plain))
    (same : ∀ document, plain.matchedBy document =
      (query.mapIndexes (unqualifiedIndex core)).matchedBy document) :
    translator.RestrictAlike core (argumentRequest argument) (operandRequest text) := by
  obtain ⟨one, other, isOne, isOperand⟩ :=
    exists_composed_both valid isOther configured parsed spoken cql matched isRead
  have ofOne := bundleOf_argumentRequest cql isRead isOne
  have ofOther := bundleOf_operandRequest isOther configured parsed spoken cql isOperand
  refine ⟨one, other, isOne, isOperand, ?_, fun target isNot => ?_, fun document => ?_⟩
  · rw [ofOne]
    simp [isOther.symm]
  · rw [ofOne, ofOther]
    simp [isNot]
  · rw [allMatchedBy_argumentRequest cql isRead isOne, same,
      allMatchedBy_operandRequest isOther configured parsed spoken cql isOperand]

theorem refused_both_of_unmatched {plain : Expression}
    (isRead : translator.readFor argument = .ok (core, plain))
    (unmatched : ¬translator.config.Matches translator.config.resultsCore core) :
    ∃ failure, translator.compose (argumentRequest argument) = .error failure ∧
      translator.compose (operandRequest text) = .error failure := by
  obtain ⟨one, other, _, _, oneBuilt, otherBuilt, -, -, alike, valid_iff⟩ :=
    exists_built_both valid isOther configured parsed spoken cql isRead
  have isOne := compose_of_built oneBuilt
  have isOperand := compose_of_built otherBuilt
  rw [alike] at isOne
  cases verdict : other.query.validate with
  | ok _ => exact absurd (valid_iff.mp verdict) unmatched
  | error failure =>
      rw [verdict] at isOne isOperand
      exact ⟨failure, isOne, isOperand⟩

/-- The two ways of restricting the core agree exactly if the core is matched with the results core
and the argument is read for it, as a query that admits what the operands without its name admit. So
they do for an argument in which the name stands once, before a text for those, and for a text of
one name and one term that is given as argument itself. Cores that are not matched are refused in
either way. -/
theorem restrictAlike_iff :
    (translator.RestrictAlike core (argumentRequest argument) (operandRequest text) ↔
      translator.config.Matches translator.config.resultsCore core ∧
      ∃ plain, translator.readFor argument = .ok (core, plain) ∧ ∀ document,
        plain.matchedBy document =
          (query.mapIndexes (unqualifiedIndex core)).matchedBy document) ∧
    (∀ rest plain, parse rest = .ok plain →
      translator.readFor (qualifiedIndex core rest) = .ok (core, plain)) ∧
    (∀ field term, text = qualifiedIndex core field ++ "=" ++ term → IsWord core.toList →
      IsWord field.toList → IsWord term.toList →
      translator.readFor text = .ok (core, query.mapIndexes (unqualifiedIndex core))) ∧
    (∀ plain, translator.readFor argument = .ok (core, plain) →
      ¬translator.config.Matches translator.config.resultsCore core → ∃ failure,
        translator.compose (argumentRequest argument) = .error failure ∧
        translator.compose (operandRequest text) = .error failure) := by
  have pointless : '.' ∉ core.toList := not_mem_of_spoken parsed spoken
  refine ⟨⟨?agree, ?same⟩, ?once, ?single, ?refused⟩
  case agree => exact matches_of_restrictAlike valid isOther configured parsed spoken cql
  case same =>
      rintro ⟨matched, plain, isRead, same⟩
      exact restrictAlike_of_readFor valid isOther configured parsed spoken cql matched isRead same
  case once =>
      intro rest plain isRead
      rw [readFor_ok_iff, resolve_qualified pointless isOther configured, cql, parseQuery, isRead]
      exact ⟨rfl, rfl⟩
  case single =>
      intro field term
      exact readFor_equation isOther configured parsed cql pointless
  case refused =>
      intro plain isRead unmatched
      exact refused_both_of_unmatched valid isOther configured parsed spoken cql isRead unmatched

end Both

def dutchNames : Expression :=
  .all [.ofField "B.from" "NL", .ofField "B.name" "x"]

theorem library_restrictAlike :
    libraryTranslator.parser = parseQuery ∧ libraryTranslator.config.validate = .ok () ∧
    "B" ≠ libraryTranslator.config.resultsCore ∧
    libraryTranslator.config.cores.contains "B" = true ∧
    parse "B.from=NL and B.name=x" = .ok dutchNames ∧
    (∀ leaf ∈ dutchNames.clauses, leaf.core? = some "B") ∧
    libraryTranslator.RestrictAlike "B" (argumentRequest "B.from=NL and name=x")
      (operandRequest "B.from=NL and B.name=x") := by
  have valid : libraryTranslator.config.validate = .ok () := by rfl
  have isOther : "B" ≠ libraryTranslator.config.resultsCore := by decide
  have configured : libraryTranslator.config.cores.contains "B" = true := by decide
  have parsed : parse "B.from=NL and B.name=x" = .ok dutchNames := by rfl
  have spoken : ∀ leaf ∈ dutchNames.clauses, leaf.core? = some "B" := by decide
  have read : libraryTranslator.readFor "B.from=NL and name=x" =
      .ok ("B", dutchNames.mapIndexes (unqualifiedIndex "B")) := by rfl
  refine ⟨rfl, valid, isOther, configured, parsed, spoken, ?_⟩
  refine (restrictAlike_iff valid isOther configured parsed spoken rfl).1.mpr ⟨?_, _, read, ?_⟩
  · exact ⟨_, List.mem_singleton.mpr rfl, Or.inl rfl⟩
  · exact fun _ => rfl

/-- An argument with the name of the core before two names speaks of an author's field `B.name`,
which no author has. -/
theorem library_restrictApart :
    libraryTranslator.config.validate = .ok () ∧ "B" ≠ libraryTranslator.config.resultsCore ∧
    libraryTranslator.config.cores.contains "B" = true ∧
    parse "B.from=NL and B.name=x" = .ok dutchNames ∧
    (∀ leaf ∈ dutchNames.clauses, leaf.core? = some "B") ∧
    (∃ one other, libraryTranslator.compose (argumentRequest "B.from=NL and B.name=x") = .ok one ∧
      libraryTranslator.compose (operandRequest "B.from=NL and B.name=x") = .ok other ∧
      ∃ author ∈ (library "B").documents,
        Expression.allMatchedBy author (one.query.filtersFor "B") = .ok false ∧
        Expression.allMatchedBy author (other.query.filtersFor "B") = .ok true) ∧
    ¬libraryTranslator.RestrictAlike "B" (argumentRequest "B.from=NL and B.name=x")
      (operandRequest "B.from=NL and B.name=x") := by
  have valid : libraryTranslator.config.validate = .ok () := by rfl
  have isOther : "B" ≠ libraryTranslator.config.resultsCore := by decide
  have configured : libraryTranslator.config.cores.contains "B" = true := by decide
  have parsed : parse "B.from=NL and B.name=x" = .ok dutchNames := by rfl
  have spoken : ∀ leaf ∈ dutchNames.clauses, leaf.core? = some "B" := by decide
  have read : libraryTranslator.readFor "B.from=NL and B.name=x" =
      .ok ("B", .all [.ofField "from" "NL", .ofField "B.name" "x"]) := by rfl
  have matched : libraryTranslator.config.Matches libraryTranslator.config.resultsCore "B" :=
    ⟨_, List.mem_singleton.mpr rfl, Or.inl rfl⟩
  obtain ⟨one, other, argued, asked⟩ :=
    exists_composed_both valid isOther configured parsed spoken rfl matched read
  have refused (author : Document) :
      Expression.allMatchedBy author (one.query.filtersFor "B") =
        (Expression.all [.ofField "from" "NL", .ofField "B.name" "x"]).matchedBy author :=
    allMatchedBy_argumentRequest rfl read argued author
  have admitted (author : Document) :
      Expression.allMatchedBy author (other.query.filtersFor "B") =
        (dutchNames.mapIndexes (unqualifiedIndex "B")).matchedBy author :=
    allMatchedBy_operandRequest isOther configured parsed spoken rfl asked author
  have differ : ∃ author ∈ (library "B").documents,
      Expression.allMatchedBy author (one.query.filtersFor "B") = .ok false ∧
      Expression.allMatchedBy author (other.query.filtersFor "B") = .ok true := by
    refine ⟨_, List.mem_cons_self, ?_, ?_⟩
    · rw [refused]
      rfl
    · rw [admitted]
      rfl
  refine ⟨valid, isOther, configured, parsed, spoken, ⟨one, other, argued, asked, differ⟩, ?_⟩
  rintro ⟨_, _, isOne, isOperand, -, -, same⟩
  obtain ⟨author, -, no, yes⟩ := differ
  obtain rfl := Except.ok.inj (isOne.symm.trans argued)
  obtain rfl := Except.ok.inj (isOperand.symm.trans asked)
  rw [same author, yes] at no
  cases no

end Translator

end FederatedSearch
