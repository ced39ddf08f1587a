import FederatedSearch.Proofs.AcceptedRequests
import FederatedSearch.Proofs.WrittenQueries
import FederatedSearch.Proofs.TextCuts

/-! Names with a core before them. The name is cut at its first point, so a core whose own name
holds one is never found; and a facet is cut into its path before that. -/

namespace FederatedSearch

theorem singleton_infix_iff {c : Char} {text : List Char} : [c] <:+: text ↔ c ∈ text := by
  constructor
  · rintro ⟨before, after, rfl⟩
    simp
  · intro member
    obtain ⟨before, after, rfl⟩ := List.append_of_mem member
    exact ⟨before, after, by simp⟩

theorem piecesOfChars_of_not_mem {separator : Char} {text : List Char} (absent : separator ∉ text) :
    piecesOfChars separator text = [text] := by
  induction text with
  | nil => rfl
  | cons c rest ih =>
      rw [List.mem_cons, not_or] at absent
      rw [piecesOfChars, if_neg (Ne.symm absent.1), ih absent.2]

theorem pieces_of_not_mem {separator : Char} {text : String} (absent : separator ∉ text.toList) :
    pieces separator text = (text, []) := by
  simp [pieces, piecesOfChars_of_not_mem absent]

/-- The first piece of a text ends where the separator stands first. -/
theorem exists_piecesOfChars_append {separator : Char} {before : List Char}
    (present : separator ∈ before) (after : List Char) :
    ∃ first others, piecesOfChars separator (before ++ after) = first :: others ∧
      first <+: before := by
  induction before with
  | nil => cases present
  | cons c rest ih =>
      rw [List.cons_append, piecesOfChars]
      by_cases here : c = separator
      · rw [if_pos here]
        exact ⟨[], _, rfl, List.nil_prefix⟩
      · have later : separator ∈ rest := (List.mem_cons.mp present).resolve_left (Ne.symm here)
        obtain ⟨first, others, cut, starts⟩ := ih later
        rw [if_neg here, cut]
        exact ⟨c :: first, others, rfl, List.cons_prefix_cons.mpr ⟨rfl, starts⟩⟩

theorem pieces_append {separator : Char} {before : String} (present : separator ∈ before.toList)
    (after : String) : (pieces separator (before ++ after)).1.toList <+: before.toList := by
  obtain ⟨first, others, cut, starts⟩ := exists_piecesOfChars_append present after.toList
  unfold pieces
  rw [String.toList_append, cut]
  simpa using starts

theorem parse_equation {field term : String} (isField : IsWord field.toList)
    (isTerm : IsWord term.toList) :
    parse (field ++ "=" ++ term) = .ok (.ofField field term) := by
  have fieldEnds : ∀ c ∈ ("=".toList ++ term.toList).head?, endsWord c = true := by
    intro c isFirst
    obtain rfl : '=' = c := by simpa using isFirst
    decide
  have termApart : ∀ c ∈ term.toList.head?, c ≠ '=' ∧ c ≠ '>' := by
    intro c isFirst
    exact not_mark_of_not_endsWord (isTerm.2 c (List.mem_of_mem_head? isFirst))
  have onlyTerm : tokens? term.toList = some [.word term] := by
    have read : tokens? (term.toList ++ []) = _ := tokens?_word isTerm (by simp)
    simpa [tokens?_nil] using read
  have tokens : tokens? (field ++ "=" ++ term).toList =
      some [.word field, .relation "=", .word term] := by
    rw [String.toList_append, String.toList_append, List.append_assoc,
      tokens?_word isField fieldEnds, tokens?_marks (by decide) termApart, onlyTerm]
    simp
  rw [parse_ok_iff]
  exact ⟨_, tokens, by simp, rfl⟩

namespace Translator

variable {translator : Translator} {core : String}

theorem cutAt?_qualified (plain : '.' ∉ core.toList) (rest : String) :
    cutAt? "." (qualifiedIndex core rest) = some (core, rest) := by
  refine cutAt?_append rfl (by simp) ?_
  exact mt singleton_infix_iff.mp plain

/-- The names of the core are cut where they were joined. -/
theorem resolve_qualified (plain : '.' ∉ core.toList) (other : core ≠ translator.config.resultsCore)
    (configured : translator.config.cores.contains core = true) (rest : String) :
    translator.resolve (qualifiedIndex core rest) = (core, rest) := by
  simp [resolve, cutAt?_qualified plain, other, configured]

/-- No name is taken to speak of a core that has a point in its own. -/
theorem resolve_ne_of_pointed (pointed : '.' ∈ core.toList)
    (other : core ≠ translator.config.resultsCore) (name : String) :
    (translator.resolve name).1 ≠ core := by
  unfold resolve
  split
  · exact other.symm
  next first rest cut =>
    dsimp only
    split
    · rintro rfl
      refine not_infix_of_cutChars (by decide) (cutAt?_eq_some_iff.mp cut) ?_
      exact (singleton_infix_iff.mpr pointed).trans (List.prefix_append _ _).isInfix
    · exact other.symm

/-- Names `core.field` speak of the core wherever a request may hold one: what such a name asks is
asked of this core, under the name of the field alone, and of no other core. -/
structure Reaches (translator : Translator) (core field : String) : Prop where
  sortKey : ∀ {request translated before descending after},
    request.sortKeys = before ++ ⟨qualifiedIndex core field, descending⟩ :: after →
    translator.compose request = .ok translated →
    translated.query.options.sortKeys =
      before.map translator.sortKey ++ ⟨core, field, descending⟩ :: after.map translator.sortKey
  facet : ∀ {request translated before maxTerms sort after},
    request.facets = before ++ ⟨qualifiedIndex core field, maxTerms, sort⟩ :: after →
    translator.compose request = .ok translated → ∀ target,
    translated.query.facetsFor target = before.filterMap (translator.facetFor target) ++
      (if target = core then
        [⟨translator.localName field, [], maxTerms, sort.map fun _ => .count⟩] else []) ++
      after.filterMap (translator.facetFor target)
  drilldown : ∀ {request translated before path after},
    request.drilldowns = before ++ (qualifiedIndex core field, path) :: after →
    translator.compose request = .ok translated → ∀ target,
    translated.query.drilldownsFor target = before.filterMap (translator.drilldownFor target) ++
      (if target = core then [⟨translator.localName field, path⟩] else []) ++
      after.filterMap (translator.drilldownFor target)
  filter : ∀ {request query translated before term after}, IsWord term.toList →
    request.extra filterArgument = before ++ (qualifiedIndex core field ++ "=" ++ term) :: after →
    request.query.read translator.parser = .ok query →
    translator.compose request = .ok translated → ∀ target,
    translated.query.filtersFor target = query.conjuncts.filterMap (translator.ownedBy target) ++
      (before.filterMap (translator.argumentFor target) ++
        (if target = core then [.ofField field term] else []) ++
        after.filterMap (translator.argumentFor target)) ++
      request.filters.filterMap (translator.givenFor target)
  rankQuery : ∀ {request translated before term after}, IsWord term.toList →
    request.extra rankArgument = before ++ (qualifiedIndex core field ++ "=" ++ term) :: after →
    translator.compose request = .ok translated → ∀ target,
    translated.query.rankQueryFor target =
      Expression.anyOf (before.filterMap (translator.argumentFor target) ++
        (if target = core then [.ofField field term] else []) ++
        after.filterMap (translator.argumentFor target))
  clause : ∀ {request query translated before relation term after},
    request.query.read translator.parser = .ok query →
    query.conjuncts =
      before ++ .clause ⟨some (qualifiedIndex core field), relation, term⟩ :: after →
    translator.compose request = .ok translated →
    (∀ target, translated.query.filtersFor target =
      (before.filterMap (translator.ownedBy target) ++
        (if target = core then [.clause ⟨some field, relation, term⟩] else []) ++
        after.filterMap (translator.ownedBy target)) ++
      (request.extra filterArgument).filterMap (translator.argumentFor target) ++
      request.filters.filterMap (translator.givenFor target)) ∧
    ∀ target, translated.query.queryFor target =
      if target = translator.config.resultsCore then
        Expression.allOf (Extraction.operandsKept translator.config.cores
          translator.config.resultsCore (before ++ after))
      else none

/-! Cores whose names are found -/

theorem filterMap_around {α β : Type} (choose : α → Option β) (before : List α) (item : α)
    (after : List α) : (before ++ item :: after).filterMap choose =
      before.filterMap choose ++ (choose item).toList ++ after.filterMap choose := by
  rw [List.filterMap_append, List.filterMap_cons]
  cases choose item <;> simp

theorem pieces_qualified {field : String} (noPath : '>' ∉ core.toList)
    (isWord : IsWord field.toList) :
    pieces '>' (qualifiedIndex core field) = (qualifiedIndex core field, []) := by
  refine pieces_of_not_mem ?_
  have notInField : '>' ∉ field.toList := by
    intro member
    have isDark := isWord.2 _ member
    revert isDark
    decide
  simp [qualifiedIndex, noPath, notInField]

theorem unqualifiedIndex_qualified (core field : String) :
    unqualifiedIndex core (qualifiedIndex core field) = field := by
  have dropped : dropStart? (core ++ ".") (qualifiedIndex core field) = some field := by
    rw [dropStart?_eq_some_iff]
    rfl
  rw [unqualifiedIndex, dropped]
  rfl

theorem toList_ite {α : Type} (target : String) (value : α) :
    (if core = target then some value else none).toList =
      if target = core then [value] else [] := by
  by_cases same : core = target
  · simp [same]
  · simp [same, Ne.symm same]

section Found

variable {field : String} (plain : '.' ∉ core.toList) (other : core ≠ translator.config.resultsCore)
  (configured : translator.config.cores.contains core = true)

include plain other configured

theorem routeFacet_qualified (noPath : '>' ∉ core.toList) (isWord : IsWord field.toList)
    {maxTerms : Nat} {sort : Option String} {routed : RoutedFacet}
    (found : translator.routeFacet ⟨qualifiedIndex core field, maxTerms, sort⟩ = .ok routed) :
    routed.core = core ∧
      routed.request = ⟨translator.localName field, [], maxTerms, sort.map fun _ => .count⟩ := by
  unfold routeFacet at found
  rw [pieces_qualified noPath isWord] at found
  simp only [resolve_qualified plain other configured, bind_ok_iff] at found
  obtain ⟨sorted, isSorted, same⟩ := found
  obtain rfl := Except.ok.inj same
  refine ⟨rfl, ?_⟩
  have onlySort : sorted = sort.map fun _ => .count := by
    cases sort with
    | none => exact (Except.ok.inj isSorted).symm
    | some name =>
        obtain ⟨read, -, isRead⟩ := map_ok_iff.mp isSorted
        cases read
        exact isRead.symm
  rw [onlySort]

theorem facetFor_qualified (noPath : '>' ∉ core.toList) (isWord : IsWord field.toList)
    {maxTerms : Nat} {sort : Option String} {routed : RoutedFacet}
    (found : translator.routeFacet ⟨qualifiedIndex core field, maxTerms, sort⟩ = .ok routed)
    (target : String) :
    (translator.facetFor target ⟨qualifiedIndex core field, maxTerms, sort⟩).toList =
      if target = core then
        [⟨translator.localName field, [], maxTerms, sort.map fun _ => .count⟩] else [] := by
  obtain ⟨isCore, isRequest⟩ := routeFacet_qualified plain other configured noPath isWord found
  rw [facetFor, valueFor_of_ok _ _ _ found, isCore, isRequest, toList_ite]

theorem drilldownFor_qualified (path : List String) (target : String) :
    (translator.drilldownFor target (qualifiedIndex core field, path)).toList =
      if target = core then [⟨translator.localName field, path⟩] else [] := by
  rw [drilldownFor, routeDrilldown, resolve_qualified plain other configured]
  exact toList_ite target _

theorem readFor_qualified (cql : translator.parser = parseQuery) (isWord : IsWord field.toList)
    {term : String} (isTerm : IsWord term.toList) :
    translator.readFor (qualifiedIndex core field ++ "=" ++ term) =
      .ok (core, .ofField field term) := by
  have text : qualifiedIndex core field ++ "=" ++ term =
      qualifiedIndex core (field ++ "=" ++ term) := by
    simp [qualifiedIndex, String.append_assoc]
  rw [text, readFor, resolve_qualified plain other configured]
  simp only [cql, parseQuery, parse_equation isWord isTerm]
  rfl

theorem argumentFor_qualified (cql : translator.parser = parseQuery)
    (isWord : IsWord field.toList) {term : String} (isTerm : IsWord term.toList)
    (target : String) :
    (translator.argumentFor target (qualifiedIndex core field ++ "=" ++ term)).toList =
      if target = core then [.ofField field term] else [] := by
  have read := readFor_qualified plain other configured cql isWord isTerm
  rw [argumentFor, valueFor_of_ok _ _ _ read, toList_ite]

theorem owner?_qualified (relation : Option String) (term : String) :
    (Expression.clause ⟨some (qualifiedIndex core field), relation, term⟩).owner?
      translator.config.cores translator.config.resultsCore = some core := by
  simp [Expression.owner?, Expression.spokenOf?, Expression.clauses, Clause.core?, coreOfIndex?,
    cutAt?_qualified plain, other, configured]

theorem ownedBy_qualified (relation : Option String) (term : String) (target : String) :
    (translator.ownedBy target
      (.clause ⟨some (qualifiedIndex core field), relation, term⟩)).toList =
      if target = core then [.clause ⟨some field, relation, term⟩] else [] := by
  rw [ownedBy, owner?_qualified plain other configured]
  by_cases same : core = target
  · subst same
    simp [Expression.mapIndexes, Clause.mapIndex, unqualifiedIndex_qualified]
  · simp [same, Ne.symm same]

theorem reaches_of_plain (cql : translator.parser = parseQuery) (noPath : '>' ∉ core.toList)
    (isWord : IsWord field.toList) : translator.Reaches core field := by
  refine ⟨?sortKey, ?facet, ?drilldown, ?filter, ?rankQuery, ?clause⟩
  case sortKey =>
      intro request translated before descending after asked composed
      obtain ⟨query, read, composes⟩ := exists_composes composed
      rw [composes.sortKeys, asked, List.map_append, List.map_cons]
      simp only [sortKey, resolve_qualified plain other configured]
  case facet =>
      intro request translated before maxTerms sort after asked composed target
      obtain ⟨query, read, composes⟩ := exists_composes composed
      obtain ⟨routed, -, found⟩ := exists_ok_of_mapM composes.reads.facets
        (asked ▸ List.mem_append_cons_self)
      rw [composes.facetsFor, asked, filterMap_around,
        facetFor_qualified plain other configured noPath isWord found]
  case drilldown =>
      intro request translated before path after asked composed target
      obtain ⟨query, read, composes⟩ := exists_composes composed
      rw [composes.drilldownsFor, asked, filterMap_around,
        drilldownFor_qualified plain other configured]
  case filter =>
      intro request query translated before term after isTerm asked isRead composed target
      obtain ⟨_, read, composes⟩ := exists_composes composed
      obtain rfl := Except.ok.inj (isRead.symm.trans composes.reads.isQuery)
      rw [composes.filtersFor, asked, filterMap_around,
        argumentFor_qualified plain other configured cql isWord isTerm]
  case rankQuery =>
      intro request translated before term after isTerm asked composed target
      obtain ⟨query, read, composes⟩ := exists_composes composed
      rw [composes.rankQueryFor, asked, filterMap_around,
        argumentFor_qualified plain other configured cql isWord isTerm]
  case clause =>
      intro request query translated before relation term after isRead conjuncts composed
      obtain ⟨_, read, composes⟩ := exists_composes composed
      obtain rfl := Except.ok.inj (isRead.symm.trans composes.reads.isQuery)
      refine ⟨fun target => ?_, fun target => ?_⟩
      · rw [composes.filtersFor, conjuncts, filterMap_around,
          ownedBy_qualified plain other configured]
      · have owned : (Expression.clause ⟨some (qualifiedIndex core field), relation, term⟩).owner?
            translator.config.cores translator.config.resultsCore = some core :=
          owner?_qualified plain other configured relation term
        have kept : Extraction.operandsKept translator.config.cores translator.config.resultsCore
              query.conjuncts =
            Extraction.operandsKept translator.config.cores translator.config.resultsCore
              (before ++ after) := by
          simp [Extraction.operandsKept, conjuncts, owned]
        rw [composes.queryFor, kept]

end Found

/-! Requests with one such name -/

section Single

variable (valid : translator.config.validate = .ok ())

include valid

theorem exists_compose {request : SearchRequest} {read : ReadRequest}
    (isRead : translator.read request = .ok read) (core : String)
    (matched : core = translator.config.resultsCore ∨
      translator.config.Matches translator.config.resultsCore core)
    (within : ∀ touched ∈ translator.touched request read,
      touched = translator.config.resultsCore ∨ touched = core) :
    ∃ translated, translator.compose request = .ok translated := by
  refine (compose_ok_iff valid).mpr ⟨read, isRead, fun touched member isOther => ?_⟩
  obtain rfl := (within touched member).resolve_left isOther
  refine ⟨matched.resolve_left isOther, fun another inTouched anotherOther => ?_⟩
  exact (within another inTouched).resolve_left anotherOther

theorem exists_compose_sortKey (key : SortKeyRequest) :
    ∃ translated, translator.compose { sortKeys := [key] } = .ok translated := by
  have isRead : translator.read { sortKeys := [key] } =
      .ok ⟨⟨some .matchAll, SortedMap.empty⟩, [], [], []⟩ := rfl
  refine exists_compose valid isRead translator.config.resultsCore (Or.inl rfl) ?_
  simp [touched_eq]

theorem exists_compose_facet {facet : FacetField} {routed : RoutedFacet}
    (found : translator.routeFacet facet = .ok routed)
    (matched : routed.core = translator.config.resultsCore ∨
      translator.config.Matches translator.config.resultsCore routed.core) :
    ∃ translated, translator.compose { facets := [facet] } = .ok translated := by
  have isRead : translator.read { facets := [facet] } =
      .ok ⟨⟨some .matchAll, SortedMap.empty⟩, [], [], [routed]⟩ := by
    refine read_ok_iff.mpr ⟨.matchAll, rfl, rfl, rfl, rfl, ?_⟩
    rw [mapM_ok_iff]
    exact .cons found .nil
  refine exists_compose valid isRead routed.core matched ?_
  simp [touched_eq]

end Single

/-- A core whose name holds a point is found by none of its names, and one whose name holds what
parts the segments of a path not by those of facets. -/
theorem plain_of_reaches {field : String} (valid : translator.config.validate = .ok ())
    (other : core ≠ translator.config.resultsCore) (reaches : translator.Reaches core field) :
    '.' ∉ core.toList ∧ '>' ∉ core.toList := by
  have plain : '.' ∉ core.toList := by
    intro pointed
    obtain ⟨translated, composed⟩ :=
      exists_compose_sortKey valid ⟨qualifiedIndex core field, false⟩
    obtain ⟨query, read, composes⟩ := exists_composes composed
    have reached : translated.query.options.sortKeys = [⟨core, field, false⟩] :=
      @reaches.sortKey _ _ [] _ [] rfl composed
    rw [composes.sortKeys] at reached
    have isCore : (translator.resolve (qualifiedIndex core field)).1 = core := by
      simpa [sortKey] using congrArg (List.map SortKey.core) reached
    exact resolve_ne_of_pointed pointed other _ isCore
  refine ⟨plain, fun parted => ?_⟩
  have starts : (pieces '>' (qualifiedIndex core field)).1.toList <+: core.toList := by
    rw [qualifiedIndex, String.append_assoc]
    exact pieces_append parted _
  have toResults : translator.resolve (pieces '>' (qualifiedIndex core field)).1 =
      (translator.config.resultsCore, (pieces '>' (qualifiedIndex core field)).1) := by
    have uncut : cutAt? "." (pieces '>' (qualifiedIndex core field)).1 = none := by
      refine cutAt?_eq_none_iff.mpr fun pointed => plain ?_
      exact singleton_infix_iff.mp (pointed.trans starts.isInfix)
    rw [resolve, uncut]
  obtain ⟨routed, found, isResults⟩ : ∃ routed,
      translator.routeFacet { name := qualifiedIndex core field, maxTerms := 0 } = .ok routed ∧
        routed.core = translator.config.resultsCore := by
    refine ⟨_, by simp only [routeFacet, toResults]; rfl, rfl⟩
  obtain ⟨translated, composed⟩ := exists_compose_facet valid found (Or.inl isResults)
  obtain ⟨query, read, composes⟩ := exists_composes composed
  have reached := @reaches.facet _ _ [] _ _ [] rfl composed core
  rw [composes.facetsFor, List.filterMap_cons, facetFor, valueFor_of_ok _ _ _ found, isResults,
    if_neg other.symm] at reached
  simp at reached

def requestsNaming (name term : String) : List SearchRequest :=
  [{ sortKeys := [⟨name, false⟩] }, { facets := [{ name, maxTerms := 0 }] },
    { drilldowns := [(name, [])] },
    ({} : SearchRequest).withExtra filterArgument (name ++ "=" ++ term),
    ({} : SearchRequest).withExtra rankArgument (name ++ "=" ++ term),
    { query := .expression (.clause ⟨some name, none, term⟩) }]

theorem exists_compose_naming {field term : String} (cql : translator.parser = parseQuery)
    (valid : translator.config.validate = .ok ()) (other : core ≠ translator.config.resultsCore)
    (configured : translator.config.cores.contains core = true)
    (matched : translator.config.Matches translator.config.resultsCore core)
    (plain : '.' ∉ core.toList) (noPath : '>' ∉ core.toList) (isWord : IsWord field.toList)
    (isTerm : IsWord term.toList) :
    ∀ request ∈ requestsNaming (qualifiedIndex core field) term,
      ∃ translated, translator.compose request = .ok translated := by
  have readFor : translator.readFor (qualifiedIndex core field ++ "=" ++ term) =
      .ok (core, .ofField field term) :=
    readFor_qualified plain other configured cql isWord isTerm
  simp only [requestsNaming, List.forall_mem_cons]
  refine ⟨exists_compose_sortKey valid _, ?facet, ?drilldown, ?filter, ?rankQuery, ?clause, by simp⟩
  case facet =>
      obtain ⟨routed, found, isCore⟩ : ∃ routed,
          translator.routeFacet { name := qualifiedIndex core field, maxTerms := 0 } = .ok routed ∧
            routed.core = core := by
        refine ⟨_, by
          simp only [routeFacet, pieces_qualified noPath isWord,
            resolve_qualified plain other configured]
          rfl, rfl⟩
      exact exists_compose_facet valid found (Or.inr (isCore ▸ matched))
  case drilldown =>
      have isRead : translator.read { drilldowns := [(qualifiedIndex core field, [])] } =
          .ok ⟨⟨some .matchAll, SortedMap.empty⟩, [], [], []⟩ := rfl
      refine exists_compose valid isRead core (Or.inr matched) ?_
      simp [touched_eq, routeDrilldown, resolve_qualified plain other configured]
  case filter =>
      have isRead : translator.read
            (({} : SearchRequest).withExtra filterArgument
              (qualifiedIndex core field ++ "=" ++ term)) =
          .ok ⟨⟨some .matchAll, SortedMap.empty⟩, [(core, .ofField field term)], [], []⟩ := by
        refine read_ok_iff.mpr ⟨.matchAll, rfl, rfl, ?_, rfl, rfl⟩
        exact bind_ok_iff.mpr ⟨[(core, .ofField field term)], mapM_ok_iff.mpr (.cons readFor .nil),
          bind_ok_iff.mpr ⟨[], rfl, rfl⟩⟩
      refine exists_compose valid isRead core (Or.inr matched) ?_
      simp [touched_eq, SearchRequest.withExtra]
  case rankQuery =>
      have isRead : translator.read
            (({} : SearchRequest).withExtra rankArgument
              (qualifiedIndex core field ++ "=" ++ term)) =
          .ok ⟨⟨some .matchAll, SortedMap.empty⟩, [], [(core, .ofField field term)], []⟩ := by
        refine read_ok_iff.mpr ⟨.matchAll, rfl, rfl, rfl, ?_, rfl⟩
        exact bind_ok_iff.mpr ⟨[(core, .ofField field term)], mapM_ok_iff.mpr (.cons readFor .nil),
          rfl⟩
      refine exists_compose valid isRead core (Or.inr matched) ?_
      simp [touched_eq, SearchRequest.withExtra]
  case clause =>
      have owned : (Expression.clause ⟨some (qualifiedIndex core field), none, term⟩).owner?
          translator.config.cores translator.config.resultsCore = some core :=
        owner?_qualified plain other configured none term
      obtain ⟨filter, isFilter⟩ : ∃ filter,
          (Extraction.filtersOf translator.config.cores translator.config.resultsCore
            [.clause ⟨some (qualifiedIndex core field), none, term⟩]).entries =
              [(core, [filter])] := by
        rw [Extraction.filtersOf, List.foldl_cons, owned]
        exact ⟨_, rfl⟩
      have isRead : translator.read
            { query := .expression (.clause ⟨some (qualifiedIndex core field), none, term⟩) } =
          .ok ⟨Extraction.ofQuery translator.config.cores translator.config.resultsCore
            (.clause ⟨some (qualifiedIndex core field), none, term⟩),
            [(core, filter)], [], []⟩ := by
        refine read_ok_iff.mpr ⟨_, rfl, rfl, ?_, rfl, rfl⟩
        simp only [filters, Extraction.ofQuery, Expression.conjuncts, isFilter]
        rfl
      refine exists_compose valid isRead core (Or.inr matched) ?_
      simp only [touched_eq, List.map_cons, List.map_nil, List.append_nil, List.mem_append,
        List.mem_map, List.mem_singleton]
      rintro touched (⟨_, -, rfl⟩ | rfl)
      · exact Or.inl rfl
      · exact Or.inr rfl

/-- With valid settings the names `core.field` of a configured core speak of it, in every place of
every request, exactly when its own name holds neither a point nor the sign that parts the segments
of a path. Requests with such names can be composed if the core is matched with the results core. -/
theorem reaches_iff {field : String} (cql : translator.parser = parseQuery)
    (valid : translator.config.validate = .ok ())
    (configured : translator.config.cores.contains core = true)
    (other : core ≠ translator.config.resultsCore) (isWord : IsWord field.toList) :
    (translator.Reaches core field ↔ '.' ∉ core.toList ∧ '>' ∉ core.toList) ∧
    ('.' ∉ core.toList → '>' ∉ core.toList →
      translator.config.Matches translator.config.resultsCore core →
      ∀ term : String, IsWord term.toList →
        ∀ request ∈ requestsNaming (qualifiedIndex core field) term,
          ∃ translated, translator.compose request = .ok translated) := by
  refine ⟨⟨plain_of_reaches valid other, ?_⟩, ?_⟩
  · rintro ⟨plain, noPath⟩
    exact reaches_of_plain plain other configured cql noPath isWord
  · intro plain noPath matched term isTerm
    exact exists_compose_naming cql valid other configured matched plain noPath isWord isTerm

def booksTranslator : Translator where
  config := {
    resultsCore := "books"
    matchings := [[⟨"books", "author"⟩, ⟨"authors", "id"⟩],
      [⟨"countries", "code"⟩, ⟨"authors", "home"⟩]] }
  grouping := false
  clustering := true
  localName := fun name => "facet_" ++ name

theorem booksTranslator_reaches :
    booksTranslator.parser = parseQuery ∧ booksTranslator.config.validate = .ok () ∧
    booksTranslator.config.cores.contains "authors" = true ∧
    "authors" ≠ booksTranslator.config.resultsCore ∧ IsWord "born.year".toList ∧
    IsWord "1265".toList ∧ booksTranslator.config.Matches "books" "authors" ∧
    booksTranslator.Reaches "authors" "born.year" ∧
    ∀ request ∈ requestsNaming "authors.born.year" "1265",
      ∃ translated, booksTranslator.compose request = .ok translated := by
  have isWord : IsWord "born.year".toList := by decide
  have isTerm : IsWord "1265".toList := by decide
  have matched : booksTranslator.config.Matches "books" "authors" :=
    ⟨_, List.mem_cons_self, Or.inl rfl⟩
  have different : "authors" ≠ booksTranslator.config.resultsCore := by decide
  obtain ⟨reaches, composed⟩ :=
    @reaches_iff booksTranslator "authors" _ rfl rfl rfl different isWord
  exact ⟨rfl, rfl, rfl, different, isWord, isTerm, matched, reaches.mpr (by decide),
    composed (by decide) (by decide) matched _ isTerm⟩

/-- A core whose name holds a point is given nothing of what names with it ask; all goes to the
results core. -/
theorem pointedCore_unreached : ∃ translator : Translator,
    translator.parser = parseQuery ∧ translator.config.validate = .ok () ∧
    translator.config.resultsCore = "A" ∧
    translator.config.cores.contains "a.b" = true ∧ translator.config.Matches "A" "a.b" ∧
    ∃ translated, translator.compose
        { sortKeys := [⟨"a.b.f", true⟩], facets := [{ name := "a.b.f", maxTerms := 0 }],
          drilldowns := [("a.b.f", [])] } = .ok translated ∧
      translated.query.options.sortKeys = [⟨"A", "a.b.f", true⟩] ∧
      translated.query.facetsFor "a.b" = [] ∧ translated.query.drilldownsFor "a.b" = [] ∧
      translated.query.facetsFor "A" = [⟨"a.b.f", [], 0, none⟩] ∧
      translated.query.drilldownsFor "A" = [⟨"a.b.f", []⟩] := by
  refine ⟨{
    config := { resultsCore := "A", matchings := [[⟨"A", "k"⟩, ⟨"a.b", "j"⟩]] }
    grouping := false
    clustering := true
    localName := id }, rfl, rfl, rfl, rfl, ⟨_, List.mem_cons_self, Or.inl rfl⟩, _, rfl, rfl, rfl,
    rfl, rfl, rfl⟩

end Translator

end FederatedSearch
