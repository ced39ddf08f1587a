import FederatedSearch.Proofs.RestrictedCores

/-! A query is parted by the cores its operands speak of. Each operand is kept or goes to one core,
where it stands in its turn and without the name of that core; with the names put back nothing is
lost, and the parts match together what the query matches. The core before a name ends at its first
point, so that nothing goes to a core with a point in its own name. -/

namespace FederatedSearch

theorem coreOfIndex?_eq_some_iff {index core : String} : coreOfIndex? index = some core ↔
    '.' ∉ core.toList ∧ ∃ field, index = qualifiedIndex core field := by
  constructor
  · intro found
    obtain ⟨⟨first, field⟩, cut, rfl⟩ := Option.map_eq_some_iff.mp found
    refine ⟨?_, field, eq_append_of_cutAt? cut⟩
    intro pointed
    apply not_infix_of_cutChars (by decide) (cutAt?_eq_some_iff.mp cut)
    exact (singleton_infix_iff.mpr pointed).trans (List.prefix_append _ _).isInfix
  · rintro ⟨plain, field, rfl⟩
    rw [coreOfIndex?, Translator.cutAt?_qualified plain]
    rfl

namespace Clause

variable {leaf : Clause} {core : String}

def IsPrefixed (core : String) (leaf : Clause) : Prop :=
  ∃ field, leaf.index = some (qualifiedIndex core field)

theorem core?_eq_some_iff : leaf.core? = some core ↔ '.' ∉ core.toList ∧ leaf.IsPrefixed core := by
  simp only [core?, Option.bind_eq_some_iff, coreOfIndex?_eq_some_iff, IsPrefixed]
  constructor
  · rintro ⟨index, indexed, plain, field, rfl⟩
    exact ⟨plain, field, indexed⟩
  · rintro ⟨plain, field, indexed⟩
    exact ⟨_, indexed, plain, field, rfl⟩

theorem IsPrefixed.mapIndex_mapIndex (isPrefixed : leaf.IsPrefixed core) :
    (leaf.mapIndex (unqualifiedIndex core)).mapIndex (qualifiedIndex core) = leaf := by
  obtain ⟨field, indexed⟩ := isPrefixed
  obtain ⟨index, relation, term⟩ := leaf
  obtain rfl : index = some (qualifiedIndex core field) := indexed
  simp only [mapIndex, Option.map_some, Translator.unqualifiedIndex_qualified]

end Clause

namespace Expression

def IsPrefixed (core : String) (query : Expression) : Prop :=
  query.clauses ≠ [] ∧ ∀ leaf ∈ query.clauses, leaf.IsPrefixed core

structure BelongsTo (cores : SortedSet String) (resultsCore : String) (query : Expression)
    (core : String) : Prop where
  isOther : core ≠ resultsCore
  isKnown : cores.contains core = true
  isPrefixed : query.IsPrefixed core

section Owners

variable {cores : SortedSet String} {resultsCore core : String} {query : Expression}

theorem owner?_eq_some_iff : query.owner? cores resultsCore = some core ↔
    query.BelongsTo cores resultsCore core ∧ '.' ∉ core.toList := by
  have spoken : query.spokenOf? = some core ↔ query.IsPrefixed core ∧ '.' ∉ core.toList := by
    rw [spokenOf?_eq_some_iff]
    constructor
    · rintro ⟨nonempty, each⟩
      obtain ⟨leaf, member⟩ := List.exists_mem_of_ne_nil _ nonempty
      refine ⟨⟨nonempty, ?_⟩, (Clause.core?_eq_some_iff.mp (each leaf member)).1⟩
      intro leaf member
      exact (Clause.core?_eq_some_iff.mp (each leaf member)).2
    · rintro ⟨⟨nonempty, each⟩, plain⟩
      refine ⟨nonempty, ?_⟩
      intro leaf member
      exact Clause.core?_eq_some_iff.mpr ⟨plain, each leaf member⟩
  rw [owner?, Option.filter_eq_some_iff, spoken, Bool.and_eq_true, bne_iff_ne]
  constructor
  · rintro ⟨⟨isPrefixed, plain⟩, isOther, isKnown⟩
    exact ⟨⟨isOther, isKnown, isPrefixed⟩, plain⟩
  · rintro ⟨⟨isOther, isKnown, isPrefixed⟩, plain⟩
    exact ⟨⟨isPrefixed, plain⟩, isOther, isKnown⟩

end Owners

section Renamed

variable {change restore : String → String}

mutual

theorem mapIndexes_mapIndexes : (query : Expression) →
    (∀ leaf ∈ query.clauses, (leaf.mapIndex change).mapIndex restore = leaf) →
    (query.mapIndexes change).mapIndexes restore = query
  | .clause leaf, each => congrArg Expression.clause (each leaf (by simp [clauses]))
  | .all operands, each => congrArg Expression.all (mapIndexesOf_mapIndexesOf operands each)
  | .any operands, each => congrArg Expression.any (mapIndexesOf_mapIndexesOf operands each)
  | .not operand, each => congrArg Expression.not (mapIndexes_mapIndexes operand each)

theorem mapIndexesOf_mapIndexesOf : (queries : List Expression) →
    (∀ leaf ∈ clausesOf queries, (leaf.mapIndex change).mapIndex restore = leaf) →
    mapIndexesOf restore (mapIndexesOf change queries) = queries
  | [], _ => rfl
  | query :: queries, each => by
      obtain ⟨ofQuery, ofOthers⟩ := List.forall_mem_append.mp each
      rw [mapIndexesOf, mapIndexesOf, mapIndexes_mapIndexes query ofQuery,
        mapIndexesOf_mapIndexesOf queries ofOthers]

end

end Renamed

section Matching

variable {document : Document}

theorem matchedBy_eq_true_iff {query : Expression} : query.matchedBy document = .ok true ↔
    ∀ operand ∈ query.conjuncts, operand.matchedBy document = .ok true := by
  rw [← allMatchedBy_parts, allMatchedBy_eq_true_iff]

theorem forall_allOf_matched_iff {queries : List Expression} :
    (∀ whole ∈ allOf queries, whole.matchedBy document = .ok true) ↔
      ∀ query ∈ queries, query.matchedBy document = .ok true := by
  rw [← allMatchedBy_eq_true_iff, ← matchedBy_conjunction, conjunction]
  cases allOf queries with
  | none => simp [matchedBy, allMatchedBy]
  | some whole => simp

end Matching

end Expression

namespace Extraction

/-- The extraction parts the query by the core that each operand goes to, if to any. -/
structure Parts (extraction : Extraction) (query : Expression)
    (target : Expression → Option String) : Prop where
  kept : extraction.query =
    Expression.allOf (query.conjuncts.filter fun operand => (target operand).isNone)
  moved : ∀ core,
    (extraction.filters.getD core []).map (Expression.mapIndexes (qualifiedIndex core)) =
      query.conjuncts.filter fun operand => target operand = some core
  reached : ∀ core ∈ extraction.filters.keys, ∃ operand ∈ query.conjuncts,
    target operand = some core
  matched : ∀ document, query.matchedBy document = .ok true ↔
    (∀ rest ∈ extraction.query, rest.matchedBy document = .ok true) ∧
      ∀ core, ∀ filter ∈ extraction.filters.getD core [],
        (filter.mapIndexes (qualifiedIndex core)).matchedBy document = .ok true

variable {cores : SortedSet String} {resultsCore : String} {query : Expression}

theorem Parts.mem_moved {extraction : Extraction} {target : Expression → Option String}
    (parts : extraction.Parts query target) {operand : Expression} {core : String}
    (member : operand ∈ query.conjuncts) (isTarget : target operand = some core) :
    operand ∈ (extraction.filters.getD core []).map
      (Expression.mapIndexes (qualifiedIndex core)) := by
  rw [parts.moved]
  exact List.mem_filter.mpr ⟨member, by simpa using isTarget⟩

theorem getD_filtersOf (operands : List Expression) (core : String) :
    (filtersOf cores resultsCore operands).getD core [] =
      (operands.filter fun operand => operand.owner? cores resultsCore = some core).map
        (Expression.mapIndexes (unqualifiedIndex core)) := by
  rw [Translator.filtersOf_eq_grouped, SortedMap.getD, SortedMap.getD_get?_grouped]
  induction operands with
  | nil => rfl
  | cons operand rest ih =>
      rw [List.filterMap_cons, List.filter_cons]
      cases owner : operand.owner? cores resultsCore with
      | none => simpa using ih
      | some target =>
          by_cases same : target = core
          · subst same
            simpa using ih
          · simpa [same] using ih

theorem map_getD_filtersOf (cores : SortedSet String) (resultsCore : String)
    (operands : List Expression) (core : String) :
    ((filtersOf cores resultsCore operands).getD core []).map
        (Expression.mapIndexes (qualifiedIndex core)) =
      operands.filter fun operand => operand.owner? cores resultsCore = some core := by
  rw [getD_filtersOf, List.map_map]
  refine Eq.trans (List.map_congr_left ?_) (List.map_id _)
  intro operand member
  have owned : operand.owner? cores resultsCore = some core := by
    simpa using (List.mem_filter.mp member).2
  have belongs := (Expression.owner?_eq_some_iff.mp owned).1
  apply Expression.mapIndexes_mapIndexes
  intro leaf inOperand
  exact (belongs.isPrefixed.2 leaf inOperand).mapIndex_mapIndex

theorem exists_owned_of_mem_keys {operands : List Expression} {core : String}
    (member : core ∈ (filtersOf cores resultsCore operands).keys) :
    ∃ operand ∈ operands, operand.owner? cores resultsCore = some core := by
  rw [Translator.filtersOf_eq_grouped] at member
  obtain ⟨group, inGroups, rfl⟩ := List.mem_map.mp member
  obtain ⟨pair, inPairs, sameKey⟩ := SortedMap.key_of_mem_grouped inGroups
  obtain ⟨operand, inOperands, isPair⟩ := List.mem_filterMap.mp inPairs
  obtain ⟨owner, owned, rfl⟩ := Option.map_eq_some_iff.mp isPair
  exact ⟨operand, inOperands, sameKey ▸ owned⟩

theorem ofQuery_parts (cores : SortedSet String) (resultsCore : String) (query : Expression) :
    (ofQuery cores resultsCore query).Parts query (·.owner? cores resultsCore) := by
  have moved := map_getD_filtersOf cores resultsCore query.conjuncts
  refine ⟨rfl, moved, fun _ member => exists_owned_of_mem_keys member, ?_⟩
  intro document
  have ofFilters (core : String) :
      (∀ filter ∈ (filtersOf cores resultsCore query.conjuncts).getD core [],
        (filter.mapIndexes (qualifiedIndex core)).matchedBy document = .ok true) ↔
      ∀ operand ∈ query.conjuncts, operand.owner? cores resultsCore = some core →
        operand.matchedBy document = .ok true := by
    rw [← List.forall_mem_map (P := fun operand : Expression =>
      operand.matchedBy document = .ok true), moved]
    simp only [List.mem_filter, decide_eq_true_eq, and_imp]
  change _ ↔ (∀ rest ∈ Expression.allOf (operandsKept cores resultsCore query.conjuncts), _) ∧
    ∀ core, ∀ filter ∈ (filtersOf cores resultsCore query.conjuncts).getD core [], _
  rw [Expression.matchedBy_eq_true_iff, Expression.forall_allOf_matched_iff]
  simp only [ofFilters, operandsKept, List.mem_filter, and_imp, Option.isNone_iff_eq_none]
  constructor
  · intro each
    exact ⟨fun operand member _ => each operand member,
      fun _ operand member _ => each operand member⟩
  · rintro ⟨ofKept, ofMoved⟩ operand member
    cases owner : operand.owner? cores resultsCore with
    | none => exact ofKept operand member owner
    | some core => exact ofMoved core operand member owner

/-- Every query is parted by the cores that its operands speak of, of which those with a point in
their names get nothing. So all that speaks of another core goes there exactly if no other core has
such a name. -/
theorem parts_by_core_iff (cores : SortedSet String) (resultsCore : String) :
    (∀ query, ∃ target, (ofQuery cores resultsCore query).Parts query target ∧
      ∀ operand ∈ query.conjuncts, ∀ core, target operand = some core ↔
        operand.BelongsTo cores resultsCore core ∧ '.' ∉ core.toList) ∧
    ((∀ query, ∃ target, (ofQuery cores resultsCore query).Parts query target ∧
      ∀ operand ∈ query.conjuncts, ∀ core, target operand = some core ↔
        operand.BelongsTo cores resultsCore core) ↔
      ∀ core, core ≠ resultsCore → cores.contains core = true → '.' ∉ core.toList) := by
  have parted (query : Expression) := ofQuery_parts cores resultsCore query
  refine ⟨fun query => ⟨_, parted query, fun operand _ core =>
    Expression.owner?_eq_some_iff⟩, ?_, ?_⟩
  · intro byCore core isOther isKnown pointed
    let query : Expression := .ofField (qualifiedIndex core "field") "term"
    have belongs : query.BelongsTo cores resultsCore core :=
      ⟨isOther, isKnown, by simp [query, Expression.ofField, Expression.clauses], by
        simp [query, Expression.ofField, Expression.clauses, Clause.related, Clause.IsPrefixed]⟩
    obtain ⟨target, parts, targets⟩ := byCore query
    have inQuery : query ∈ query.conjuncts := List.mem_singleton_self query
    have found := parts.mem_moved inQuery ((targets query inQuery core).mpr belongs)
    rw [(parted query).moved] at found
    have owned : query.owner? cores resultsCore = some core := by
      simpa using (List.mem_filter.mp found).2
    exact (Expression.owner?_eq_some_iff.mp owned).2 pointed
  · intro plain query
    refine ⟨_, parted query, ?_⟩
    intro operand _ core
    rw [Expression.owner?_eq_some_iff]
    exact ⟨And.left, fun belongs => ⟨belongs, plain core belongs.isOther belongs.isKnown⟩⟩

def pointedName : Expression :=
  .ofField "a.b.f" "x"

/-- The clause is in the field `f` of the core `a.b`, and is kept. -/
theorem pointedName_kept :
    pointedName.BelongsTo (SortedSet.ofList ["A", "a.b"]) "A" "a.b" ∧
      ofQuery (SortedSet.ofList ["A", "a.b"]) "A" pointedName =
        ⟨some pointedName, SortedMap.empty⟩ ∧
      ¬ ∃ target, (ofQuery (SortedSet.ofList ["A", "a.b"]) "A" pointedName).Parts pointedName
          target ∧
        ∀ operand ∈ pointedName.conjuncts, ∀ core, target operand = some core ↔
          operand.BelongsTo (SortedSet.ofList ["A", "a.b"]) "A" core := by
  have belongs : pointedName.BelongsTo (SortedSet.ofList ["A", "a.b"]) "A" "a.b" := by
    refine ⟨by decide, by decide +kernel, by decide, ?_⟩
    intro leaf member
    obtain rfl := List.mem_singleton.mp member
    exact ⟨"f", by decide⟩
  have kept : ofQuery (SortedSet.ofList ["A", "a.b"]) "A" pointedName =
      ⟨some pointedName, SortedMap.empty⟩ := by rfl
  refine ⟨belongs, kept, ?_⟩
  rintro ⟨target, parts, targets⟩
  have inQuery : pointedName ∈ pointedName.conjuncts := List.mem_singleton_self pointedName
  have found := parts.mem_moved inQuery ((targets pointedName inQuery "a.b").mpr belongs)
  rw [kept] at found
  cases found

end Extraction

end FederatedSearch
