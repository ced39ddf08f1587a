import FederatedSearch.Proofs.AlikeQueries

/-! Operands that are alike: they have the same clauses and accept the same documents, and still do
under other names. Alike operands are owned by the same core, so two lists with alike operands are
parted alike, in whatever order and however often these stand there. -/

namespace FederatedSearch

namespace Expression

theorem spokenOf?_eq_some_iff {query : Expression} {core : String} :
    query.spokenOf? = some core ↔
      query.clauses ≠ [] ∧ ∀ leaf ∈ query.clauses, leaf.core? = some core := by
  unfold spokenOf?
  cases query.clauses with
  | nil => simp
  | cons first others =>
      rw [List.forall_mem_cons]
      dsimp only
      cases first.core? with
      | none => simp
      | some other =>
          simp only [Option.bind_some, List.all_eq_true, decide_eq_true_iff,
            Option.ite_none_right_eq_some, Option.some.injEq]
          constructor
          · rintro ⟨each, rfl⟩
            exact ⟨by simp, rfl, each⟩
          · rintro ⟨-, rfl, each⟩
            exact ⟨each, rfl⟩

theorem accepts_all (document : Document) (operands : List Expression) :
    (Expression.all operands).accepts document = operands.all (·.accepts document) := by
  rw [accepts, allAccept_eq_all]

theorem accepts_any (document : Document) (operands : List Expression) :
    (Expression.any operands).accepts document = operands.any (·.accepts document) := by
  rw [accepts]
  induction operands with
  | nil => rfl
  | cons query queries ih => rw [anyAccepts, ih, List.any_cons]

theorem forall_conjuncts_accept {query : Expression} {document : Document} :
    (∀ operand ∈ query.conjuncts, operand.accepts document = true) ↔
      query.accepts document = true := by
  cases query with
  | all operands => rw [accepts_all, List.all_eq_true, conjuncts]
  | clause leaf => simp [conjuncts]
  | any operands => simp [conjuncts]
  | not operand => simp [conjuncts]

/-- Queries put together to one accept what each of them accepts. -/
theorem forall_allOf_accept {queries : List Expression} {document : Document} :
    (∀ query ∈ (allOf queries).toList, query.accepts document = true) ↔
      ∀ query ∈ queries, query.accepts document = true := by
  have ofOperands : (∀ operand ∈ queries.flatMap conjuncts, operand.accepts document = true) ↔
      ∀ query ∈ queries, query.accepts document = true := by
    rw [List.forall_mem_flatMap]
    exact forall₂_congr fun query _ => forall_conjuncts_accept
  rw [← ofOperands]
  unfold allOf
  match queries.flatMap conjuncts with
  | [] => simp
  | [query] => simp
  | first :: second :: others => simp [accepts_all]

structure Alike (first second : Expression) : Prop where
  clauses : ∀ leaf, leaf ∈ first.clauses ↔ leaf ∈ second.clauses
  accepts : ∀ document, first.accepts document = second.accepts document
  renamed : ∀ change document,
    (first.mapIndexes change).accepts document = (second.mapIndexes change).accepts document

namespace Alike

variable {first second : Expression}

theorem refl (query : Expression) : query.Alike query :=
  ⟨fun _ => Iff.rfl, fun _ => rfl, fun _ _ => rfl⟩

theorem symm (alike : first.Alike second) : second.Alike first :=
  ⟨fun leaf => (alike.clauses leaf).symm, fun document => (alike.accepts document).symm,
    fun change document => (alike.renamed change document).symm⟩

theorem owner? (alike : first.Alike second) (cores : SortedSet String) (resultsCore : String) :
    first.owner? cores resultsCore = second.owner? cores resultsCore := by
  have same : first.spokenOf? = second.spokenOf? := by
    refine Option.ext fun core => ?_
    rw [spokenOf?_eq_some_iff, spokenOf?_eq_some_iff]
    simp only [alike.clauses, ne_eq, List.eq_nil_iff_forall_not_mem]
  unfold Expression.owner?
  rw [same]

/-- The order of the operands of an "any of" does not matter. -/
theorem any_of_perm {firsts seconds : List Expression} (perm : firsts.Perm seconds) :
    Alike (.any firsts) (.any seconds) := by
  refine ⟨fun leaf => ?_, fun document => ?_, fun change document => ?_⟩
  · rw [Expression.clauses, Expression.clauses, clausesOf_eq_flatMap, clausesOf_eq_flatMap]
    exact (perm.flatMap_right _).mem_iff
  · rw [accepts_any, accepts_any, perm.any_eq]
  · rw [mapIndexes, mapIndexes, accepts_any, accepts_any, mapIndexesOf_eq_map,
      mapIndexesOf_eq_map, (perm.map _).any_eq]

end Alike

def SameOperands (operands others : List Expression) : Prop :=
  (∀ operand ∈ operands, ∃ other ∈ others, operand.Alike other) ∧
    ∀ other ∈ others, ∃ operand ∈ operands, other.Alike operand

namespace SameOperands

variable {operands others : List Expression}

theorem of_mem_iff (same : ∀ operand, operand ∈ operands ↔ operand ∈ others) :
    SameOperands operands others :=
  ⟨fun operand member => ⟨operand, (same operand).mp member, .refl operand⟩,
    fun other member => ⟨other, (same other).mpr member, .refl other⟩⟩

theorem of_alike {operand other : Expression} (alike : operand.Alike other) :
    SameOperands [operand] [other] := by
  simpa [SameOperands] using ⟨alike, alike.symm⟩

/-- What holds of all operands of one list holds of all those of the other, if alike operands have
it alike. -/
theorem forall_iff (same : SameOperands operands others) {property : Expression → Prop}
    (alike : ∀ {first second}, first.Alike second → (property first ↔ property second)) :
    (∀ operand ∈ operands, property operand) ↔ ∀ other ∈ others, property other := by
  constructor
  · intro each other member
    obtain ⟨operand, inOperands, isAlike⟩ := same.2 other member
    exact (alike isAlike).mpr (each operand inOperands)
  · intro each operand member
    obtain ⟨other, inOthers, isAlike⟩ := same.1 operand member
    exact (alike isAlike).mpr (each other inOthers)

end SameOperands

end Expression

/-! What is kept of a list of operands, and what is taken out of it -/

namespace Translator

open Expression

variable (translator : Translator) {operands others : List Expression}
  (same : SameOperands operands others)

include same

theorem forall_kept_iff (document : Document) :
    (∀ operand ∈ Extraction.operandsKept translator.config.cores translator.config.resultsCore
        operands, operand.accepts document = true) ↔
      ∀ other ∈ Extraction.operandsKept translator.config.cores translator.config.resultsCore
        others, other.accepts document = true := by
  unfold Extraction.operandsKept
  simp only [List.mem_filter, and_imp]
  refine same.forall_iff fun alike => ?_
  rw [alike.owner?, alike.accepts]

theorem forall_owned_iff (core : String) (document : Document) :
    (∀ part ∈ operands.filterMap (translator.ownedBy core), part.accepts document = true) ↔
      ∀ part ∈ others.filterMap (translator.ownedBy core), part.accepts document = true := by
  have ofOperands (operands : List Expression) :
      (∀ part ∈ operands.filterMap (translator.ownedBy core), part.accepts document = true) ↔
        ∀ operand ∈ operands, ∀ part ∈ translator.ownedBy core operand,
          part.accepts document = true := by
    simp only [List.mem_filterMap, Option.mem_def, forall_exists_index, and_imp]
    exact ⟨fun each operand member part owned => each part operand member owned,
      fun each part operand member owned => each operand member part owned⟩
  rw [ofOperands, ofOperands]
  refine same.forall_iff fun alike => ?_
  unfold ownedBy
  rw [alike.owner?]
  split
  · simp [alike.renamed]
  · simp

theorem owned_eq_nil_iff (core : String) :
    operands.filterMap (translator.ownedBy core) = [] ↔
      others.filterMap (translator.ownedBy core) = [] := by
  rw [List.filterMap_eq_nil_iff, List.filterMap_eq_nil_iff]
  refine same.forall_iff fun alike => ?_
  unfold ownedBy
  rw [alike.owner?]
  split <;> simp

end Translator

end FederatedSearch
