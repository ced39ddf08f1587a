import FederatedSearch.Proofs.AnsweredSearches
import FederatedSearch.Proofs.ConsistentOrder

/-! The order of hits, told by pairs of documents: the first sort key that separates two of them
decides, then the score, then which of them is stored earlier. Where the values under each key can
be ranked on a line, that leaves one order, and it is the one the documents found are brought
into. -/

namespace FederatedSearch

/-! Sorting and places -/

section Places

variable {α : Type} {compare : α → α → Ordering} {elements : List α}

def comparePlaced (compare : α → α → Ordering) (first second : α × Nat) : Ordering :=
  (compare first.1 second.1).then (Ord.compare first.2 second.2)

theorem isPreorderOn_comparePlaced (consistent : IsPreorderOn compare elements) :
    IsPreorderOn (comparePlaced compare) elements.zipIdx := by
  have byElement : IsPreorderOn (fun first second : α × Nat => compare first.1 second.1)
      elements.zipIdx :=
    consistent.comap fun entry member => List.fst_mem_of_mem_zipIdx member
  have byPlace : IsPreorderOn (fun first second : α × Nat => Ord.compare first.2 second.2)
      elements.zipIdx :=
    (IsPreorderOn.of_transCmp (elements.zipIdx.map (·.2))).comap fun _ member =>
      List.mem_map_of_mem member
  exact byElement.lexicographic byPlace

/-- The elements are sorted with their places. The order is one only on the entries there are, so
what is sorted are those, each with the reason that it is one. -/
theorem exists_placed_stableSort (consistent : IsPreorderOn compare elements) :
    ∃ entries : List (α × Nat), entries.Perm elements.zipIdx ∧
      entries.map (·.1) = stableSort (fun first second => compare first second == .lt) elements ∧
      entries.Pairwise (comparePlaced compare · · = .lt) := by
  have transitive := IsPreorderOn.iff_transCmp.mp (isPreorderOn_comparePlaced consistent)
  let before (first second : {entry // entry ∈ elements.zipIdx}) : Bool :=
    compare first.1.1 second.1.1 == .lt
  refine ⟨(stableSort before elements.zipIdx.attach).map (·.1), ?_, ?_, ?_⟩
  · have sorted := (stableSort_perm before elements.zipIdx.attach).map (·.1)
    rwa [List.attach_map_subtype_val] at sorted
  · have elementsOf : elements.zipIdx.attach.map (fun entry => entry.1.1) = elements := by
      calc elements.zipIdx.attach.map (fun entry => entry.1.1)
          = (elements.zipIdx.attach.map Subtype.val).map Prod.fst := by rw [List.map_map]; rfl
        _ = elements := by rw [List.attach_map_subtype_val, List.zipIdx_map_fst]
    have viewed := stableSort_map (fun first second => compare first second == .lt)
      (fun entry : {entry // entry ∈ elements.zipIdx} => entry.1.1) elements.zipIdx.attach
    rw [elementsOf] at viewed
    rw [List.map_map, ← viewed]
    rfl
  · refine List.pairwise_map.mpr (pairwise_stableSort ?_ ?_ ?_)
    · intro first second third
      exact transitive.lt_trans
    · intro first second moves
      simp [comparePlaced, eq_of_beq moves]
    · have ascending := zipIdx_ascending elements
      rw [← List.attach_map_subtype_val elements.zipIdx, List.pairwise_map] at ascending
      refine ascending.imp fun {earlier later} below notMoved => ?_
      have notBehind := ne_of_beq_false notMoved
      rw [consistent.1 _ (List.fst_mem_of_mem_zipIdx later.2) _
        (List.fst_mem_of_mem_zipIdx earlier.2)] at notBehind
      rw [comparePlaced, Nat.compare_eq_lt.mpr below]
      cases found : compare earlier.1.1 later.1.1 with
      | lt => rfl
      | eq => rfl
      | gt => exact absurd (by rw [found]; rfl) notBehind

end Places

namespace Numeral

theorem compareRat_eq_lt_iff {x y : Rat} : compareRat x y = .lt ↔ x < y := by
  unfold compareRat
  by_cases below : x < y
  · simp [below]
  · simp only [below, if_false, iff_false]
    split <;> decide

theorem compareRat_eq_eq_iff {x y : Rat} : compareRat x y = .eq ↔ x = y := by
  constructor
  · intro level
    have below : x ≤ y := compareRat_ne_gt_iff.mp (by simp [level])
    have above : y ≤ x := compareRat_ne_gt_iff.mp (by simp [compareRat_swap y x, level])
    exact Rat.le_antisymm below above
  · rintro rfl
    exact compareRat_self x

end Numeral

namespace Scored

def LevelUnder (key : SortKey) (first second : Scored) : Prop :=
  Option.Rel (fun value other => compareValues value other = .eq)
    (first.document.firstValue? key.field) (second.document.firstValue? key.field)

def AheadUnder (key : SortKey) (first second : Scored) : Prop :=
  ∃ value ∈ first.document.firstValue? key.field,
    ∀ other ∈ second.document.firstValue? key.field,
      compareValues value other = if key.descending then .gt else .lt

/-- The document, given with its place among those found, comes before the other: it is ahead under
the first key under which they are not level, or has the higher score, or was found earlier. -/
def Precedes (keys : List SortKey) (first second : Scored × Nat) : Prop :=
  (∃ earlier key later, keys = earlier ++ key :: later ∧
      (∀ before ∈ earlier, LevelUnder before first.1 second.1) ∧
        AheadUnder key first.1 second.1) ∨
    (∀ key ∈ keys, LevelUnder key first.1 second.1) ∧
      (second.1.score < first.1.score ∨ first.1.score = second.1.score ∧ first.2 < second.2)

def IsRanking (keys : List SortKey) (found ranked : List Scored) : Prop :=
  ∃ entries : List (Scored × Nat), entries.Perm found.zipIdx ∧ entries.map (·.1) = ranked ∧
    entries.Pairwise (Precedes keys)

variable {key : SortKey} {keys : List SortKey} {first second : Scored}

theorem compareBy_eq_eq_iff : compareBy key first second = .eq ↔ LevelUnder key first second := by
  unfold compareBy LevelUnder
  cases first.document.firstValue? key.field with
  | none => cases second.document.firstValue? key.field <;> simp [compareOptional]
  | some value =>
      cases second.document.firstValue? key.field with
      | none => simp [compareOptional]
      | some other =>
          rw [compareOptional, Option.rel_some_some]
          cases key.descending with
          | false => rfl
          | true => simp [compareValues_swap other value]

theorem compareBy_eq_lt_iff : compareBy key first second = .lt ↔ AheadUnder key first second := by
  unfold compareBy AheadUnder
  cases first.document.firstValue? key.field with
  | none => cases second.document.firstValue? key.field <;> simp [compareOptional]
  | some value =>
      cases second.document.firstValue? key.field with
      | none => simp [compareOptional]
      | some other =>
          cases key.descending with
          | false => simp [compareOptional]
          | true => simp [compareOptional, compareValues_swap other value]

theorem compareRank_eq_eq_iff : compareRank keys first second = .eq ↔
    (∀ key ∈ keys, LevelUnder key first second) ∧ first.score = second.score := by
  induction keys with
  | nil =>
      rw [compareRank, Numeral.compareRat_eq_eq_iff, eq_comm]
      simp
  | cons key keys ih =>
      rw [compareRank, Ordering.then_eq_eq, compareBy_eq_eq_iff, ih, List.forall_mem_cons,
        and_assoc]

theorem compareRank_eq_lt_iff : compareRank keys first second = .lt ↔
    (∃ earlier key later, keys = earlier ++ key :: later ∧
      (∀ before ∈ earlier, LevelUnder before first second) ∧ AheadUnder key first second) ∨
    (∀ key ∈ keys, LevelUnder key first second) ∧ second.score < first.score := by
  induction keys with
  | nil => simp [compareRank, Numeral.compareRat_eq_lt_iff]
  | cons key keys ih =>
      rw [compareRank, Ordering.then_eq_lt, compareBy_eq_lt_iff, compareBy_eq_eq_iff, ih]
      constructor
      · rintro (ahead | ⟨level, ⟨earlier, other, later, rfl, levels, ahead⟩ | ⟨levels, higher⟩⟩)
        · exact Or.inl ⟨[], key, keys, rfl, by simp, ahead⟩
        · exact Or.inl ⟨key :: earlier, other, later, rfl,
            List.forall_mem_cons.mpr ⟨level, levels⟩, ahead⟩
        · exact Or.inr ⟨List.forall_mem_cons.mpr ⟨level, levels⟩, higher⟩
      · rintro (⟨earlier, other, later, parts, levels, ahead⟩ | ⟨levels, higher⟩)
        · cases earlier with
          | nil =>
              obtain ⟨rfl, rfl⟩ := List.cons.inj parts
              exact Or.inl ahead
          | cons _ earlier =>
              obtain ⟨rfl, rfl⟩ := List.cons.inj parts
              obtain ⟨level, levels⟩ := List.forall_mem_cons.mp levels
              exact Or.inr ⟨level, Or.inl ⟨earlier, other, later, rfl, levels, ahead⟩⟩
        · obtain ⟨level, levels⟩ := List.forall_mem_cons.mp levels
          exact Or.inr ⟨level, Or.inr ⟨levels, higher⟩⟩

theorem comparePlaced_eq_lt_iff {first second : Scored × Nat} :
    comparePlaced (compareRank keys) first second = .lt ↔ Precedes keys first second := by
  rw [comparePlaced, Ordering.then_eq_lt, compareRank_eq_lt_iff, compareRank_eq_eq_iff,
    Nat.compare_eq_lt, Precedes]
  constructor
  · rintro ((ahead | ⟨levels, higher⟩) | ⟨⟨levels, same⟩, earlier⟩)
    · exact Or.inl ahead
    · exact Or.inr ⟨levels, Or.inl higher⟩
    · exact Or.inr ⟨levels, Or.inr ⟨same, earlier⟩⟩
  · rintro (ahead | ⟨levels, higher | ⟨same, earlier⟩⟩)
    · exact Or.inl (Or.inl ahead)
    · exact Or.inl (Or.inr ⟨levels, higher⟩)
    · exact Or.inr ⟨⟨levels, same⟩, earlier⟩

theorem not_precedes_of_precedes {first second : Scored × Nat}
    (precedes : Precedes keys first second) : ¬ Precedes keys second first := by
  intro preceded
  rw [← comparePlaced_eq_lt_iff, comparePlaced] at precedes preceded
  rw [compareRank_swap, ← Nat.compare_swap, ← Ordering.swap_then, precedes] at preceded
  cases preceded

theorem IsRanking.unique {found ranked ranked' : List Scored}
    (ranking : IsRanking keys found ranked) (ranking' : IsRanking keys found ranked') :
    ranked = ranked' := by
  obtain ⟨entries, perm, rfl, ordered⟩ := ranking
  obtain ⟨entries', perm', rfl, ordered'⟩ := ranking'
  have same : entries = entries' := by
    refine List.Perm.eq_of_pairwise ?_ ordered ordered' (perm.trans perm'.symm)
    intro first second _ _ precedes preceded
    exact absurd preceded (not_precedes_of_precedes precedes)
  rw [same]

theorem isRanking_stableSort {found : List Scored}
    (consistent : ∀ key ∈ keys, IsPreorderOn compareValues (valuesUnder key found)) :
    IsRanking keys found
      (stableSort (fun first second => compareRank keys first second == .lt) found) := by
  obtain ⟨entries, perm, sorted, ordered⟩ :=
    exists_placed_stableSort (isPreorderOn_compareRank_of_keys consistent)
  exact ⟨entries, perm, sorted, ordered.imp comparePlaced_eq_lt_iff.mp⟩

theorem isPreorderOn_of_words {values : List String} (words : ∀ value ∈ values, ¬ IsNumeral value) :
    IsPreorderOn compareValues values :=
  (IsPreorderOn.of_transCmp values).congr fun first inFirst _ _ =>
    compareValues_of_word (Or.inl (words first inFirst))

/-- If the values under each sort key can be ranked on a line, as they can if none is a number,
there is one list of the documents found in which each precedes those behind it. They are brought
into that order, and a search that keeps them all returns the page of it. -/
theorem hits_follow_keys {found : List Scored} (consistent : ∀ key ∈ keys,
      IsPreorderOn compareValues (valuesUnder key found) ∨
        ∀ value ∈ valuesUnder key found, ¬ IsNumeral value) :
    ∃ ranked, rank keys found = some ranked ∧ ranked.Perm found ∧
      (∀ other, IsRanking keys found other ↔ other = ranked) ∧
      ∀ (store : Store) (request : CoreSearch Expression),
        request.found store.documents = .ok found → request.options.sortKeys = keys →
          request.options.dedupField = none → ∃ response,
            store.search request = .answered response ∧
              response.hits = (request.options.page ranked).map (·.hit) := by
  have ofKeys : ∀ key ∈ keys, IsPreorderOn compareValues (valuesUnder key found) := by
    intro key isKey
    rcases consistent key isKey with ranked | words
    · exact ranked
    · exact isPreorderOn_of_words words
  have isRanked := rank_eq_stableSort ofKeys
  have ranking := isRanking_stableSort ofKeys
  refine ⟨_, isRanked, rank_perm isRanked, ?_, ?_⟩
  · intro other
    constructor
    · intro ranking'
      exact ranking'.unique ranking
    · rintro rfl
      exact ranking
  · intro store request isFound sorts keepsAll
    refine ⟨_, Store.search_answered_iff.mpr ⟨found, _, isFound, ?_, rfl⟩, rfl⟩
    rw [QueryOptions.ordered_eq_rank keepsAll, sorts, isRanked]

def novel (id : String) (author year : Option String) : Document :=
  let bare : Document := { id }
  let signed := author.elim bare (bare.addValue "author")
  year.elim signed (signed.addValue "year")

def novels : Store where
  name := "novels"
  documents := [novel "a" "Le Guin" "1974", novel "b" none "1818", novel "c" "Le Guin" "999",
    novel "d" "Butler" none, (novel "e" "Butler" none).addValue "prize" "Hugo"]

def novelsRequest : CoreSearch Expression where
  rankQuery := some (.ofField "prize" "hugo")
  options := { sortKeys := [⟨"novels", "author", false⟩, ⟨"novels", "year", true⟩] }

theorem novels_follow_keys :
    let found := List.zipWith Scored.mk novels.documents [1, 1, 1, 1, 2]
    let keys := novelsRequest.options.sortKeys
    novelsRequest.found novels.documents = .ok found ∧
      (∀ key ∈ keys, IsPreorderOn compareValues (valuesUnder key found) ∨
        ∀ value ∈ valuesUnder key found, ¬ IsNumeral value) ∧
      ∃ ranked response, IsRanking keys found ranked ∧
        novels.search novelsRequest = .answered response ∧
        response.hits = (novelsRequest.options.page ranked).map (·.hit) ∧
        ranked.map (·.document.id) = ["e", "d", "a", "c", "b"] := by
  intro found keys
  have isFound : novelsRequest.found novels.documents = .ok found := rfl
  have consistent : ∀ key ∈ keys, IsPreorderOn compareValues (valuesUnder key found) ∨
      ∀ value ∈ valuesUnder key found, ¬ IsNumeral value := by
    intro key isKey
    rcases List.mem_pair.mp isKey with rfl | rfl
    · exact Or.inr (by decide +kernel)
    · exact Or.inl (isPreorderOn_compareValues_iff.mpr (by decide +kernel))
  obtain ⟨ranked, isRanked, -, ranking, answers⟩ := hits_follow_keys consistent
  obtain ⟨response, answered, hits⟩ := answers novels novelsRequest isFound rfl rfl
  have computed : (rank keys found).map (·.map (·.document.id)) =
      some ["e", "d", "a", "c", "b"] := by
    decide +kernel
  rw [isRanked] at computed
  exact ⟨isFound, consistent, ranked, response, (ranking ranked).mpr rfl, answered, hits,
    Option.some.inj computed⟩

end Scored

end FederatedSearch
