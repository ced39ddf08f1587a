import FederatedSearch.Proofs.RestoredFacets

/-! The order in which the blocks of a response are given back, whatever request it answers and
whatever the cores answered. Each block is given the caller's name and keeps what it holds; the
blocks are sorted by where the caller first asked for them, and nothing else is moved. -/

namespace FederatedSearch

namespace TranslatedRequest

variable (translated : TranslatedRequest)

def FirstAt (position : Nat) (place : String × List String) : Prop :=
  translated.facetOrder[position]? = some place ∧
    ∀ earlier < position, translated.facetOrder[earlier]? ≠ some place

structure NamedForCaller (block given : FacetBlock) : Prop where
  core : given.core = block.core
  path : given.path = block.path
  terms : given.terms = block.terms
  named : ∀ name ∈ translated.callerNames.get?
    ⟨block.core.getD translated.resultsCore, block.field⟩, given.field = name
  unnamed : translated.callerNames.get?
    ⟨block.core.getD translated.resultsCore, block.field⟩ = none → given.field = block.field

/-- The block, given with its place in the response, comes before the other: it was requested, and
the other was not or only later; or the two were first requested together or never, and it stood
earlier. -/
def Ahead (first second : FacetBlock × Nat) : Prop :=
  (∃ position, translated.FirstAt position first.1.place ∧
      ∀ other, translated.FirstAt other second.1.place → position < other) ∨
    (∀ position, translated.FirstAt position first.1.place ↔
        translated.FirstAt position second.1.place) ∧ first.2 < second.2

def Reordered (blocks restored : List FacetBlock) : Prop :=
  ∃ (given : List FacetBlock) (entries : List (FacetBlock × Nat)),
    List.Forall₂ translated.NamedForCaller blocks given ∧ entries.Perm given.zipIdx ∧
      entries.map (·.1) = restored ∧ entries.Pairwise translated.Ahead

def requested (response : SearchResponse) : List FacetBlock :=
  (response.facets.getD []).filter fun block => block.place ∈ translated.facetOrder

variable {translated}

theorem firstAt_iff {position : Nat} {place : String × List String} :
    translated.FirstAt position place ↔
      translated.facetOrder.idxOf place = position ∧ position < translated.facetOrder.length := by
  have found_iff (inOrder : position < translated.facetOrder.length) :
      translated.FirstAt position place ↔ translated.facetOrder.idxOf place = position := by
    rw [List.idxOf, List.findIdx_eq inOrder, FirstAt, List.getElem?_eq_getElem inOrder,
      Option.some.injEq, beq_iff_eq]
    refine and_congr_right fun _ => forall₂_congr fun earlier below => ?_
    rw [List.getElem?_eq_getElem (Nat.lt_trans below inOrder), beq_eq_false_iff_ne, ne_eq, ne_eq,
      Option.some.injEq]
  constructor
  · intro first
    obtain ⟨inOrder, -⟩ := List.getElem?_eq_some_iff.mp first.1
    exact ⟨(found_iff inOrder).mp first, inOrder⟩
  · rintro ⟨found, inOrder⟩
    exact (found_iff inOrder).mpr found

theorem ahead_iff {first second : FacetBlock × Nat} :
    translated.Ahead first second ↔
      translated.position first.1 < translated.position second.1 ∨
        translated.position first.1 = translated.position second.1 ∧ first.2 < second.2 := by
  have firstBounded : translated.position first.1 ≤ translated.facetOrder.length :=
    List.idxOf_le_length
  have secondBounded : translated.position second.1 ≤ translated.facetOrder.length :=
    List.idxOf_le_length
  have firstAt (block : FacetBlock) (position : Nat) :
      translated.FirstAt position block.place ↔
        translated.position block = position ∧ position < translated.facetOrder.length :=
    firstAt_iff
  simp only [Ahead, firstAt]
  refine or_congr ⟨?_, fun below => ?_⟩ (and_congr_left' ⟨fun same => ?_, fun same => ?_⟩)
  · rintro ⟨_, ⟨rfl, inOrder⟩, isBefore⟩
    by_cases asked : translated.position second.1 < translated.facetOrder.length
    · exact isBefore _ ⟨rfl, asked⟩
    · exact Nat.lt_of_lt_of_le inOrder (Nat.le_of_not_lt asked)
  · refine ⟨_, ⟨rfl, Nat.lt_of_lt_of_le below secondBounded⟩, ?_⟩
    rintro _ ⟨rfl, -⟩
    exact below
  · have ofFirst := same (translated.position first.1)
    have ofSecond := same (translated.position second.1)
    omega
  · rw [same]
    exact fun _ => Iff.rfl

theorem namedForCaller_iff {block given : FacetBlock} :
    translated.NamedForCaller block given ↔ given = translated.renamed block := by
  constructor
  · rintro ⟨core, path, terms, named, unnamed⟩
    obtain ⟨_, _, _, _⟩ := given
    obtain rfl := core
    obtain rfl := path
    obtain rfl := terms
    rw [renamed, SortedMap.getD]
    congr 1
    cases found : translated.callerNames.get?
        ⟨block.core.getD translated.resultsCore, block.field⟩ with
    | none => exact unnamed found
    | some name => exact named name found
  · rintro rfl
    refine ⟨rfl, rfl, rfl, fun name found => ?_, fun notFound => ?_⟩
    · rw [renamed, SortedMap.getD, Option.mem_def.mp found, Option.getD_some]
    · rw [renamed, SortedMap.getD, notFound, Option.getD_none]

theorem forall₂_namedForCaller_iff {blocks given : List FacetBlock} :
    List.Forall₂ translated.NamedForCaller blocks given ↔
      blocks.map translated.renamed = given := by
  have isRenamed : translated.NamedForCaller =
      fun block given => translated.renamed block = given := by
    funext block given
    exact propext (namedForCaller_iff.trans eq_comm)
  rw [isRenamed, ← List.forall₂_eq_eq_eq, List.forall₂_map_left_iff]

/-- The order leaves one list of the blocks, and it is the one given back. -/
theorem reordered_iff {blocks restored : List FacetBlock} :
    translated.Reordered blocks restored ↔ restored = translated.restoreBlocks blocks := by
  let before (first second : FacetBlock × Nat) : Bool :=
    translated.position first.1 < translated.position second.1
  let given := blocks.map translated.renamed
  have perm : (stableSort before given.zipIdx).Perm given.zipIdx := stableSort_perm _ _
  have sorted : (stableSort before given.zipIdx).map (·.1) = translated.restoreBlocks blocks := by
    have viewed := stableSort_map
      (fun first second => translated.position first < translated.position second)
      (fun entry : FacetBlock × Nat => entry.1) given.zipIdx
    rwa [List.zipIdx_map_fst] at viewed
  have ordered : (stableSort before given.zipIdx).Pairwise translated.Ahead := by
    refine pairwise_stableSort ?_ ?_ ?_
    · intro first second third
      rw [ahead_iff, ahead_iff, ahead_iff]
      omega
    · intro first second moves
      exact ahead_iff.mpr (Or.inl (of_decide_eq_true moves))
    · refine (zipIdx_ascending given).imp fun earlier stays => ?_
      have notBehind := of_decide_eq_false stays
      rw [ahead_iff]
      omega
  constructor
  · rintro ⟨_, entries, named, others, rfl, otherOrdered⟩
    obtain rfl := forall₂_namedForCaller_iff.mp named
    have same : entries = stableSort before given.zipIdx := by
      refine List.Perm.eq_of_pairwise ?_ otherOrdered ordered (others.trans perm.symm)
      intro first second _ _ ahead behind
      rw [ahead_iff] at ahead behind
      omega
    rw [same, sorted]
  · rintro rfl
    exact ⟨given, _, forall₂_namedForCaller_iff.mpr rfl, perm, sorted, ordered⟩

theorem facets_restore (response : SearchResponse) :
    (translated.restore response).facets = response.facets.map translated.restoreBlocks := rfl

/-- Blocks that stand at different places have one order as far as they were requested. -/
theorem requested_restore_eq {response other : SearchResponse}
    (perm : (response.facets.getD []).Perm (other.facets.getD []))
    (distinct : ((response.facets.getD []).map fun block =>
      (translated.renamed block).place).Nodup) :
    translated.requested (translated.restore response) =
      translated.requested (translated.restore other) := by
  have restored_perm (response : SearchResponse) :
      ((translated.restore response).facets.getD []).Perm
        ((response.facets.getD []).map translated.renamed) := by
    rw [facets_restore]
    cases response.facets with
    | none => exact List.Perm.refl []
    | some blocks => exact stableSort_perm _ _
  have ordered (response : SearchResponse) :
      (translated.requested (translated.restore response)).Pairwise fun first second =>
        translated.position first ≤ translated.position second := by
    rw [requested, facets_restore]
    cases response.facets with
    | none => exact List.Pairwise.nil
    | some blocks => exact (pairwise_stableSort_rank translated.position _).filter _
  have samePerm : ((translated.restore response).facets.getD []).Perm
      ((translated.restore other).facets.getD []) :=
    (restored_perm response).trans ((perm.map _).trans (restored_perm other).symm)
  refine List.Perm.eq_of_pairwise ?_ (ordered response) (ordered other) (samePerm.filter _)
  intro first second inFirst inSecond below above
  obtain ⟨inRestored, asked⟩ := List.mem_filter.mp inFirst
  obtain ⟨inOther, -⟩ := List.mem_filter.mp inSecond
  have samePlace : first.place = second.place :=
    (List.idxOf_inj (of_decide_eq_true asked)).mp (Nat.le_antisymm below above)
  have distinctRestored :
      (((translated.restore response).facets.getD []).map FacetBlock.place).Nodup := by
    rw [((restored_perm response).map FacetBlock.place).nodup_iff, List.map_map]
    exact distinct
  exact List.inj_on_of_nodup_map distinctRestored inRestored (samePerm.mem_iff.mpr inOther) samePlace

/-- Restoring a response renames the blocks and reorders them, in the one way that goes by the
requests first and by the response second, and changes nothing else. So the requested part is the
same in whatever order the cores answered, if no two blocks stand at one place. -/
theorem restore_reorders (translated : TranslatedRequest) (response : SearchResponse) :
    { translated.restore response with facets := response.facets } = response ∧
      (∀ facets, Option.Rel translated.Reordered response.facets facets ↔
        facets = (translated.restore response).facets) ∧
      ∀ other : SearchResponse, (response.facets.getD []).Perm (other.facets.getD []) →
        ((response.facets.getD []).map fun block => (translated.renamed block).place).Nodup →
          translated.requested (translated.restore response) =
            translated.requested (translated.restore other) := by
  refine ⟨rfl, fun facets => ?_, fun other perm distinct => requested_restore_eq perm distinct⟩
  rw [facets_restore]
  cases response.facets <;> cases facets <;> simp [reordered_iff]

end TranslatedRequest

def kindsAndYears : TranslatedRequest where
  query := {}
  facetOrder := [("kind", []), ("year", ["1999"]), ("kind", [])]
  callerNames := SortedMap.ofList [(⟨"books", "genre"⟩, "kind")]
  resultsCore := "books"

def yearsFirst : SearchResponse where
  total := 0
  hits := []
  facets := some [⟨some "authors", "genre", [], []⟩, ⟨none, "year", ["1999"], []⟩,
    ⟨none, "genre", [], []⟩]
  suggestions := none

def genresFirst : SearchResponse :=
  { yearsFirst with facets := some [⟨none, "genre", [], []⟩, ⟨none, "year", ["1999"], []⟩,
      ⟨some "authors", "genre", [], []⟩] }

theorem yearsFirst_restored :
    (yearsFirst.facets.getD []).Perm (genresFirst.facets.getD []) ∧
      ((yearsFirst.facets.getD []).map fun block => (kindsAndYears.renamed block).place).Nodup ∧
      kindsAndYears.requested (kindsAndYears.restore yearsFirst) =
        kindsAndYears.requested (kindsAndYears.restore genresFirst) ∧
      (kindsAndYears.requested (kindsAndYears.restore genresFirst)).map FacetBlock.place =
        [("kind", []), ("year", ["1999"])] := by
  have perm : (yearsFirst.facets.getD []).Perm (genresFirst.facets.getD []) :=
    List.reverse_perm (genresFirst.facets.getD [])
  have distinct : ((yearsFirst.facets.getD []).map fun block =>
      (kindsAndYears.renamed block).place).Nodup := by decide
  obtain ⟨-, -, sameRequested⟩ := TranslatedRequest.restore_reorders kindsAndYears yearsFirst
  exact ⟨perm, distinct, sameRequested genresFirst perm distinct, rfl⟩

end FederatedSearch
