/-! Sorting by insertion: each element in turn moves left past those it comes strictly before and
stops at the first it does not. Elements that no comparison separates keep their order. -/

namespace FederatedSearch

variable {α : Type}

def placeLast (before : α → α → Bool) (element : α) : List α → List α
  | [] => [element]
  | last :: earlier =>
    if before element last then last :: placeLast before element earlier
    else element :: last :: earlier

def insertAll (before : α → α → Bool) (sorted elements : List α) : List α :=
  (elements.foldl (fun placed element => placeLast before element placed) sorted.reverse).reverse

def stableSort (before : α → α → Bool) (elements : List α) : List α :=
  insertAll before [] elements

theorem placeLast_perm (before : α → α → Bool) (element : α) (placed : List α) :
    (placeLast before element placed).Perm (element :: placed) := by
  induction placed with
  | nil => exact List.Perm.refl _
  | cons last earlier ih =>
    simp only [placeLast]
    split
    · exact (List.Perm.cons last ih).trans (List.Perm.swap element last earlier)
    · exact List.Perm.refl _

theorem insertAll_perm (before : α → α → Bool) (sorted elements : List α) :
    (insertAll before sorted elements).Perm (sorted ++ elements) := by
  have placed_perm (placed : List α) :
      (elements.foldl (fun placed element => placeLast before element placed) placed).Perm
        (elements.reverse ++ placed) := by
    induction elements generalizing placed with
    | nil => exact List.Perm.refl _
    | cons head rest ih =>
      simp only [List.foldl_cons, List.reverse_cons, List.append_assoc, List.singleton_append]
      exact (ih _).trans ((placeLast_perm before head placed).append_left _)
  have whole := (List.reverse_perm _).trans (placed_perm sorted.reverse)
  rw [← List.reverse_append] at whole
  exact whole.trans (List.reverse_perm _)

theorem stableSort_perm (before : α → α → Bool) (elements : List α) :
    (stableSort before elements).Perm elements :=
  insertAll_perm before [] elements

theorem zipIdx_ascending (elements : List α) : elements.zipIdx.Pairwise (·.2 < ·.2) := by
  have places := List.pairwise_lt_range' (s := 0) (n := elements.length)
  rw [← List.zipIdx_map_snd 0 elements] at places
  exact List.pairwise_map.mp places

theorem placeLast_map {β : Type} (before : α → α → Bool) (view : β → α) (element : β)
    (placed : List β) :
    (placeLast (fun first second => before (view first) (view second)) element placed).map view =
      placeLast before (view element) (placed.map view) := by
  induction placed with
  | nil => rfl
  | cons last earlier ih =>
    simp only [placeLast, List.map_cons]
    split
    · rw [List.map_cons, ih]
    · rfl

theorem stableSort_map {β : Type} (before : α → α → Bool) (view : β → α) (elements : List β) :
    (stableSort (fun first second => before (view first) (view second)) elements).map view =
      stableSort before (elements.map view) := by
  have placed_map (placed : List β) :
      (elements.foldl (fun placed element =>
        placeLast (fun first second => before (view first) (view second)) element placed)
          placed).map view =
        (elements.map view).foldl (fun placed element => placeLast before element placed)
          (placed.map view) := by
    induction elements generalizing placed with
    | nil => rfl
    | cons head rest ih =>
      simp only [List.foldl_cons, List.map_cons]
      rw [ih, placeLast_map]
  rw [stableSort, insertAll, List.map_reverse, placed_map]
  rfl

/-! What is sorted is in any order that puts ahead what the sorting moves and, of two elements that
it leaves as they are, the earlier. -/

section Ahead

variable {before : α → α → Bool} {ahead : α → α → Prop}
  (trans : ∀ first second third, ahead first second → ahead second third → ahead first third)
  (moved : ∀ first second, before first second = true → ahead first second)

include trans moved

theorem pairwise_placeLast {placed : List α} {element : α}
    (inOrder : placed.Pairwise fun last earlier => ahead earlier last)
    (stays : ∀ earlier ∈ placed, before element earlier = false → ahead earlier element) :
    (placeLast before element placed).Pairwise fun last earlier => ahead earlier last := by
  induction placed with
  | nil => exact List.pairwise_singleton _ element
  | cons last earlier ih =>
    obtain ⟨aheadOfLast, restInOrder⟩ := List.pairwise_cons.mp inOrder
    obtain ⟨staysLast, staysEarlier⟩ := List.forall_mem_cons.mp stays
    simp only [placeLast]
    split
    next moves =>
      refine List.pairwise_cons.mpr ⟨?_, ih restInOrder staysEarlier⟩
      intro other member
      rcases List.mem_cons.mp ((placeLast_perm _ element earlier).mem_iff.mp member) with
        rfl | inEarlier
      · exact moved _ _ moves
      · exact aheadOfLast other inEarlier
    next remains =>
      have lastAhead := staysLast (Bool.eq_false_iff.mpr remains)
      refine List.pairwise_cons.mpr ⟨List.forall_mem_cons.mpr ⟨lastAhead, ?_⟩, inOrder⟩
      intro other inEarlier
      exact trans _ _ _ (aheadOfLast other inEarlier) lastAhead

theorem pairwise_stableSort {elements : List α}
    (stays : elements.Pairwise fun earlier later =>
      before later earlier = false → ahead earlier later) :
    (stableSort before elements).Pairwise ahead := by
  have placed (start : List α) (inOrder : start.Pairwise fun last earlier => ahead earlier last)
      (staysBehind : ∀ element ∈ elements, ∀ earlier ∈ start,
        before element earlier = false → ahead earlier element) :
      (elements.foldl (fun placed element => placeLast before element placed) start).Pairwise
        fun last earlier => ahead earlier last := by
    induction elements generalizing start with
    | nil => exact inOrder
    | cons head rest ih =>
      obtain ⟨headStays, restStays⟩ := List.pairwise_cons.mp stays
      obtain ⟨headBehind, restBehind⟩ := List.forall_mem_cons.mp staysBehind
      refine ih restStays _ (pairwise_placeLast trans moved inOrder headBehind) ?_
      intro element inRest earlier member
      rcases List.mem_cons.mp ((placeLast_perm _ head start).mem_iff.mp member) with
        rfl | inStart
      · exact headStays element inRest
      · exact restBehind element inRest earlier inStart
  exact List.pairwise_reverse.mpr (placed [] List.Pairwise.nil (by simp))

end Ahead

theorem pairwise_stableSort_rank (rank : α → Nat) (elements : List α) :
    (stableSort (fun first second => rank first < rank second) elements).Pairwise
      fun first second => rank first ≤ rank second := by
  refine pairwise_stableSort ?_ ?_ ?_
  · intro first second third
    exact Nat.le_trans
  · intro first second below
    exact Nat.le_of_lt (of_decide_eq_true below)
  · refine List.pairwise_of_forall fun earlier later notBelow => ?_
    exact Nat.le_of_not_lt (of_decide_eq_false notBelow)

end FederatedSearch
