import FederatedSearch.Proofs.AnsweredSearches
import FederatedSearch.Proofs.ConsistentOrder
import Mathlib.Data.Finset.Card

/-! Which document is kept of those with one value: the first that none of them exceeds in the value
they are preferred by. The choice is a fold over the documents with the value, each with its place,
so it is looked at as one of a list that is led by its winner; what is kept of all documents is told
by places. -/

namespace FederatedSearch

/-! The first of the best -/

section Best

variable {α : Type} (compare : α → α → Ordering)

def prefer (kept challenger : α) : α :=
  if compare challenger kept = .lt then challenger else kept

def chosen? : List α → Option α
  | [] => none
  | first :: later => some (later.foldl (prefer compare) first)

def Leads (items : List α) (winner : α) : Prop :=
  ∃ earlier later, items = earlier ++ winner :: later ∧
    (∀ other ∈ earlier, compare winner other = .lt) ∧ ∀ other ∈ later, compare winner other ≠ .gt

variable {compare} {first winner kept challenger : α} {items : List α}

theorem prefer_eq_or (compare : α → α → Ordering) (kept challenger : α) :
    prefer compare kept challenger = kept ∨ prefer compare kept challenger = challenger := by
  unfold prefer
  split
  · exact Or.inr rfl
  · exact Or.inl rfl

theorem foldl_prefer_mem (compare : α → α → Ordering) (first : α) (later : List α) :
    later.foldl (prefer compare) first ∈ first :: later := by
  induction later generalizing first with
  | nil => exact List.mem_cons_self
  | cons challenger rest ih =>
      rw [List.foldl_cons]
      rcases prefer_eq_or compare first challenger with stays | yields
      · rw [stays]
        exact List.cons_subset_cons first (List.subset_cons_self challenger rest) (ih first)
      · rw [yields]
        exact List.mem_cons_of_mem first (ih challenger)

theorem mem_of_chosen? (isChosen : chosen? compare items = some winner) : winner ∈ items := by
  cases items with
  | nil => cases isChosen
  | cons first later =>
      rw [← Option.some.inj isChosen]
      exact foldl_prefer_mem compare first later

theorem exists_chosen? {item : α} (compare : α → α → Ordering) (member : item ∈ items) :
    ∃ winner, chosen? compare items = some winner := by
  cases items with
  | nil => cases member
  | cons first later => exact ⟨_, rfl⟩

namespace Leads

theorem ne_gt_of_mem (leads : Leads compare items winner) (level : compare winner winner = .eq)
    {other : α} (member : other ∈ items) : compare winner other ≠ .gt := by
  obtain ⟨earlier, later, rfl, before, after⟩ := leads
  rcases List.mem_append.mp member with isEarlier | member
  · simp [before other isEarlier]
  · rcases List.mem_cons.mp member with rfl | isLater
    · simp [level]
    · exact after other isLater

theorem yield (leads : Leads compare (challenger :: items) winner)
    (ahead : compare winner kept = .lt) : Leads compare (kept :: challenger :: items) winner := by
  obtain ⟨earlier, later, parts, before, after⟩ := leads
  refine ⟨kept :: earlier, later, ?_, ?_, after⟩
  · rw [parts, List.cons_append]
  · exact List.forall_mem_cons.mpr ⟨ahead, before⟩

/-- A challenger that is not ahead of the one kept changes nothing. -/
theorem stay (leads : Leads compare (kept :: items) winner)
    (notAhead : compare kept challenger ≠ .gt)
    (passes : compare winner kept = .lt → compare winner challenger = .lt) :
    Leads compare (kept :: challenger :: items) winner := by
  obtain ⟨earlier, later, parts, before, after⟩ := leads
  cases earlier with
  | nil =>
      obtain ⟨rfl, rfl⟩ := List.cons.inj parts
      exact ⟨[], challenger :: items, rfl, before, List.forall_mem_cons.mpr ⟨notAhead, after⟩⟩
  | cons head earlier =>
      obtain ⟨rfl, rfl⟩ := List.cons.inj parts
      obtain ⟨aheadOfKept, aheadOfOthers⟩ := List.forall_mem_cons.mp before
      refine ⟨kept :: challenger :: earlier, later, rfl, ?_, after⟩
      intro other member
      rcases List.mem_cons.mp member with rfl | member
      · exact aheadOfKept
      · rcases List.mem_cons.mp member with rfl | member
        · exact passes aheadOfKept
        · exact aheadOfOthers other member

end Leads

theorem foldl_prefer_leads {later : List α} (consistent : IsPreorderOn compare (first :: later)) :
    Leads compare (first :: later) (later.foldl (prefer compare) first) := by
  induction later generalizing first with
  | nil => exact ⟨[], [], rfl, by simp, by simp⟩
  | cons challenger rest ih =>
      have inFirst : first ∈ first :: challenger :: rest := List.mem_cons_self
      have inChallenger : challenger ∈ first :: challenger :: rest := by simp
      rw [List.foldl_cons]
      by_cases ahead : compare challenger first = .lt
      · have leads := ih (consistent.mono (List.subset_cons_self first (challenger :: rest)))
        have inWinner := List.mem_cons_of_mem first (foldl_prefer_mem compare challenger rest)
        have notBehind := leads.ne_gt_of_mem (consistent.refl inWinner) List.mem_cons_self
        rw [prefer, if_pos ahead]
        exact leads.yield (consistent.reverse.lt_of_lt_of_ne_gt inFirst inChallenger inWinner ahead
          notBehind)
      · have kept : first :: rest ⊆ first :: challenger :: rest :=
          List.cons_subset_cons first (List.subset_cons_self challenger rest)
        have leads := ih (consistent.mono kept)
        have inWinner := kept (foldl_prefer_mem compare first rest)
        have notBehind : compare first challenger ≠ .gt := by
          intro behind
          rw [consistent.1 challenger inChallenger first inFirst, behind] at ahead
          exact ahead rfl
        rw [prefer, if_neg ahead]
        exact leads.stay notBehind fun aheadOfKept =>
          consistent.lt_of_lt_of_ne_gt inWinner inFirst inChallenger aheadOfKept notBehind

theorem leads_of_chosen? (consistent : IsPreorderOn compare items)
    (isChosen : chosen? compare items = some winner) : Leads compare items winner := by
  cases items with
  | nil => cases isChosen
  | cons first later =>
      rw [← Option.some.inj isChosen]
      exact foldl_prefer_leads consistent

end Best

theorem Leads.lt_of_before {β : Type} {compare : β × Nat → β × Nat → Ordering}
    {entries : List (β × Nat)} {winner other : β × Nat} (leads : Leads compare entries winner)
    (ascending : entries.Pairwise (·.2 < ·.2)) (member : other ∈ entries)
    (before : other.2 < winner.2) : compare winner other = .lt := by
  obtain ⟨earlier, later, rfl, ahead, _⟩ := leads
  rcases List.mem_append.mp member with isEarlier | member
  · exact ahead other isEarlier
  · rcases List.mem_cons.mp member with rfl | isLater
    · omega
    · have behind := List.rel_of_pairwise_cons (List.pairwise_append.mp ascending).2.1 isLater
      omega

namespace Scored

variable {field : String} {sortField : Option String} {value : String} {ranked kept : List Scored}

def sortValue (sortField : Option String) (scored : Scored) : Option String :=
  sortField.bind scored.document.firstValue?

def comparePreferred (sortField : Option String) (first second : Scored × Nat) : Ordering :=
  compareOptional true (first.1.sortValue sortField) (second.1.sortValue sortField)

theorem replaces_eq_true_iff {challenger kept : Scored × Nat} :
    replaces sortField challenger.1 kept.1 = true ↔
      comparePreferred sortField challenger kept = .lt := by
  unfold replaces comparePreferred sortValue
  cases sortField with
  | none => simp [compareOptional]
  | some field =>
      simp only [Option.bind_some]
      cases challenger.1.document.firstValue? field with
      | none => cases kept.1.document.firstValue? field <;> simp [compareOptional]
      | some own =>
          cases kept.1.document.firstValue? field with
          | none => simp [compareOptional]
          | some keptValue =>
              rw [compareOptional, if_pos rfl, compareValues_swap keptValue own]
              simp

def sharers (field value : String) (position : Nat) (ranked : List Scored) :
    List (Scored × Nat) :=
  (ranked.zipIdx position).filter fun entry => entry.1.document.firstValue? field = some value

theorem sharers_cons (position : Nat) (scored : Scored) (rest : List Scored) :
    sharers field value position (scored :: rest) =
      if scored.document.firstValue? field = some value then
        (scored, position) :: sharers field value (position + 1) rest
      else sharers field value (position + 1) rest := by
  simp [sharers, List.zipIdx_cons, List.filter_cons]

theorem mem_sharers_iff {entry : Scored × Nat} : entry ∈ sharers field value 0 ranked ↔
    ranked[entry.2]? = some entry.1 ∧ entry.1.document.firstValue? field = some value := by
  simp [sharers, List.mem_zipIdx_iff_getElem?]

theorem keptPosition_some (entry : Scored × Nat) (position : Nat) (rest : List Scored) :
    keptPosition field sortField value (some (entry.2, entry.1)) position rest =
      some ((sharers field value position rest).foldl (prefer (comparePreferred sortField))
        entry).2 := by
  induction rest generalizing entry position with
  | nil => rfl
  | cons scored rest ih =>
      rw [keptPosition, sharers_cons]
      by_cases shares : scored.document.firstValue? field = some value
      · rw [if_pos shares, if_pos shares, List.foldl_cons]
        by_cases better : comparePreferred sortField (scored, position) entry = .lt
        · rw [if_pos (replaces_eq_true_iff.mpr better), prefer, if_pos better]
          exact ih (scored, position) (position + 1)
        · rw [if_neg (mt replaces_eq_true_iff.mp better), prefer, if_neg better]
          exact ih entry (position + 1)
      · rw [if_neg shares, if_neg shares]
        exact ih entry (position + 1)

theorem keptPosition_none (position : Nat) (rest : List Scored) :
    keptPosition field sortField value none position rest =
      (chosen? (comparePreferred sortField) (sharers field value position rest)).map (·.2) := by
  induction rest generalizing position with
  | nil => rfl
  | cons scored rest ih =>
      rw [keptPosition, sharers_cons]
      by_cases shares : scored.document.firstValue? field = some value
      · rw [if_pos shares, if_pos shares]
        exact keptPosition_some (scored, position) (position + 1) rest
      · rw [if_neg shares, if_neg shares]
        exact ih (position + 1)

/-! The places of the documents that are kept -/

def valueAt (field : String) (ranked : List Scored) (place : Nat) : Option String :=
  ranked[place]?.bind (·.document.firstValue? field)

def sortValueAt (sortField : Option String) (ranked : List Scored) (place : Nat) : Option String :=
  ranked[place]?.bind (·.sortValue sortField)

def sortValues (field : String) (sortField : Option String) (value : String)
    (ranked : List Scored) : List String :=
  (ranked.filter (·.document.firstValue? field = some value)).filterMap (·.sortValue sortField)

/-- The first of the places with a value that no other exceeds in what they are preferred by. One
that has nothing to be preferred by exceeds none, and any other exceeds it. -/
structure IsPreferred (field : String) (sortField : Option String) (value : String)
    (ranked : List Scored) (place : Nat) : Prop where
  unexceeded : ∀ other, valueAt field ranked other = some value →
    ∀ rival ∈ sortValueAt sortField ranked other,
      ∃ own ∈ sortValueAt sortField ranked place, compareValues rival own ≠ .gt
  earliest : ∀ other < place, valueAt field ranked other = some value →
    ∀ rival ∈ sortValueAt sortField ranked other,
      ∃ own ∈ sortValueAt sortField ranked place, compareValues rival own = .lt
  first : (∀ other, valueAt field ranked other = some value →
      sortValueAt sortField ranked other = none) →
    ∀ other, valueAt field ranked other = some value → place ≤ other

/-- The documents kept are those at the places: all without a value, and one for each value. -/
structure Deduplicates (field : String) (sortField : Option String) (ranked kept : List Scored)
    (places : List Nat) : Prop where
  ascending : places.Pairwise (· < ·)
  kept : kept.map some = places.map (ranked[·]?)
  valueless : ∀ place < ranked.length, valueAt field ranked place = none → place ∈ places
  single : ∀ other value, valueAt field ranked other = some value →
    ∃! place, place ∈ places ∧ valueAt field ranked place = some value
  first : sortField = none → ∀ place ∈ places, ∀ value, valueAt field ranked place = some value →
    ∀ other, valueAt field ranked other = some value → place ≤ other
  preferred : ∀ place ∈ places, ∀ value, valueAt field ranked place = some value →
    IsPreorderOn compareValues (sortValues field sortField value ranked) →
      IsPreferred field sortField value ranked place

theorem valueAt_eq_some_iff {place : Nat} : valueAt field ranked place = some value ↔
    ∃ scored, (scored, place) ∈ sharers field value 0 ranked := by
  simp [valueAt, mem_sharers_iff, Option.bind_eq_some_iff]

theorem sortValueAt_of_mem {entry : Scored × Nat} (member : entry ∈ sharers field value 0 ranked) :
    sortValueAt sortField ranked entry.2 = entry.1.sortValue sortField := by
  simp [sortValueAt, (mem_sharers_iff.mp member).1]

theorem exists_own {own? : Option String} {rival : String}
    (notBehind : compareOptional true own? (some rival) ≠ .gt) :
    ∃ own ∈ own?, compareValues rival own = compareOptional true own? (some rival) := by
  cases own? with
  | none => exact absurd rfl notBehind
  | some own => exact ⟨own, rfl, rfl⟩

theorem isPreorderOn_comparePreferred
    (consistent : IsPreorderOn compareValues (sortValues field sortField value ranked)) :
    IsPreorderOn (comparePreferred sortField) (sharers field value 0 ranked) := by
  have options : IsPreorderOn (compareOptional true)
      ((sharers field value 0 ranked).map (·.1.sortValue sortField)) := by
    refine isPreorderOn_compareOptional true consistent ?_
    intro option member own isOwn
    obtain ⟨entry, inSharers, rfl⟩ := List.mem_map.mp member
    obtain ⟨stands, shares⟩ := mem_sharers_iff.mp inSharers
    refine List.mem_filterMap.mpr ⟨entry.1, List.mem_filter.mpr ⟨?_, by simpa using shares⟩, isOwn⟩
    exact List.mem_of_getElem? stands
  exact options.comap fun entry member => List.mem_map_of_mem member

theorem sharers_ascending (field value : String) (ranked : List Scored) :
    (sharers field value 0 ranked).Pairwise (·.2 < ·.2) :=
  (zipIdx_ascending ranked).filter _

theorem isPreferred_of_leads {winner : Scored × Nat}
    (member : winner ∈ sharers field value 0 ranked)
    (level : comparePreferred sortField winner winner = .eq)
    (leads : Leads (comparePreferred sortField) (sharers field value 0 ranked) winner) :
    IsPreferred field sortField value ranked winner.2 := by
  have ofWinner : sortValueAt sortField ranked winner.2 = winner.1.sortValue sortField :=
    sortValueAt_of_mem member
  have ascending := sharers_ascending field value ranked
  constructor
  · intro other shares rival isRival
    obtain ⟨scored, inSharers⟩ := valueAt_eq_some_iff.mp shares
    have notBehind := leads.ne_gt_of_mem level inSharers
    rw [sortValueAt_of_mem inSharers] at isRival
    rw [comparePreferred, isRival] at notBehind
    obtain ⟨own, isOwn, same⟩ := exists_own notBehind
    exact ⟨own, ofWinner ▸ isOwn, same ▸ notBehind⟩
  · intro other before shares rival isRival
    obtain ⟨scored, inSharers⟩ := valueAt_eq_some_iff.mp shares
    have aheadOfOther := leads.lt_of_before ascending inSharers before
    rw [sortValueAt_of_mem inSharers] at isRival
    rw [comparePreferred, isRival] at aheadOfOther
    obtain ⟨own, isOwn, same⟩ := exists_own (by rw [aheadOfOther]; decide)
    exact ⟨own, ofWinner ▸ isOwn, same.trans aheadOfOther⟩
  · intro unsorted other shares
    obtain ⟨scored, inSharers⟩ := valueAt_eq_some_iff.mp shares
    by_contra before
    have aheadOfOther := leads.lt_of_before ascending inSharers (by omega)
    have sharesToo := valueAt_eq_some_iff.mpr ⟨winner.1, member⟩
    rw [comparePreferred, ← ofWinner, ← sortValueAt_of_mem inSharers, unsorted other shares,
      unsorted winner.2 sharesToo] at aheadOfOther
    cases aheadOfOther

def keptEntries (field : String) (sortField : Option String) (ranked : List Scored) :
    List (Scored × Nat) :=
  ranked.zipIdx.filter fun entry => isKept field sortField ranked entry.1 entry.2

theorem keptEntries_map_fst (field : String) (sortField : Option String) (ranked : List Scored) :
    (keptEntries field sortField ranked).map (·.1) = dedup field sortField ranked :=
  rfl

theorem mem_keptEntries_iff {entry : Scored × Nat} : entry ∈ keptEntries field sortField ranked ↔
    ranked[entry.2]? = some entry.1 ∧ ∀ value ∈ entry.1.document.firstValue? field,
      (chosen? (comparePreferred sortField) (sharers field value 0 ranked)).map (·.2) =
        some entry.2 := by
  rw [keptEntries, List.mem_filter, List.mem_zipIdx_iff_getElem?]
  refine and_congr_right fun _ => ?_
  unfold isKept
  cases entry.1.document.firstValue? field with
  | none => simp
  | some value => simp [keptPosition_none]

theorem mem_keptEntries_iff_chosen {entry : Scored × Nat}
    (shares : entry.1.document.firstValue? field = some value) :
    entry ∈ keptEntries field sortField ranked ↔
      chosen? (comparePreferred sortField) (sharers field value 0 ranked) = some entry := by
  rw [mem_keptEntries_iff, shares]
  simp only [Option.mem_def, Option.some.injEq, forall_eq']
  constructor
  · rintro ⟨stands, isChosen⟩
    obtain ⟨winner, isWinner, samePlace⟩ := Option.map_eq_some_iff.mp isChosen
    have ofWinner := (mem_sharers_iff.mp (mem_of_chosen? isWinner)).1
    rw [samePlace, stands] at ofWinner
    rw [isWinner, Prod.ext (Option.some.inj ofWinner).symm samePlace]
  · intro isChosen
    exact ⟨(mem_sharers_iff.mp (mem_of_chosen? isChosen)).1, by rw [isChosen]; rfl⟩

theorem exists_keptEntry {scored : Scored} (sortField : Option String) (member : scored ∈ ranked)
    (shares : scored.document.firstValue? field = some value) :
    ∃ winner ∈ keptEntries field sortField ranked,
      winner.1.document.firstValue? field = some value := by
  obtain ⟨place, stands⟩ := List.mem_iff_getElem?.mp member
  have inSharers : (scored, place) ∈ sharers field value 0 ranked :=
    mem_sharers_iff.mpr ⟨stands, shares⟩
  obtain ⟨winner, isChosen⟩ := exists_chosen? (comparePreferred sortField) inSharers
  have ofWinner := (mem_sharers_iff.mp (mem_of_chosen? isChosen)).2
  exact ⟨winner, (mem_keptEntries_iff_chosen ofWinner).mpr isChosen, ofWinner⟩

theorem keptEntries_ascending (field : String) (sortField : Option String) (ranked : List Scored) :
    (keptEntries field sortField ranked).Pairwise (·.2 < ·.2) :=
  (zipIdx_ascending ranked).filter _

theorem keptEntries_values_nodup (field : String) (sortField : Option String)
    (ranked : List Scored) :
    ((keptEntries field sortField ranked).filterMap (·.1.document.firstValue? field)).Nodup := by
  refine List.pairwise_filterMap.mpr ((keptEntries_ascending field sortField ranked).imp_of_mem ?_)
  rintro first second inFirst inSecond before value ofFirst _ ofSecond rfl
  rw [mem_keptEntries_iff_chosen ofFirst] at inFirst
  rw [mem_keptEntries_iff_chosen ofSecond, inFirst] at inSecond
  obtain rfl := Option.some.inj inSecond
  omega

theorem keptEntries_values_toFinset (field : String) (sortField : Option String)
    (ranked : List Scored) :
    ((keptEntries field sortField ranked).filterMap (·.1.document.firstValue? field)).toFinset =
      (ranked.filterMap (·.document.firstValue? field)).toFinset := by
  ext value
  simp only [List.mem_toFinset, List.mem_filterMap]
  constructor
  · rintro ⟨entry, inKept, ofEntry⟩
    exact ⟨entry.1, List.mem_of_getElem? (mem_keptEntries_iff.mp inKept).1, ofEntry⟩
  · rintro ⟨scored, member, shares⟩
    exact exists_keptEntry sortField member shares

theorem keptEntries_countP (field : String) (sortField : Option String) (ranked : List Scored) :
    (keptEntries field sortField ranked).countP (·.1.document.firstValue? field = none) =
      ranked.countP (·.document.firstValue? field = none) := by
  have allKept : ∀ entry ∈ ranked.zipIdx,
      (decide (entry.1.document.firstValue? field = none) &&
        isKept field sortField ranked entry.1 entry.2) = true ↔
          decide (entry.1.document.firstValue? field = none) = true := by
    intro entry _
    unfold isKept
    cases entry.1.document.firstValue? field <;> simp
  calc (keptEntries field sortField ranked).countP (·.1.document.firstValue? field = none)
      = ranked.zipIdx.countP (·.1.document.firstValue? field = none) := by
        rw [keptEntries, List.countP_filter, List.countP_congr allKept]
    _ = (ranked.zipIdx.map (·.1)).countP (·.document.firstValue? field = none) :=
        by rw [List.countP_map]; rfl
    _ = ranked.countP (·.document.firstValue? field = none) := by rw [List.zipIdx_map_fst]

def countApart (field : String) (found : List Scored) : Nat :=
  found.countP (·.document.firstValue? field = none) +
    (found.filterMap (·.document.firstValue? field)).toFinset.card

theorem countApart_perm {found : List Scored} (reordered : ranked.Perm found) :
    countApart field ranked = countApart field found := by
  rw [countApart, countApart, reordered.countP_eq,
    List.toFinset_eq_of_perm _ _ (reordered.filterMap _)]

theorem length_dedup (field : String) (sortField : Option String) (ranked : List Scored) :
    (dedup field sortField ranked).length = countApart field ranked := by
  have valued : (keptEntries field sortField ranked).countP
      (fun entry => ¬ decide (entry.1.document.firstValue? field = none) = true) =
        (ranked.filterMap (·.document.firstValue? field)).toFinset.card := by
    rw [← keptEntries_values_toFinset field sortField,
      List.toFinset_card_of_nodup (keptEntries_values_nodup field sortField ranked),
      List.length_filterMap_eq_countP]
    refine List.countP_congr fun entry _ => ?_
    simp [Option.isSome_iff_ne_none]
  rw [← keptEntries_map_fst, List.length_map, countApart, ← keptEntries_countP field sortField,
    ← valued]
  exact List.length_eq_countP_add_countP _

theorem exists_mem_keptEntries_iff {place : Nat} :
    (place ∈ (keptEntries field sortField ranked).map (·.2) ∧
        valueAt field ranked place = some value) ↔
      ∃ winner, chosen? (comparePreferred sortField) (sharers field value 0 ranked) = some winner ∧
        winner.2 = place := by
  constructor
  · rintro ⟨isPlace, shares⟩
    obtain ⟨entry, inKept, rfl⟩ := List.mem_map.mp isPlace
    rw [valueAt, (mem_keptEntries_iff.mp inKept).1] at shares
    exact ⟨entry, (mem_keptEntries_iff_chosen shares).mp inKept, rfl⟩
  · rintro ⟨winner, isChosen, rfl⟩
    have inSharers := mem_of_chosen? isChosen
    have inKept := (mem_keptEntries_iff_chosen (mem_sharers_iff.mp inSharers).2).mpr isChosen
    exact ⟨List.mem_map_of_mem inKept, valueAt_eq_some_iff.mpr ⟨winner.1, inSharers⟩⟩

theorem isPreferred_of_chosen? {winner : Scored × Nat}
    (consistent : IsPreorderOn compareValues (sortValues field sortField value ranked))
    (isChosen : chosen? (comparePreferred sortField) (sharers field value 0 ranked) = some winner) :
    IsPreferred field sortField value ranked winner.2 := by
  have inSharers := mem_of_chosen? isChosen
  have preferred := isPreorderOn_comparePreferred consistent
  exact isPreferred_of_leads inSharers (preferred.refl inSharers)
    (leads_of_chosen? preferred isChosen)

theorem sortValues_none (field value : String) (ranked : List Scored) :
    sortValues field none value ranked = [] := by
  simp [sortValues, sortValue]

theorem dedup_deduplicates (field : String) (sortField : Option String) (ranked : List Scored) :
    Deduplicates field sortField ranked (dedup field sortField ranked)
      ((keptEntries field sortField ranked).map (·.2)) where
  ascending := List.pairwise_map.mpr (keptEntries_ascending field sortField ranked)
  kept := by
    rw [← keptEntries_map_fst, List.map_map, List.map_map]
    refine List.map_congr_left fun entry member => ?_
    exact (mem_keptEntries_iff.mp member).1.symm
  valueless := by
    intro place within without
    have stands := List.getElem?_eq_getElem within
    rw [valueAt, stands, Option.bind_some] at without
    refine List.mem_map.mpr ⟨(ranked[place], place), mem_keptEntries_iff.mpr ⟨stands, ?_⟩, rfl⟩
    simp [without]
  single := by
    intro other value shares
    obtain ⟨scored, inSharers⟩ := valueAt_eq_some_iff.mp shares
    obtain ⟨winner, isChosen⟩ := exists_chosen? (comparePreferred sortField) inSharers
    refine ⟨winner.2, exists_mem_keptEntries_iff.mpr ⟨winner, isChosen, rfl⟩, ?_⟩
    intro place isPlace
    obtain ⟨winner', isChosen', rfl⟩ := exists_mem_keptEntries_iff.mp isPlace
    rw [Option.some.inj (isChosen'.symm.trans isChosen)]
  first := by
    rintro rfl place isPlace value shares
    obtain ⟨winner, isChosen, rfl⟩ := exists_mem_keptEntries_iff.mp ⟨isPlace, shares⟩
    have trivially : IsPreorderOn compareValues (sortValues field none value ranked) := by
      simp [sortValues_none, IsPreorderOn]
    refine (isPreferred_of_chosen? trivially isChosen).first fun other _ => ?_
    simp [sortValueAt, sortValue]
  preferred := by
    intro place isPlace value shares consistent
    obtain ⟨winner, isChosen, rfl⟩ := exists_mem_keptEntries_iff.mp ⟨isPlace, shares⟩
    exact isPreferred_of_chosen? consistent isChosen

theorem length_ordered {options : QueryOptions} {found ordered : List Scored}
    (isOrdered : options.ordered found = some ordered) :
    ordered.length = match options.dedupField with
      | none => found.length
      | some field => countApart field found := by
  obtain ⟨ranked, isRanked, rfl⟩ := Option.map_eq_some_iff.mp isOrdered
  have reordered := rank_perm isRanked
  cases options.dedupField with
  | none => exact reordered.length_eq
  | some field => exact (length_dedup _ _ _).trans (countApart_perm reordered)

theorem total_eq_countApart {store : Store} {request : CoreSearch Expression}
    {response : CoreResponse} (dedups : request.options.dedupField = some field)
    (answers : store.search request = .answered response) :
    ∃ found, request.found store.documents = .ok found ∧
      response.total = countApart field found := by
  obtain ⟨found, ordered, isFound, isOrdered, rfl⟩ := Store.search_answered_iff.mp answers
  have counted := length_ordered isOrdered
  rw [dedups] at counted
  exact ⟨found, isFound, counted⟩

/-- Of the documents with one value, one is kept: the first that none exceeds if there is something
to prefer it by and the values of that can be ranked on a line, and the first of all if there is
nothing. A search that does so counts the documents without a value and the values of the others. -/
theorem dedup_keeps_one (field : String) :
    (∀ sortField ranked,
      (∃ places, Deduplicates field sortField ranked (dedup field sortField ranked) places) ∧
        (dedup field sortField ranked).length = countApart field ranked) ∧
    ∀ (store : Store) request response, request.options.dedupField = some field →
      store.search request = .answered response → ∃ found,
        request.found store.documents = .ok found ∧ response.total = countApart field found := by
  refine ⟨?_, ?_⟩
  · intro sortField ranked
    exact ⟨⟨_, dedup_deduplicates field sortField ranked⟩, length_dedup field sortField ranked⟩
  · intro store request response dedups answers
    exact total_eq_countApart dedups answers

def printed (id year : String) : Document :=
  (Document.addValue { id } "work" "w").addValue "year" year

def prints : Store where
  name := "prints"
  documents := [printed "a" "999", printed "b" "2001", printed "c" "2001", { id := "d" }]

def worksRequest : CoreSearch Expression where
  options := { dedupField := some "work", dedupSortField := some "year" }

theorem prints_kept :
    let found := prints.documents.map (⟨·, 1⟩)
    (dedup "work" (some "year") found).map (·.document.id) = ["b", "d"] ∧
      IsPreorderOn compareValues (sortValues "work" (some "year") "w" found) ∧
      (∃ places, Deduplicates "work" (some "year") found (dedup "work" (some "year") found) places ∧
        ∀ place ∈ places, valueAt "work" found place = some "w" →
          IsPreferred "work" (some "year") "w" found place) ∧
      ∃ response, prints.search worksRequest = .answered response ∧ response.total = 2 ∧
        ∃ found, worksRequest.found prints.documents = .ok found ∧
          response.total = countApart "work" found := by
  intro found
  have consistent : IsPreorderOn compareValues (sortValues "work" (some "year") "w" found) := by
    rw [isPreorderOn_compareValues_iff]
    decide +kernel
  obtain ⟨ofLists, ofStores⟩ := dedup_keeps_one "work"
  obtain ⟨⟨places, deduplicates⟩, -⟩ := ofLists (some "year") found
  refine ⟨by decide +kernel, consistent, ⟨places, deduplicates, ?_⟩, ?_⟩
  · intro place isPlace shares
    exact deduplicates.preferred place isPlace "w" shares consistent
  · exact ⟨_, rfl, by decide +kernel, ofStores prints worksRequest _ rfl rfl⟩

end Scored

end FederatedSearch
