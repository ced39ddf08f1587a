import FederatedSearch.SortedMap
import Mathlib.Data.List.Basic

/-! Pairs grouped by key and read back: the pairs of one key stay in their order, and no pair is
lost or made up. -/

namespace FederatedSearch

variable {κ ν : Type}

def ungroup (groups : List (κ × List ν)) : List (κ × ν) :=
  groups.flatMap fun group => group.2.map (group.1, ·)

theorem mem_ungroup {groups : List (κ × List ν)} {pair : κ × ν} :
    pair ∈ ungroup groups ↔ ∃ group ∈ groups, group.1 = pair.1 ∧ pair.2 ∈ group.2 := by
  simp only [ungroup, List.mem_flatMap, List.mem_map]
  constructor
  · rintro ⟨group, inGroups, value, inGroup, rfl⟩
    exact ⟨group, inGroups, rfl, inGroup⟩
  · rintro ⟨group, inGroups, sameKey, inGroup⟩
    exact ⟨group, inGroups, pair.2, inGroup, by rw [sameKey]⟩

variable [Ord κ] [Std.LawfulEqOrd κ] [DecidableEq κ]

theorem filter_ungroup {groups : List (κ × List ν)} (ascending : Ascending groups) (key : κ) :
    (ungroup groups).filter (·.1 = key) = ((findEntry key groups).getD []).map (key, ·) := by
  induction groups with
  | nil => rfl
  | cons head rest ih =>
      obtain ⟨headBelow, restAscending⟩ := List.pairwise_cons.mp ascending
      have later := ih restAscending
      change (head.2.map (head.1, ·) ++ ungroup rest).filter _ = _
      rw [List.filter_append, later, findEntry]
      by_cases same : head.1 = key
      · subst same
        have gone : findEntry head.1 rest = none :=
          findEntry_eq_none_of_below fun entry member => headBelow entry member
        have kept : (head.2.map (head.1, ·)).filter (fun pair => decide (pair.1 = head.1)) =
            head.2.map (head.1, ·) := by
          rw [List.filter_eq_self]
          simp
        simp [gone, kept, Std.ReflCmp.compare_self]
      · have skipped : (head.2.map (head.1, ·)).filter (fun pair => decide (pair.1 = key)) = [] := by
          rw [List.filter_eq_nil_iff]
          simp [same]
        have different : compare key head.1 ≠ .eq := by
          intro found
          exact same (Std.LawfulEqCmp.eq_of_compare found).symm
        rw [skipped, List.nil_append]
        split
        · contradiction
        · rfl

namespace SortedMap

variable [Std.TransOrd κ]

theorem getD_get?_grouped (pairs : List (κ × ν)) (key : κ) :
    ((grouped pairs).get? key).getD [] = (pairs.filter (·.1 = key)).map (·.2) := by
  have step (before : SortedMap κ (List ν)) :
      ((pairs.foldl (fun groups pair =>
          groups.update pair.1 fun earlier => earlier.getD [] ++ [pair.2]) before).get? key).getD [] =
        (before.get? key).getD [] ++ (pairs.filter (·.1 = key)).map (·.2) := by
    induction pairs generalizing before with
    | nil => simp
    | cons head rest ih =>
        rw [List.foldl_cons, ih, update, get?_insert]
        by_cases same : head.1 = key
        · subst same
          simp [Std.ReflCmp.compare_self]
        · have different : compare key head.1 ≠ .eq := by
            intro found
            exact same (Std.LawfulEqCmp.eq_of_compare found).symm
          simp [same, different]
  simpa [grouped] using step empty

omit [Std.LawfulEqOrd κ] [DecidableEq κ] in
theorem key_of_mem_grouped {pairs : List (κ × ν)} {group : κ × List ν}
    (member : group ∈ (grouped pairs).entries) : ∃ pair ∈ pairs, pair.1 = group.1 := by
  have step (before : SortedMap κ (List ν))
      (inGroups : group ∈ (pairs.foldl (fun groups pair =>
        groups.update pair.1 fun earlier => earlier.getD [] ++ [pair.2]) before).entries) :
      (∃ pair ∈ pairs, pair.1 = group.1) ∨ group ∈ before.entries := by
    clear member
    induction pairs generalizing before with
    | nil => exact Or.inr inGroups
    | cons head rest ih =>
        rcases ih _ inGroups with ⟨pair, inRest, sameKey⟩ | earlier
        · exact Or.inl ⟨pair, List.mem_cons_of_mem head inRest, sameKey⟩
        · rcases key_of_mem_putEntry earlier with sameKey | inBefore
          · exact Or.inl ⟨head, List.mem_cons_self, sameKey.symm⟩
          · exact Or.inr inBefore
  rcases step empty member with found | missing
  · exact found
  · cases missing

theorem filter_ungroup_grouped (pairs : List (κ × ν)) (key : κ) :
    (ungroup (grouped pairs).entries).filter (·.1 = key) = pairs.filter (·.1 = key) := by
  rw [filter_ungroup (grouped pairs).ascending]
  change (((grouped pairs).get? key).getD []).map (key, ·) = _
  rw [getD_get?_grouped, List.map_map]
  refine Eq.trans (List.map_congr_left ?_) (List.map_id _)
  intro pair member
  have sameKey : pair.1 = key := by simpa using (List.mem_filter.mp member).2
  exact Prod.ext sameKey.symm rfl

theorem ungroup_grouped_perm (pairs : List (κ × ν)) :
    (ungroup (grouped pairs).entries).Perm pairs := by
  classical
  rw [List.perm_iff_count]
  intro pair
  have counted := congrArg (List.count pair) (filter_ungroup_grouped pairs pair.1)
  rwa [List.count_filter (by simp), List.count_filter (by simp)] at counted

end SortedMap

variable {α β : Type}

omit [Ord κ] [Std.LawfulEqOrd κ] in
/-- Items gathered key by key are the items, if each key has its turn once. -/
theorem flatMap_filter_perm {key : α → κ} {keys : List κ} (distinct : keys.Nodup) {items : List α}
    (covered : ∀ item ∈ items, key item ∈ keys) :
    (keys.flatMap fun turn => items.filter (key · = turn)).Perm items := by
  induction keys generalizing items with
  | nil =>
      have none : items = [] := List.eq_nil_iff_forall_not_mem.mpr fun item member =>
        List.not_mem_nil (covered item member)
      rw [none]
      exact List.Perm.nil
  | cons turn later ih =>
      obtain ⟨isNew, laterDistinct⟩ := List.nodup_cons.mp distinct
      have rest : ∀ other ∈ later, items.filter (key · = other) =
          (items.filter fun item => !decide (key item = turn)).filter (key · = other) := by
        intro other member
        rw [List.filter_filter]
        refine List.filter_congr fun item _ => ?_
        have different : other ≠ turn := fun same => isNew (same ▸ member)
        by_cases same : key item = other
        · simp [same, different]
        · simp [same]
      have coveredLater : ∀ item ∈ items.filter fun item => !decide (key item = turn),
          key item ∈ later := by
        intro item member
        obtain ⟨inItems, notTurn⟩ := List.mem_filter.mp member
        exact (List.mem_cons.mp (covered item inItems)).resolve_left (by simpa using notTurn)
      rw [List.flatMap_cons, List.flatMap_congr rest]
      exact ((ih laterDistinct coveredLater).append_left _).trans (List.filter_append_perm _ items)

end FederatedSearch
