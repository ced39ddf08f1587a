import FederatedSearch.SortedMap
import Mathlib.Data.List.Induction

/-! The entries of a map, and the map of given entries: a key is looked up with a value exactly when
the two are an entry. -/

namespace FederatedSearch

theorem Ascending.nodup {κ ν : Type} [Ord κ] [Std.ReflOrd κ] {entries : List (κ × ν)}
    (ascending : Ascending entries) : (entries.map (·.1)).Nodup := by
  refine List.pairwise_map.mpr (ascending.imp ?_)
  intro first second below same
  have level : compare second.1 second.1 = .eq := Std.ReflCmp.compare_self
  rw [same, level] at below
  cases below

variable {κ ν : Type} [Ord κ] [Std.TransOrd κ] [Std.LawfulEqOrd κ]

omit [Std.TransOrd κ] in
theorem findEntry_eq_some_iff {entries : List (κ × ν)} (ascending : Ascending entries) {key : κ}
    {value : ν} : findEntry key entries = some value ↔ (key, value) ∈ entries := by
  induction entries with
  | nil => simp [findEntry]
  | cons head rest ih =>
      obtain ⟨headBelow, restAscending⟩ := List.pairwise_cons.mp ascending
      rw [findEntry, List.mem_cons]
      split
      next same =>
        obtain rfl := Std.LawfulEqCmp.eq_of_compare same
        constructor
        · intro found
          exact Or.inl (Prod.ext rfl (Option.some.inj found).symm)
        · rintro (isHead | later)
          · rw [← isHead]
          · have below : compare head.1 head.1 = .lt := headBelow (head.1, value) later
            have equal : compare head.1 head.1 = .eq := Std.ReflCmp.compare_self
            cases below.symm.trans equal
      next different =>
        rw [ih restAscending]
        constructor
        · exact Or.inr
        · rintro (isHead | later)
          · rw [← isHead] at different
            exact absurd Std.ReflCmp.compare_self different
          · exact later

omit [Std.TransOrd κ] in
theorem filter_key_eq [DecidableEq κ] {entries : List (κ × ν)} (ascending : Ascending entries)
    (key : κ) : entries.filter (·.1 = key) = (findEntry key entries).toList.map (key, ·) := by
  induction entries with
  | nil => rfl
  | cons head rest ih =>
      obtain ⟨headBelow, restAscending⟩ := List.pairwise_cons.mp ascending
      have later := ih restAscending
      rw [findEntry]
      by_cases same : head.1 = key
      · subst same
        have equal : compare head.1 head.1 = .eq := Std.ReflCmp.compare_self
        have gone : findEntry head.1 rest = none := findEntry_eq_none_of_below headBelow
        rw [List.filter_cons_of_pos (by simp), later, gone, equal]
        rfl
      · have different : compare key head.1 ≠ .eq := by
          intro found
          exact same (Std.LawfulEqCmp.eq_of_compare found).symm
        rw [List.filter_cons_of_neg (by simpa using same), later]
        split
        · contradiction
        · rfl

namespace SortedMap

omit [Std.TransOrd κ] in
theorem mem_entries_iff {map : SortedMap κ ν} {key : κ} {value : ν} :
    (key, value) ∈ map.entries ↔ map.get? key = some value :=
  (findEntry_eq_some_iff map.ascending).symm

omit [Std.LawfulEqOrd κ] in
theorem ofList_concat (pairs : List (κ × ν)) (last : κ × ν) :
    ofList (pairs ++ [last]) = (ofList pairs).insert last.1 last.2 := by
  rw [ofList, List.foldl_append]
  rfl

theorem mem_of_get?_ofList {pairs : List (κ × ν)} {key : κ} {value : ν}
    (found : (ofList pairs).get? key = some value) : (key, value) ∈ pairs := by
  induction pairs using List.reverseRecOn with
  | nil => cases found
  | append_singleton pairs last ih =>
      rw [ofList_concat, get?_insert] at found
      rw [List.mem_append, List.mem_singleton]
      by_cases same : compare key last.1 = .eq
      · rw [if_pos same] at found
        exact Or.inr (Prod.ext (Std.LawfulEqCmp.eq_of_compare same) (Option.some.inj found).symm)
      · rw [if_neg same] at found
        exact Or.inl (ih found)

theorem exists_get?_ofList {pairs : List (κ × ν)} {pair : κ × ν} (member : pair ∈ pairs) :
    ∃ value, (ofList pairs).get? pair.1 = some value := by
  induction pairs using List.reverseRecOn with
  | nil => cases member
  | append_singleton pairs last ih =>
      rw [ofList_concat, get?_insert]
      by_cases same : compare pair.1 last.1 = .eq
      · exact ⟨last.2, if_pos same⟩
      · rw [if_neg same]
        rcases List.mem_append.mp member with earlier | isLast
        · exact ih earlier
        · rw [List.mem_singleton.mp isLast] at same
          exact absurd Std.ReflCmp.compare_self same

theorem get?_ofList_iff {pairs : List (κ × ν)}
    (functional : ∀ pair ∈ pairs, ∀ other ∈ pairs, pair.1 = other.1 → pair.2 = other.2) {key : κ}
    {value : ν} : (ofList pairs).get? key = some value ↔ (key, value) ∈ pairs := by
  constructor
  · exact mem_of_get?_ofList
  · intro member
    obtain ⟨other, found⟩ := exists_get?_ofList member
    have same : value = other := functional _ member _ (mem_of_get?_ofList found) rfl
    rwa [← same] at found

theorem ofList_entries (map : SortedMap κ ν) : ofList map.entries = map := by
  have functional : ∀ pair ∈ map.entries, ∀ other ∈ map.entries,
      pair.1 = other.1 → pair.2 = other.2 := by
    rintro ⟨key, value⟩ member ⟨_, other⟩ otherMember rfl
    rw [mem_entries_iff] at member otherMember
    exact Option.some.inj (member.symm.trans otherMember)
  refine ext_get? fun key => Option.ext fun value => ?_
  rw [get?_ofList_iff functional, mem_entries_iff]

omit [Std.TransOrd κ] in
theorem mem_keys_iff {map : SortedMap κ ν} {key : κ} :
    key ∈ map.keys ↔ ∃ value, map.get? key = some value := by
  rw [keys, List.mem_map]
  constructor
  · rintro ⟨⟨_, value⟩, member, rfl⟩
    exact ⟨value, mem_entries_iff.mp member⟩
  · rintro ⟨value, found⟩
    exact ⟨(key, value), mem_entries_iff.mpr found, rfl⟩

/-! Maps with other values -/

section Values

variable {μ : Type} (change : ν → μ)

omit [Std.TransOrd κ] [Std.LawfulEqOrd κ]

def mapValues (map : SortedMap κ ν) : SortedMap κ μ where
  entries := map.entries.map (Prod.map id change)
  ascending := List.pairwise_map.mpr map.ascending

theorem get?_mapValues (map : SortedMap κ ν) (key : κ) :
    (map.mapValues change).get? key = (map.get? key).map change := by
  have ofEntries (entries : List (κ × ν)) :
      findEntry key (entries.map (Prod.map id change)) = (findEntry key entries).map change := by
    induction entries with
    | nil => rfl
    | cons entry rest ih =>
        simp only [List.map_cons, Prod.map, id_eq, findEntry, ih]
        split <;> rfl
  exact ofEntries map.entries

variable [Std.TransOrd κ] [Std.LawfulEqOrd κ]

theorem insert_mapValues (map : SortedMap κ ν) (key : κ) (value : ν) :
    (map.mapValues change).insert key (change value) = (map.insert key value).mapValues change := by
  refine ext_get? fun query => ?_
  rw [get?_insert, get?_mapValues, get?_mapValues, get?_insert]
  split <;> rfl

theorem grouped_map (pairs : List (κ × ν)) :
    grouped (pairs.map (Prod.map id change)) = (grouped pairs).mapValues (List.map change) := by
  have step (before : SortedMap κ (List ν)) :
      (pairs.map (Prod.map id change)).foldl (fun groups pair =>
          groups.update pair.1 fun earlier => earlier.getD [] ++ [pair.2])
          (before.mapValues (List.map change)) =
        (pairs.foldl (fun groups pair =>
          groups.update pair.1 fun earlier => earlier.getD [] ++ [pair.2]) before).mapValues
            (List.map change) := by
    induction pairs generalizing before with
    | nil => rfl
    | cons pair rest ih =>
        have joined : ((before.get? pair.1).map (List.map change)).getD [] ++ [change pair.2] =
            ((before.get? pair.1).getD [] ++ [pair.2]).map change := by
          cases before.get? pair.1 <;> simp
        rw [List.map_cons, List.foldl_cons, List.foldl_cons, ← ih, update, update,
          ← insert_mapValues, get?_mapValues, ← joined]
        rfl
  exact step empty

end Values

end SortedMap

end FederatedSearch
