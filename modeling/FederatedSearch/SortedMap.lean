/-! Finite maps kept as their entries in strictly ascending order of key. A map is read by
`get?`; `get?_insert` says what an insertion does to that reading, and `ext_get?` that maps which
read the same are the same. -/

namespace FederatedSearch

section Entries

variable {κ ν : Type} [Ord κ]

def findEntry (key : κ) : List (κ × ν) → Option ν
  | [] => none
  | (other, value) :: rest =>
    match compare key other with
    | .eq => some value
    | _ => findEntry key rest

def putEntry (key : κ) (value : ν) : List (κ × ν) → List (κ × ν)
  | [] => [(key, value)]
  | (other, old) :: rest =>
    match compare key other with
    | .lt => (key, value) :: (other, old) :: rest
    | .eq => (key, value) :: rest
    | .gt => (other, old) :: putEntry key value rest

def Ascending (entries : List (κ × ν)) : Prop :=
  entries.Pairwise fun first second => compare first.1 second.1 = .lt

instance (entries : List (κ × ν)) : Decidable (Ascending entries) :=
  inferInstanceAs (Decidable (entries.Pairwise _))

theorem key_of_mem_putEntry {key : κ} {value : ν} {entries : List (κ × ν)} {entry : κ × ν}
    (member : entry ∈ putEntry key value entries) : entry.1 = key ∨ entry ∈ entries := by
  induction entries with
  | nil => simp_all [putEntry]
  | cons head rest ih =>
    simp only [putEntry] at member
    split at member <;> simp only [List.mem_cons] at member ⊢
    · rcases member with rfl | found
      · exact Or.inl rfl
      · exact Or.inr found
    · rcases member with rfl | found
      · exact Or.inl rfl
      · exact Or.inr (Or.inr found)
    · rcases member with found | found
      · exact Or.inr (Or.inl found)
      · exact (ih found).imp_right Or.inr

theorem ascending_putEntry [Std.TransOrd κ] (key : κ) (value : ν) {entries : List (κ × ν)}
    (ascending : Ascending entries) : Ascending (putEntry key value entries) := by
  induction entries with
  | nil => simp [putEntry, Ascending]
  | cons head rest ih =>
    obtain ⟨headBelow, restAscending⟩ := List.pairwise_cons.mp ascending
    simp only [putEntry]
    split
    next below =>
      refine List.pairwise_cons.mpr ⟨fun entry member => ?_, ascending⟩
      rcases List.mem_cons.mp member with rfl | later
      · exact below
      · exact Std.TransCmp.lt_trans below (headBelow entry later)
    next same =>
      refine List.pairwise_cons.mpr ⟨fun entry member => ?_, restAscending⟩
      exact Std.TransCmp.lt_of_eq_of_lt same (headBelow entry member)
    next above =>
      refine List.pairwise_cons.mpr ⟨fun entry member => ?_, ih restAscending⟩
      rcases key_of_mem_putEntry member with keyEq | earlier
      · exact keyEq ▸ Std.OrientedCmp.lt_of_gt above
      · exact headBelow entry earlier

theorem findEntry_putEntry [Std.TransOrd κ] [Std.LawfulEqOrd κ] (key query : κ) (value : ν)
    (entries : List (κ × ν)) :
    findEntry query (putEntry key value entries) =
      if compare query key = .eq then some value else findEntry query entries := by
  induction entries with
  | nil => simp only [putEntry, findEntry]; split <;> simp_all
  | cons head rest ih =>
    simp only [putEntry]
    split
    next below => simp only [findEntry]; split <;> simp_all
    next same =>
      have keyEq := Std.LawfulEqCmp.eq_of_compare same
      subst keyEq
      simp only [findEntry]
      split <;> simp_all
    next above =>
      simp only [findEntry, ih]
      split
      next found =>
        have queryEq := Std.LawfulEqCmp.eq_of_compare found
        subst queryEq
        have below := Std.OrientedCmp.lt_of_gt above
        simp [below]
      next => rfl

theorem findEntry_eq_none_of_below {query : κ} {entries : List (κ × ν)}
    (below : ∀ entry ∈ entries, compare query entry.1 = .lt) : findEntry query entries = none := by
  induction entries with
  | nil => rfl
  | cons head rest ih =>
    have headBelow := below head List.mem_cons_self
    simp only [findEntry, headBelow]
    exact ih fun entry member => below entry (List.mem_cons_of_mem head member)

theorem key_mem_of_findEntry [Std.LawfulEqOrd κ] {key : κ} {value : ν} {entries : List (κ × ν)}
    (found : findEntry key entries = some value) : key ∈ entries.map (·.1) := by
  induction entries with
  | nil => cases found
  | cons head rest ih =>
    simp only [findEntry] at found
    split at found
    next same =>
      rw [Std.LawfulEqCmp.eq_of_compare same]
      exact List.mem_cons_self
    next => exact List.mem_cons_of_mem _ (ih found)

theorem ascending_ext [Std.TransOrd κ] [Std.LawfulEqOrd κ] {first second : List (κ × ν)}
    (firstAscending : Ascending first) (secondAscending : Ascending second)
    (same : ∀ query, findEntry query first = findEntry query second) : first = second := by
  induction first generalizing second with
  | nil =>
    cases second with
    | nil => rfl
    | cons head rest => simpa [findEntry] using same head.1
  | cons head rest ih =>
    cases second with
    | nil => simpa [findEntry] using same head.1
    | cons other others =>
      obtain ⟨headBelow, restAscending⟩ := List.pairwise_cons.mp firstAscending
      obtain ⟨otherBelow, othersAscending⟩ := List.pairwise_cons.mp secondAscending
      have sameKey : compare head.1 other.1 = .eq := by
        cases order : compare head.1 other.1 with
        | eq => rfl
        | lt =>
          have found := same head.1
          have missing := findEntry_eq_none_of_below
            (fun entry member => Std.TransCmp.lt_trans order (otherBelow entry member))
          simp [findEntry, order, missing] at found
        | gt =>
          have reversed := Std.OrientedCmp.lt_of_gt order
          have found := same other.1
          have missing := findEntry_eq_none_of_below
            (fun entry member => Std.TransCmp.lt_trans reversed (headBelow entry member))
          simp [findEntry, reversed, missing] at found
      have keyEq := Std.LawfulEqCmp.eq_of_compare sameKey
      have valueEq : head.2 = other.2 := by
        have found := same head.1
        simpa [findEntry, sameKey] using found
      have headEq : head = other := Prod.ext keyEq valueEq
      subst headEq
      congr 1
      refine ih restAscending othersAscending fun query => ?_
      have found := same query
      simp only [findEntry] at found
      split at found
      next atHead =>
        have queryEq := Std.LawfulEqCmp.eq_of_compare atHead
        subst queryEq
        rw [findEntry_eq_none_of_below headBelow, findEntry_eq_none_of_below otherBelow]
      next => exact found

end Entries

structure SortedMap (κ ν : Type) [Ord κ] where
  entries : List (κ × ν)
  ascending : Ascending entries
deriving DecidableEq

namespace SortedMap

variable {κ ν : Type} [Ord κ]

def empty : SortedMap κ ν :=
  ⟨[], List.Pairwise.nil⟩

instance : EmptyCollection (SortedMap κ ν) :=
  ⟨empty⟩

instance : Inhabited (SortedMap κ ν) :=
  ⟨empty⟩

def get? (map : SortedMap κ ν) (key : κ) : Option ν :=
  findEntry key map.entries

def getD (map : SortedMap κ ν) (key : κ) (otherwise : ν) : ν :=
  (map.get? key).getD otherwise

def contains (map : SortedMap κ ν) (key : κ) : Bool :=
  (map.get? key).isSome

def isEmpty (map : SortedMap κ ν) : Bool :=
  map.entries.isEmpty

def keys (map : SortedMap κ ν) : List κ :=
  map.entries.map (·.1)

def values (map : SortedMap κ ν) : List ν :=
  map.entries.map (·.2)

@[simp] theorem get?_empty (query : κ) : (empty : SortedMap κ ν).get? query = none :=
  rfl

variable [Std.TransOrd κ]

def insert (map : SortedMap κ ν) (key : κ) (value : ν) : SortedMap κ ν :=
  ⟨putEntry key value map.entries, ascending_putEntry key value map.ascending⟩

def update (map : SortedMap κ ν) (key : κ) (change : Option ν → ν) : SortedMap κ ν :=
  map.insert key (change (map.get? key))

def ofList (pairs : List (κ × ν)) : SortedMap κ ν :=
  pairs.foldl (fun map pair => map.insert pair.1 pair.2) empty

def grouped (pairs : List (κ × ν)) : SortedMap κ (List ν) :=
  pairs.foldl (fun groups pair => groups.update pair.1 fun before => before.getD [] ++ [pair.2])
    empty

variable [Std.LawfulEqOrd κ]

theorem get?_insert (map : SortedMap κ ν) (key query : κ) (value : ν) :
    (map.insert key value).get? query =
      if compare query key = .eq then some value else map.get? query :=
  findEntry_putEntry key query value map.entries

@[ext] theorem ext_get? {first second : SortedMap κ ν}
    (same : ∀ query, first.get? query = second.get? query) : first = second := by
  cases first with
  | mk firstEntries firstAscending =>
    cases second with
    | mk secondEntries secondAscending =>
      congr 1
      exact ascending_ext firstAscending secondAscending same

end SortedMap

end FederatedSearch
