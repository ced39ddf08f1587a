import FederatedSearch.SortedMap

/-! Finite sets whose members are listed in ascending order. A set is read by `contains`, each
operation has its law on that reading, and `ext_contains` says that nothing else tells two sets
apart. -/

namespace FederatedSearch

structure SortedSet (κ : Type) [Ord κ] where
  members : SortedMap κ Unit
deriving DecidableEq

namespace SortedSet

variable {κ : Type} [Ord κ]

def empty : SortedSet κ :=
  ⟨SortedMap.empty⟩

instance : EmptyCollection (SortedSet κ) :=
  ⟨empty⟩

instance : Inhabited (SortedSet κ) :=
  ⟨empty⟩

def contains (set : SortedSet κ) (key : κ) : Bool :=
  set.members.contains key

def toList (set : SortedSet κ) : List κ :=
  set.members.keys

def size (set : SortedSet κ) : Nat :=
  set.toList.length

def isEmpty (set : SortedSet κ) : Bool :=
  set.members.isEmpty

variable [Std.TransOrd κ]

def insert (set : SortedSet κ) (key : κ) : SortedSet κ :=
  ⟨set.members.insert key ()⟩

def insertAll (set : SortedSet κ) (keys : List κ) : SortedSet κ :=
  keys.foldl insert set

def ofList (keys : List κ) : SortedSet κ :=
  empty.insertAll keys

def union (first second : SortedSet κ) : SortedSet κ :=
  first.insertAll second.toList

def inter (first second : SortedSet κ) : SortedSet κ :=
  ofList (first.toList.filter second.contains)

variable [Std.LawfulEqOrd κ]

omit [Std.TransOrd κ] [Std.LawfulEqOrd κ] in
@[simp] theorem contains_empty (key : κ) : (empty : SortedSet κ).contains key = false :=
  rfl

theorem contains_insert (set : SortedSet κ) (key query : κ) :
    (set.insert key).contains query = true ↔ query = key ∨ set.contains query = true := by
  simp only [contains, insert, SortedMap.contains, SortedMap.get?_insert]
  split <;> simp_all

theorem contains_insertAll (set : SortedSet κ) (keys : List κ) (query : κ) :
    (set.insertAll keys).contains query = true ↔
      query ∈ keys ∨ set.contains query = true := by
  induction keys generalizing set with
  | nil => simp [insertAll]
  | cons head rest ih =>
    have step := ih (set.insert head)
    simp only [insertAll, List.foldl_cons] at step ⊢
    rw [step, contains_insert, List.mem_cons]
    constructor
    · rintro (later | same | before)
      · exact Or.inl (Or.inr later)
      · exact Or.inl (Or.inl same)
      · exact Or.inr before
    · rintro ((same | later) | before)
      · exact Or.inr (Or.inl same)
      · exact Or.inl later
      · exact Or.inr (Or.inr before)

theorem contains_ofList (keys : List κ) (query : κ) :
    (ofList keys).contains query = true ↔ query ∈ keys := by
  simp [ofList, contains_insertAll]

omit [Std.TransOrd κ] in
theorem mem_toList (set : SortedSet κ) (query : κ) :
    query ∈ set.toList ↔ set.contains query = true := by
  obtain ⟨⟨entries, ascending⟩⟩ := set
  simp only [toList, SortedMap.keys, contains, SortedMap.contains, SortedMap.get?]
  clear ascending
  induction entries with
  | nil => simp [findEntry]
  | cons head rest ih =>
    simp only [List.map_cons, List.mem_cons, findEntry]
    split
    next same => simp [Std.LawfulEqCmp.eq_of_compare same]
    next different =>
      rw [ih]
      constructor
      · rintro (same | later)
        · exact absurd (same ▸ Std.ReflCmp.compare_self) different
        · exact later
      · exact Or.inr

theorem contains_union (first second : SortedSet κ) (query : κ) :
    (first.union second).contains query = true ↔
      first.contains query = true ∨ second.contains query = true := by
  rw [union, contains_insertAll, mem_toList, or_comm]

@[ext] theorem ext_contains {first second : SortedSet κ}
    (same : ∀ query, first.contains query = second.contains query) : first = second := by
  obtain ⟨firstMap⟩ := first
  obtain ⟨secondMap⟩ := second
  congr 1
  refine SortedMap.ext_get? fun query => ?_
  have found := same query
  simp only [contains, SortedMap.contains] at found
  cases firstValue : firstMap.get? query <;> cases secondValue : secondMap.get? query <;>
    simp_all

end SortedSet

end FederatedSearch
