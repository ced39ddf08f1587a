import FederatedSearch.Number.Numeral
import FederatedSearch.Search.Options
import FederatedSearch.SortedSet
import FederatedSearch.Sorting.Preorder
import FederatedSearch.Sorting.Quick
import FederatedSearch.Store.Document

/-! The order of the documents found, and keeping one of those that are taken as one. -/

namespace FederatedSearch

structure Scored where
  document : Document
  score : Rat

namespace Scored

def compareOptional (descending : Bool) (first second : Option String) : Ordering :=
  match first, second with
  | some first, some second =>
    if descending then compareValues second first else compareValues first second
  | some _, none => .lt
  | none, some _ => .gt
  | none, none => .eq

def compareBy (key : SortKey) (first second : Scored) : Ordering :=
  compareOptional key.descending (first.document.firstValue? key.field)
    (second.document.firstValue? key.field)

def compareRank (keys : List SortKey) (first second : Scored) : Ordering :=
  match keys with
  | [] => Numeral.compareRat second.score first.score
  | key :: keys => (compareBy key first second).then (compareRank keys first second)

def valuesUnder (key : SortKey) (found : List Scored) : List String :=
  (SortedSet.ofList (found.filterMap (·.document.firstValue? key.field))).toList

/-- The documents in order; those level with each other stay as they are. Values that are partly
numbers may go round in a circle; then the outcome depends on how the documents are sorted, and
there is none if the circle is noticed. -/
def rank (keys : List SortKey) (found : List Scored) : Option (List Scored) :=
  let before (first second : Scored) : Bool := compareRank keys first second == .lt
  if keys.all fun key => comparesByCount compareValues (valuesUnder key found) then
    some (stableSort before found)
  else sortOrBreak before found

theorem rank_perm {keys : List SortKey} {found ranked : List Scored}
    (done : rank keys found = some ranked) : ranked.Perm found := by
  unfold rank at done
  dsimp only at done
  split at done
  · rw [← Option.some.inj done]
    exact stableSort_perm _ found
  · exact sortOrBreak_perm done

theorem rank_eq_stableSort {keys : List SortKey} {found : List Scored}
    (consistent : ∀ key ∈ keys, IsPreorderOn compareValues (valuesUnder key found)) :
    rank keys found =
      some (stableSort (fun first second => compareRank keys first second == .lt) found) := by
  unfold rank
  rw [if_pos (List.all_eq_true.mpr fun key inKeys =>
    (comparesByCount_iff _ _).mpr (consistent key inKeys))]

def replaces (sortField : Option String) (challenger kept : Scored) : Bool :=
  match sortField with
  | none => false
  | some field =>
    match challenger.document.firstValue? field, kept.document.firstValue? field with
    | some value, some keptValue => compareValues value keptValue == .gt
    | some _, none => true
    | none, _ => false

/-- The position, among documents counted from `position` on, of the one kept of those whose dedup
value is `value`; `kept` is the one kept so far, with its position. -/
def keptPosition (field : String) (sortField : Option String) (value : String) :
    Option (Nat × Scored) → Nat → List Scored → Option Nat
  | kept, _, [] => kept.map (·.1)
  | kept, position, scored :: rest =>
    let next :=
      if scored.document.firstValue? field = some value then
        match kept with
        | none => some (position, scored)
        | some (keptAt, best) =>
          if replaces sortField scored best then some (position, scored) else some (keptAt, best)
      else kept
    keptPosition field sortField value next (position + 1) rest

def isKept (field : String) (sortField : Option String) (ranked : List Scored) (scored : Scored)
    (position : Nat) : Bool :=
  match scored.document.firstValue? field with
  | none => true
  | some value => keptPosition field sortField value none 0 ranked = some position

def dedup (field : String) (sortField : Option String) (ranked : List Scored) : List Scored :=
  (ranked.zipIdx.filter fun (scored, position) =>
    isKept field sortField ranked scored position).map (·.1)

end Scored

end FederatedSearch
