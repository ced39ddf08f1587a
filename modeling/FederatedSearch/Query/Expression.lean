/-! Query expressions: search clauses under "all of", "any of" and "not". -/

namespace FederatedSearch

structure Clause where
  index : Option String
  relation : Option String
  term : String
deriving DecidableEq

def anyTerm : String :=
  "*"

namespace Clause

def ofTerm (term : String) : Clause :=
  ⟨none, none, term⟩

def related (index relation term : String) : Clause :=
  ⟨some index, some relation, term⟩

def mapIndex (change : String → String) (clause : Clause) : Clause :=
  { clause with index := clause.index.map change }

end Clause

inductive Expression where
  | clause (leaf : Clause)
  | all (operands : List Expression)
  | any (operands : List Expression)
  | not (operand : Expression)

namespace Expression

mutual

def decEq : (first second : Expression) → Decidable (first = second)
  | .clause first, .clause second =>
    if same : first = second then isTrue (by rw [same]) else isFalse (by simpa using same)
  | .all first, .all second =>
    match decEqAll first second with
    | isTrue same => isTrue (by rw [same])
    | isFalse different => isFalse (by simpa using different)
  | .any first, .any second =>
    match decEqAll first second with
    | isTrue same => isTrue (by rw [same])
    | isFalse different => isFalse (by simpa using different)
  | .not first, .not second =>
    match decEq first second with
    | isTrue same => isTrue (by rw [same])
    | isFalse different => isFalse (by simpa using different)
  | .clause _, .all _ | .clause _, .any _ | .clause _, .not _
  | .all _, .clause _ | .all _, .any _ | .all _, .not _
  | .any _, .clause _ | .any _, .all _ | .any _, .not _
  | .not _, .clause _ | .not _, .all _ | .not _, .any _ => isFalse (by simp)

def decEqAll : (first second : List Expression) → Decidable (first = second)
  | [], [] => isTrue rfl
  | first :: firsts, second :: seconds =>
    match decEq first second, decEqAll firsts seconds with
    | isTrue same, isTrue sameRest => isTrue (by rw [same, sameRest])
    | isFalse different, _ => isFalse (by simp [different])
    | _, isFalse different => isFalse (by simp [different])
  | [], _ :: _ | _ :: _, [] => isFalse (by simp)

end

instance : DecidableEq Expression :=
  decEq

def matchAll : Expression :=
  .clause (.ofTerm anyTerm)

instance : Inhabited Expression :=
  ⟨matchAll⟩

def ofTerm (term : String) : Expression :=
  .clause (.ofTerm term)

def ofField (index term : String) : Expression :=
  .clause (.related index "=" term)

def isMatchAll (query : Expression) : Bool :=
  query = matchAll

def conjuncts : Expression → List Expression
  | .all operands => operands
  | query => [query]

def disjuncts : Expression → List Expression
  | .any operands => operands
  | query => [query]

def allOf (queries : List Expression) : Option Expression :=
  match queries.flatMap conjuncts with
  | [] => none
  | [query] => some query
  | operands => some (.all operands)

def anyOf (queries : List Expression) : Option Expression :=
  match queries.flatMap disjuncts with
  | [] => none
  | [query] => some query
  | operands => some (.any operands)

def both (left right : Expression) : Expression :=
  (allOf [left, right]).getD (.all [])

def either (left right : Expression) : Expression :=
  (anyOf [left, right]).getD (.any [])

mutual

def clauses : Expression → List Clause
  | .clause leaf => [leaf]
  | .all operands => clausesOf operands
  | .any operands => clausesOf operands
  | .not operand => operand.clauses

def clausesOf : List Expression → List Clause
  | [] => []
  | query :: queries => query.clauses ++ clausesOf queries

end

mutual

def mapIndexes (change : String → String) : Expression → Expression
  | .clause leaf => .clause (leaf.mapIndex change)
  | .all operands => .all (mapIndexesOf change operands)
  | .any operands => .any (mapIndexesOf change operands)
  | .not operand => .not (operand.mapIndexes change)

def mapIndexesOf (change : String → String) : List Expression → List Expression
  | [] => []
  | query :: queries => query.mapIndexes change :: mapIndexesOf change queries

end

theorem clausesOf_eq_flatMap (queries : List Expression) :
    clausesOf queries = queries.flatMap clauses := by
  induction queries with
  | nil => rfl
  | cons query queries ih => simp [clausesOf, ih]

theorem mapIndexesOf_eq_map (change : String → String) (queries : List Expression) :
    mapIndexesOf change queries = queries.map (mapIndexes change) := by
  induction queries with
  | nil => rfl
  | cons query queries ih => simp [mapIndexesOf, ih]

end Expression

end FederatedSearch
