import FederatedSearch.Query.Expression
import FederatedSearch.SortedSet
import FederatedSearch.Text.Cut

/-! Taking out of a query the operands that speak of another core. An index `core.field` speaks of
the core before its first point; an operand is owned by a core when all its clauses speak of it. -/

namespace FederatedSearch

def coreOfIndex? (index : String) : Option String :=
  (cutAt? "." index).map (·.1)

def Clause.core? (clause : Clause) : Option String :=
  clause.index.bind coreOfIndex?

def qualifiedIndex (core field : String) : String :=
  core ++ "." ++ field

def unqualifiedIndex (core index : String) : String :=
  (dropStart? (core ++ ".") index).getD index

namespace Expression

def spokenOf? (query : Expression) : Option String :=
  match query.clauses with
  | [] => none
  | first :: others =>
    first.core?.bind fun core => if others.all (·.core? = some core) then some core else none

def owner? (cores : SortedSet String) (resultsCore : String) (query : Expression) :
    Option String :=
  query.spokenOf?.filter fun core => core != resultsCore && cores.contains core

end Expression

structure Extraction where
  query : Option Expression
  filters : SortedMap String (List Expression)

namespace Extraction

def operandsKept (cores : SortedSet String) (resultsCore : String) (operands : List Expression) :
    List Expression :=
  operands.filter fun operand => (operand.owner? cores resultsCore).isNone

def filtersOf (cores : SortedSet String) (resultsCore : String) (operands : List Expression) :
    SortedMap String (List Expression) :=
  operands.foldl
    (fun filters operand =>
      match operand.owner? cores resultsCore with
      | none => filters
      | some core =>
        filters.update core fun before =>
          before.getD [] ++ [operand.mapIndexes (unqualifiedIndex core)])
    SortedMap.empty

/-- Parts a query: each of its operands under "all of", or the whole if it is another query, is
either kept or made a filter of the core that owns it. -/
def ofQuery (cores : SortedSet String) (resultsCore : String) (query : Expression) :
    Extraction where
  query := Expression.allOf (operandsKept cores resultsCore query.conjuncts)
  filters := filtersOf cores resultsCore query.conjuncts

end Extraction

end FederatedSearch
