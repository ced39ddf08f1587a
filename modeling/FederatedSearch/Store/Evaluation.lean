import FederatedSearch.Number.Numeral
import FederatedSearch.Query.Expression
import FederatedSearch.Store.Document
import FederatedSearch.Text.Blank
import FederatedSearch.Text.Cut
import FederatedSearch.Text.LowerCase

/-! When a document matches a query. Operands are taken from left to right and no further than
needed; a relation that is not known is an error once its clause is reached. -/

namespace FederatedSearch

inductive Relation where
  | equal
  | exact
  | notEqual
  | less
  | lessOrEqual
  | greater
  | greaterOrEqual
  | anyWord
  | allWords
  | phrase
deriving DecidableEq

def Relation.ofText? (text : String) : Option Relation :=
  match text with
  | "=" => some .equal
  | "==" => some .exact
  | "exact" => some .exact
  | "<>" => some .notEqual
  | "<" => some .less
  | "<=" => some .lessOrEqual
  | ">" => some .greater
  | ">=" => some .greaterOrEqual
  | "any" => some .anyWord
  | "all" => some .allWords
  | "adj" => some .phrase
  | _ => none

def looselyEqual (value term : String) : Bool :=
  equalIgnoringAsciiCase value term || (words value).any (equalIgnoringAsciiCase · term)

def someLooselyEqual (values : List String) (term : String) : Bool :=
  values.any (looselyEqual · term)

def holdsPhrase (value phrase : String) : Bool :=
  occursIn (lowerCase phrase).toList (lowerCase value).toList

def Relation.holds (relation : Relation) (values : List String) (term : String) : Bool :=
  match relation with
  | .equal => someLooselyEqual values term
  | .exact => values.any (· == term)
  | .notEqual => !someLooselyEqual values term
  | .less => values.any fun value => compareValues value term == .lt
  | .lessOrEqual => values.any fun value => compareValues value term != .gt
  | .greater => values.any fun value => compareValues value term == .gt
  | .greaterOrEqual => values.any fun value => compareValues value term != .lt
  | .anyWord => (words term).any (someLooselyEqual values)
  | .allWords => (words term).all (someLooselyEqual values)
  | .phrase => values.any (holdsPhrase · term)

structure UnsupportedRelation where
  relation : String
deriving DecidableEq

/-- The document matches the clause. The term `*` asks for any document, or in an index for any
value there, whatever the relation. Without an index the term is looked for in every field. -/
def Clause.matchedBy (clause : Clause) (document : Document) : Except UnsupportedRelation Bool :=
  match clause.index with
  | none => .ok (clause.term = anyTerm || someLooselyEqual document.allValues clause.term)
  | some index =>
    let values := document.values index
    if clause.term = anyTerm then .ok (!values.isEmpty)
    else
      match Relation.ofText? (clause.relation.getD "=") with
      | some relation => .ok (relation.holds values clause.term)
      | none => .error ⟨clause.relation.getD "="⟩

namespace Expression

mutual

def matchedBy (document : Document) : Expression → Except UnsupportedRelation Bool
  | .clause leaf => leaf.matchedBy document
  | .all operands => allMatchedBy document operands
  | .any operands => anyMatchedBy document operands
  | .not operand => (operand.matchedBy document).map (!·)

def allMatchedBy (document : Document) : List Expression → Except UnsupportedRelation Bool
  | [] => .ok true
  | query :: queries =>
    match query.matchedBy document with
    | .ok true => allMatchedBy document queries
    | .ok false => .ok false
    | .error error => .error error

def anyMatchedBy (document : Document) : List Expression → Except UnsupportedRelation Bool
  | [] => .ok false
  | query :: queries =>
    match query.matchedBy document with
    | .ok true => .ok true
    | .ok false => anyMatchedBy document queries
    | .error error => .error error

end

end Expression

end FederatedSearch
