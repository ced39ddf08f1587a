import FederatedSearch.Query.Expression
import FederatedSearch.Text.Alphabetic
import FederatedSearch.Text.Blank

/-! Writing a query as text. A term is quoted where it would not be read as one word, a relation in
letters stands between blanks, and an operand that is no clause stands in parentheses. -/

namespace FederatedSearch

def endsWord (c : Char) : Bool :=
  isBlank c || ['(', ')', '"', '=', '<', '>'].contains c

def quotedChar (c : Char) : List Char :=
  if c = '\\' || c = '"' then ['\\', c] else [c]

def termChars (term : List Char) : List Char :=
  if term.isEmpty || term.any endsWord then '"' :: term.flatMap quotedChar ++ ['"'] else term

def Clause.relationText (clause : Clause) : String :=
  clause.relation.getD "="

def Clause.chars (clause : Clause) : List Char :=
  match clause.index with
  | none => termChars clause.term.toList
  | some index =>
    let relation := clause.relationText.toList
    if relation.all isAlphabetic then
      index.toList ++ ' ' :: relation ++ ' ' :: termChars clause.term.toList
    else index.toList ++ relation ++ termChars clause.term.toList

namespace Expression

def enclosed : Expression → List Char → List Char
  | .clause _, written => written
  | _, written => '(' :: written ++ [')']

mutual

def chars : Expression → List Char
  | .clause leaf => leaf.chars
  | .all [] => []
  | .all (first :: others) => first.enclosed first.chars ++ conjunctChars others
  | .any [] => []
  | .any (first :: others) => first.enclosed first.chars ++ disjunctChars others
  | .not operand => anyTerm.toList ++ " NOT ".toList ++ operand.enclosed operand.chars

def conjunctChars : List Expression → List Char
  | [] => []
  | .not operand :: others =>
    " NOT ".toList ++ operand.enclosed operand.chars ++ conjunctChars others
  | operand :: others =>
    " AND ".toList ++ operand.enclosed operand.chars ++ conjunctChars others

def disjunctChars : List Expression → List Char
  | [] => []
  | operand :: others =>
    " OR ".toList ++ operand.enclosed operand.chars ++ disjunctChars others

end

def text (query : Expression) : String :=
  String.ofList query.chars

end Expression

def Clause.text (clause : Clause) : String :=
  String.ofList clause.chars

end FederatedSearch
