import FederatedSearch.Query.Token
import FederatedSearch.Text.LowerCase

/-! Reading a query from text. Boolean operators have one precedence and associate to the left. The
reader goes through the tokens once, either before an operand or behind one, and holds for each
open parenthesis what waits there for the operand inside. -/

namespace FederatedSearch

inductive ParseError where
  | unterminatedQuote
  | emptyQuery
  | unexpectedToken (token : Token)
  | missingClosing
  | unexpectedEnd
  | missingTerm (first relation : String)
deriving DecidableEq

def ParseError.message : ParseError → String
  | .unterminatedQuote => "unterminated quoted string"
  | .emptyQuery => "empty query"
  | .unexpectedToken token => "unexpected token " ++ token.shown
  | .missingClosing => "missing closing parenthesis"
  | .unexpectedEnd => "unexpected end of query"
  | .missingTerm first relation => "missing term after '" ++ first ++ relation ++ "'"

inductive Connective where
  | and
  | or
  | not
deriving DecidableEq

namespace Connective

def ofWord? (word : String) : Option Connective :=
  let lowered := asciiLowerCase word
  if lowered = "and" then some .and
  else if lowered = "or" then some .or
  else if lowered = "not" then some .not
  else none

def join (connective : Connective) (left right : Expression) : Expression :=
  match connective with
  | .and => left.both right
  | .or => left.either right
  | .not => left.both (.not right)

end Connective

def relationWords : List String :=
  ["exact", "any", "all", "adj"]

def relationOfWord? (word : String) : Option String :=
  let lowered := asciiLowerCase word
  if relationWords.contains lowered then some lowered else none

inductive Pending where
  | start
  | joined (left : Expression) (connective : Connective)
deriving DecidableEq

def Pending.close (operand : Expression) : Pending → Expression
  | .start => operand
  | .joined left connective => connective.join left operand

/-- Where in a query the reader is. The operand it is in will be joined to `pending`, and `outer`
holds what waits outside of each open parenthesis, innermost first. -/
inductive Position where
  | operand (pending : Pending) (outer : List Pending)
  | term (first : String) (pending : Pending) (outer : List Pending)
  | relation (first relating : String) (pending : Pending) (outer : List Pending)
  | operator (left : Expression) (outer : List Pending)
deriving DecidableEq

namespace Position

def stray (token : Token) : List Pending → ParseError
  | [] => .unexpectedToken token
  | _ :: _ => .missingClosing

def stepOperator (left : Expression) (outer : List Pending) (token : Token) :
    Except ParseError Position :=
  match token, outer with
  | .word word, outer =>
    match Connective.ofWord? word with
    | some connective => .ok (.operand (.joined left connective) outer)
    | none => .error (stray token outer)
  | .closing, pending :: outer => .ok (.operator (pending.close left) outer)
  | token, outer => .error (stray token outer)

def isTerm : Token → Bool
  | .word _ => true
  | .quoted _ => true
  | _ => false

/-- The relation that a token behind a first term is, given the token after it: a relation mark
always, a relation word only where a term follows it. -/
def relation? (token : Token) (next : Option Token) : Option String :=
  match token with
  | .relation marks => some marks
  | .word word => if next.any isTerm then relationOfWord? word else none
  | _ => none

def step (position : Position) (token : Token) (next : Option Token) :
    Except ParseError Position :=
  match position, token with
  | .operand pending outer, .opening => .ok (.operand .start (pending :: outer))
  | .operand pending outer, .word first => .ok (.term first pending outer)
  | .operand pending outer, .quoted first => .ok (.term first pending outer)
  | .operand _ _, token => .error (.unexpectedToken token)
  | .term first pending outer, token =>
    match relation? token next with
    | some relating => .ok (.relation first relating pending outer)
    | none => stepOperator (pending.close (.ofTerm first)) outer token
  | .relation first relating pending outer, .word second =>
    .ok (.operator (pending.close (.clause (.related first relating second))) outer)
  | .relation first relating pending outer, .quoted second =>
    .ok (.operator (pending.close (.clause (.related first relating second))) outer)
  | .relation first relating _ _, _ => .error (.missingTerm first relating)
  | .operator left outer, token => stepOperator left outer token

def finishOperator (left : Expression) : List Pending → Except ParseError Expression
  | [] => .ok left
  | _ :: _ => .error .missingClosing

def finish : Position → Except ParseError Expression
  | .operand _ _ => .error .unexpectedEnd
  | .term first pending outer => finishOperator (pending.close (.ofTerm first)) outer
  | .relation first relating _ _ => .error (.missingTerm first relating)
  | .operator left outer => finishOperator left outer

def readTokens (position : Position) : List Token → Except ParseError Expression
  | [] => position.finish
  | token :: rest =>
    match position.step token rest.head? with
    | .ok next => next.readTokens rest
    | .error error => .error error

end Position

def parse (text : String) : Except ParseError Expression :=
  match tokens? text.toList with
  | none => .error .unterminatedQuote
  | some [] => .error .emptyQuery
  | some tokens => (Position.operand .start []).readTokens tokens

end FederatedSearch
