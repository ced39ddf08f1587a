import FederatedSearch.Query.Printer
import FederatedSearch.Text.Escaped

/-! The tokens of a query text. The text is read one character at a time by a machine that knows
what it is in the middle of; `readChars_append` says that reading can stop and go on anywhere. -/

namespace FederatedSearch

inductive Token where
  | word (text : String)
  | quoted (text : String)
  | relation (text : String)
  | opening
  | closing
deriving DecidableEq

def Token.shown : Token → String
  | .word text => "Word(" ++ escaped text ++ ")"
  | .quoted text => "Quoted(" ++ escaped text ++ ")"
  | .relation text => "Relation(" ++ escaped text ++ ")"
  | .opening => "LParen"
  | .closing => "RParen"

inductive Reading where
  | gap
  | word (read : List Char)
  | quoted (read : List Char)
  | escape (read : List Char)
  | relation (mark : Char)
deriving DecidableEq

namespace Reading

def begin (c : Char) : List Token × Reading :=
  if isBlank c then ([], .gap)
  else if c = '(' then ([.opening], .gap)
  else if c = ')' then ([.closing], .gap)
  else if c = '"' then ([], .quoted [])
  else if c = '=' || c = '<' || c = '>' then ([], .relation c)
  else ([], .word [c])

def pairs (mark c : Char) : Bool :=
  [('=', '='), ('<', '>'), ('<', '='), ('>', '=')].contains (mark, c)

def step : Reading → Char → List Token × Reading
  | .gap, c => begin c
  | .word read, c =>
    if endsWord c then
      let (tokens, next) := begin c
      (.word (String.ofList read.reverse) :: tokens, next)
    else ([], .word (c :: read))
  | .quoted read, c =>
    if c = '\\' then ([], .escape read)
    else if c = '"' then ([.quoted (String.ofList read.reverse)], .gap)
    else ([], .quoted (c :: read))
  | .escape read, c => ([], .quoted (c :: read))
  | .relation mark, c =>
    if pairs mark c then ([.relation (String.ofList [mark, c])], .gap)
    else
      let (tokens, next) := begin c
      (.relation (String.ofList [mark]) :: tokens, next)

def readChars : Reading → List Char → List Token × Reading
  | reading, [] => ([], reading)
  | reading, c :: rest =>
    let (tokens, next) := reading.step c
    let (later, last) := readChars next rest
    (tokens ++ later, last)

def finish : Reading → Option (List Token)
  | .gap => some []
  | .word read => some [.word (String.ofList read.reverse)]
  | .quoted _ => none
  | .escape _ => none
  | .relation mark => some [.relation (String.ofList [mark])]

theorem readChars_append (reading : Reading) (first second : List Char) :
    reading.readChars (first ++ second) =
      ((reading.readChars first).1 ++ ((reading.readChars first).2.readChars second).1,
        ((reading.readChars first).2.readChars second).2) := by
  induction first generalizing reading with
  | nil => simp [readChars]
  | cons c rest ih => simp [readChars, ih]

end Reading

def tokens? (text : List Char) : Option (List Token) :=
  let (read, last) := Reading.gap.readChars text
  last.finish.map (read ++ ·)

end FederatedSearch
