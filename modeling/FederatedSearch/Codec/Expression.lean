import FederatedSearch.Codec.Field
import FederatedSearch.Query.Expression

/-! Queries as structured values: an object with one field, `term`, `and`, `or` or `not`. -/

namespace FederatedSearch

def Clause.encode (clause : Clause) : Value :=
  .object <| skippedField "index" (clause.index.map .text) ++
    skippedField "relation" (clause.relation.map .text) ++ [("term", .text clause.term)]

def Clause.decode : Decoder Clause :=
  Value.asRecord ["index", "relation", "term"] fun fields => do
    let index ← fields.optional "index" Value.asText
    let relation ← fields.optional "relation" Value.asText
    let term ← fields.required "term" Value.asText
    return ⟨index, relation, term⟩

namespace Expression

mutual

def encode : Expression → Value
  | .clause leaf => .object [("term", leaf.encode)]
  | .all operands => .object [("and", .list (encodeAll operands))]
  | .any operands => .object [("or", .list (encodeAll operands))]
  | .not operand => .object [("not", operand.encode)]

def encodeAll : List Expression → List Value
  | [] => []
  | query :: queries => query.encode :: encodeAll queries

end

mutual

def decode : Value → Except DecodeError Expression
  | .object [(name, .list items)] =>
    if name = "and" then Expression.all <$> decodeAll items
    else if name = "or" then Expression.any <$> decodeAll items
    else if name = "term" then Expression.clause <$> Clause.decode (.list items)
    else .error .malformed
  | .object [(name, value)] =>
    if name = "term" then Expression.clause <$> Clause.decode value
    else if name = "not" then Expression.not <$> decode value
    else .error .malformed
  | _ => .error .malformed

def decodeAll : List Value → Except DecodeError (List Expression)
  | [] => .ok []
  | value :: values => do return (← decode value) :: (← decodeAll values)

end

end Expression

end FederatedSearch
