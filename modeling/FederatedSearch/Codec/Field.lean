import FederatedSearch.SortedMap
import FederatedSearch.Value

/-! Reading and writing structured values part by part. A record is an object, whose fields that are
not asked for are passed over, or a list of the values of its fields in a fixed order. A field is
required, optional (absent and null both stand for nothing), or has a default (which stands for
absence only). -/

namespace FederatedSearch

inductive DecodeError where
  | malformed
  | unseparatedMatch (name : String)
  | crash
deriving DecidableEq

abbrev Decoder (α : Type) :=
  Value → Except DecodeError α

abbrev Fields :=
  List (String × Value)

namespace Value

def asText : Decoder String
  | .text value => .ok value
  | _ => .error .malformed

def asBool : Decoder Bool
  | .bool value => .ok value
  | _ => .error .malformed

def asNat : Decoder Nat
  | .integer value =>
    if 0 ≤ value && value.toNat < UInt64.size then .ok value.toNat else .error .malformed
  | _ => .error .malformed

def asList {α : Type} (item : Decoder α) : Decoder (List α)
  | .list items => items.mapM item
  | _ => .error .malformed

def asPair {α β : Type} (first : Decoder α) (second : Decoder β) : Decoder (α × β)
  | .list [one, other] => do return (← first one, ← second other)
  | _ => .error .malformed

def asOptional {α : Type} (item : Decoder α) : Decoder (Option α)
  | .null => .ok none
  | value => some <$> item value

def asFields : Decoder Fields
  | .object fields => .ok fields
  | _ => .error .malformed

def asRecord {α : Type} (names : List String) (read : Fields → Except DecodeError α) : Decoder α
  | .object fields => read fields
  | .list values => do
    let record ← read (names.zip values)
    if values.length ≤ names.length then return record else .error .malformed
  | _ => .error .malformed

def asAlternative : Decoder String
  | .text name => .ok name
  | .object [(name, .null)] => .ok name
  | _ => .error .malformed

def asMap {α : Type} (item : Decoder α) : Decoder (SortedMap String α)
  | .object fields => do
    let entries ← fields.mapM fun (name, value) => do return (name, ← item value)
    return SortedMap.ofList entries
  | _ => .error .malformed

def ofOption : Option Value → Value
  | none => .null
  | some value => value

def ofNat (n : Nat) : Value :=
  .integer n

def ofTexts (texts : List String) : Value :=
  .list (texts.map .text)

def ofMap {α : Type} (item : α → Value) (map : SortedMap String α) : Value :=
  .object (map.entries.map fun (name, value) => (name, item value))

end Value

namespace Fields

def named? (fields : Fields) (name : String) : Option Value :=
  fields.lookup name

def required {α : Type} (fields : Fields) (name : String) (item : Decoder α) :
    Except DecodeError α :=
  match fields.named? name with
  | some value => item value
  | none => .error .malformed

def optional {α : Type} (fields : Fields) (name : String) (item : Decoder α) :
    Except DecodeError (Option α) :=
  match fields.named? name with
  | some value => Value.asOptional item value
  | none => .ok none

def orElse {α : Type} (fields : Fields) (name : String) (item : Decoder α) (otherwise : α) :
    Except DecodeError α :=
  match fields.named? name with
  | some value => item value
  | none => .ok otherwise

end Fields

def skippedField (name : String) : Option Value → Fields
  | none => []
  | some value => [(name, value)]

end FederatedSearch
