import FederatedSearch.Codec.Search
import FederatedSearch.Composed.Basic
import FederatedSearch.Text.Cut

/-! Composed queries as structured values. A match is named by its two cores with `->` between. -/

namespace FederatedSearch

def matchSeparator : String :=
  "->"

def DecodeError.message? : DecodeError → Option String
  | .malformed | .crash => none
  | .unseparatedMatch name =>
    some ("invalid serialized composed query: match key '" ++ name ++ "' lacks '" ++
      matchSeparator ++ "'")

namespace CorePair

def matchName (pair : CorePair) : String :=
  pair.first ++ matchSeparator ++ pair.second

def ofMatchName? (name : String) : Option CorePair :=
  (cutAt? matchSeparator name).map fun (first, second) => ⟨first, second⟩

end CorePair

namespace Matchings

def named (matchings : Matchings) : SortedMap String (String × String) :=
  SortedMap.ofList (matchings.entries.map fun (pair, keys) => (pair.matchName, keys))

def encode (matchings : Matchings) : Value :=
  .ofMap (fun (first, second) => .list [.text first, .text second]) matchings.named

def addNamed (matchings : Matchings) :
    List (String × (String × String)) → Except DecodeError Matchings
  | [] => .ok matchings
  | (name, (firstKey, secondKey)) :: rest =>
    match CorePair.ofMatchName? name with
    | none => .error (.unseparatedMatch name)
    | some pair =>
      let first := (pair.first, firstKey)
      let second := (pair.second, secondKey)
      if compare pair.first pair.second = .gt then
        addNamed (matchings.declare second first) rest
      else addNamed (matchings.declare first second) rest

def decode : Decoder Matchings := fun value => do
  let named ← value.asMap (Value.asPair Value.asText Value.asText)
  addNamed SortedMap.empty named.entries

end Matchings

section

variable {Q : Type}

def Bundle.encode (query : Q → Value) (bundle : Bundle Q) : Value :=
  .object [("core", .text bundle.core), ("query", .ofOption (bundle.query.map query)),
    ("filterQueries", .list (bundle.filters.map query)),
    ("facets", .list (bundle.facets.map (·.encode))),
    ("drilldownQueries", .list (bundle.drilldowns.map (·.encode))),
    ("rankQuery", .ofOption (bundle.rankQuery.map query))]

def Bundle.decode (query : Decoder Q) : Decoder (Bundle Q) :=
  Value.asRecord
    ["core", "query", "filterQueries", "facets", "drilldownQueries", "rankQuery"] fun fields => do
    return {
      core := ← fields.required "core" Value.asText
      query := ← fields.optional "query" query
      filters := ← fields.orElse "filterQueries" (Value.asList query) []
      facets := ← fields.orElse "facets" (Value.asList FacetRequest.decode) []
      drilldowns := ← fields.orElse "drilldownQueries" (Value.asList Drilldown.decode) []
      rankQuery := ← fields.optional "rankQuery" query }

def Unite.encode (query : Q → Value) (unite : Unite Q) : Value :=
  .object [("core", .text unite.core), ("keyName", .text unite.keyName),
    ("query", query unite.query)]

def Unite.decode (query : Decoder Q) : Decoder (Unite Q) :=
  Value.asRecord ["core", "keyName", "query"] fun fields => do
    return {
      core := ← fields.required "core" Value.asText
      keyName := ← fields.required "keyName" Value.asText
      query := ← fields.required "query" query }

namespace ComposedQuery

def encode (query : Q → Value) (composed : ComposedQuery Q) : Value :=
  .object [("resultsFrom", .ofOption (composed.resultsCore.map .text)),
    ("coreQueries", .list (composed.bundles.map (·.encode query))),
    ("matches", composed.matchings.encode),
    ("unites", .list (composed.unites.map (·.encode query))),
    ("options", composed.options.encode)]

/-- The composed query whose fields are given by an object. They are read in ascending order of
name, and a missing one is noticed after those that are there. -/
def decodeFields (query : Decoder Q) (fields : Fields) :
    Except DecodeError (ComposedQuery Q) := do
  let bundles ← fields.orElse "coreQueries" (some <$> Value.asList (Bundle.decode query) ·) none
  let matchings ← fields.orElse "matches" (some <$> Matchings.decode ·) none
  let options ← fields.orElse "options" QueryOptions.decode {}
  let resultsCore ← fields.optional "resultsFrom" Value.asText
  let unites ← fields.required "unites" (Value.asList (Unite.decode query))
  match bundles, matchings with
  | some bundles, some matchings => return { resultsCore, bundles, matchings, unites, options }
  | _, _ => .error .malformed

def decodeList (query : Decoder Q) (values : List Value) :
    Except DecodeError (ComposedQuery Q) := do
  let names := ["resultsFrom", "coreQueries", "matches", "unites", "options"]
  let fields : Fields := names.zip values
  let resultsCore ← fields.required "resultsFrom" (Value.asOptional Value.asText)
  let bundles ← fields.required "coreQueries" (Value.asList (Bundle.decode query))
  let matchings ← fields.required "matches" Matchings.decode
  let unites ← fields.required "unites" (Value.asList (Unite.decode query))
  let options ← fields.orElse "options" QueryOptions.decode {}
  if values.length ≤ names.length then return { resultsCore, bundles, matchings, unites, options }
  else .error .malformed

def decode (query : Decoder Q) : Decoder (ComposedQuery Q)
  | .object fields => decodeFields query fields
  | .list values => decodeList query values
  | _ => .error .malformed

end ComposedQuery

end

end FederatedSearch
