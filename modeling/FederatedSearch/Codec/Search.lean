import FederatedSearch.Codec.Field
import FederatedSearch.Search.Core
import FederatedSearch.Number.Binary

/-! The parts of searches and responses as structured values. -/

namespace FederatedSearch

def FacetSort.encode (sort : FacetSort) : Value :=
  .text sort.name

def FacetSort.decode : Decoder FacetSort := fun value => do
  match FacetSort.ofName? (← value.asAlternative) with
  | some sort => return sort
  | none => .error .malformed

def FacetRequest.encode (request : FacetRequest) : Value :=
  .object <| [("fieldname", .text request.field), ("path", .ofTexts request.path),
    ("maxTerms", .ofNat request.maxTerms)] ++ skippedField "sortBy" (request.sort.map (·.encode))

def FacetRequest.decode : Decoder FacetRequest :=
  Value.asRecord ["fieldname", "path", "maxTerms", "sortBy"] fun fields => do
    return {
      field := ← fields.required "fieldname" Value.asText
      path := ← fields.orElse "path" (Value.asList Value.asText) []
      maxTerms := ← fields.required "maxTerms" Value.asNat
      sort := ← fields.optional "sortBy" FacetSort.decode }

def Drilldown.encode (drilldown : Drilldown) : Value :=
  .object [("fieldname", .text drilldown.field), ("path", .ofTexts drilldown.path)]

def Drilldown.decode : Decoder Drilldown :=
  Value.asRecord ["fieldname", "path"] fun fields => do
    return {
      field := ← fields.required "fieldname" Value.asText
      path := ← fields.required "path" (Value.asList Value.asText) }

def SortKey.encode (key : SortKey) : Value :=
  .object [("core", .text key.core), ("sortBy", .text key.field),
    ("sortDescending", .bool key.descending)]

def SortKey.decode : Decoder SortKey :=
  Value.asRecord ["core", "sortBy", "sortDescending"] fun fields => do
    return {
      core := ← fields.required "core" Value.asText
      field := ← fields.required "sortBy" Value.asText
      descending := ← fields.orElse "sortDescending" Value.asBool false }

def SuggestionRequest.encode (request : SuggestionRequest) : Value :=
  .object [("count", .ofNat request.count), ("field", .text request.field),
    ("suggests", .ofTexts request.terms)]

def SuggestionRequest.decode : Decoder SuggestionRequest :=
  Value.asRecord ["count", "field", "suggests"] fun fields => do
    return {
      count := ← fields.required "count" Value.asNat
      field := ← fields.required "field" Value.asText
      terms := ← fields.required "suggests" (Value.asList Value.asText) }

def QueryOptions.encode (options : QueryOptions) : Value :=
  .object [("start", .ofOption (options.start.map .ofNat)),
    ("stop", .ofOption (options.stop.map .ofNat)),
    ("sortKeys", .list (options.sortKeys.map (·.encode))),
    ("suggestionRequest", .ofOption (options.suggestions.map (·.encode))),
    ("dedupField", .ofOption (options.dedupField.map .text)),
    ("dedupSortField", .ofOption (options.dedupSortField.map .text)),
    ("groupingField", .ofOption (options.groupingField.map .text)),
    ("clustering", .bool options.clustering)]

def QueryOptions.decode : Decoder QueryOptions :=
  Value.asRecord
    ["start", "stop", "sortKeys", "suggestionRequest", "dedupField", "dedupSortField",
      "groupingField", "clustering"] fun fields => do
    return {
      start := ← fields.optional "start" Value.asNat
      stop := ← fields.optional "stop" Value.asNat
      sortKeys := ← fields.orElse "sortKeys" (Value.asList SortKey.decode) []
      suggestions := ← fields.optional "suggestionRequest" SuggestionRequest.decode
      dedupField := ← fields.optional "dedupField" Value.asText
      dedupSortField := ← fields.optional "dedupSortField" Value.asText
      groupingField := ← fields.optional "groupingField" Value.asText
      clustering := ← fields.orElse "clustering" Value.asBool false }

def Score.nearest (x : SignedRat) : Score :=
  match binary32.round? x.magnitude with
  | some magnitude => .finite ⟨x.negative, magnitude⟩
  | none => .infinite x.negative

def Score.encode : Score → Value
  | .finite value => .real value
  | .infinite _ => .null

def Score.decode : Decoder Score
  | .integer value => .ok (.nearest (.ofRat value))
  | .real value => .ok (.nearest value)
  | _ => .error .malformed

def Hit.encode (hit : Hit) : Value :=
  .object <| [("id", .text hit.id), ("score", hit.score.encode)] ++
    skippedField "storedFields"
      (if hit.storedFields.isEmpty then none
        else some (.ofMap (fun value => value) hit.storedFields))

def Hit.decode : Decoder Hit :=
  Value.asRecord ["id", "score", "storedFields"] fun fields => do
    return {
      id := ← fields.required "id" Value.asText
      score := ← fields.required "score" Score.decode
      storedFields := ← fields.orElse "storedFields" (Value.asMap .ok) SortedMap.empty }

namespace FacetTerm

mutual

def encode : FacetTerm → Value
  | ⟨term, count, subterms⟩ =>
    .object ([("term", .text term), ("count", .ofNat count)] ++ encodeSubterms subterms)

def encodeSubterms : Option (List FacetTerm) → Fields
  | none => []
  | some terms => [("subterms", .list (encodeAll terms))]

def encodeAll : List FacetTerm → List Value
  | [] => []
  | term :: terms => term.encode :: encodeAll terms

end

mutual

def decode : Value → Except DecodeError FacetTerm
  | .object fields => do
    let term ← Fields.required fields "term" Value.asText
    let count ← Fields.required fields "count" Value.asNat
    let subterms ← decodeSubterms fields
    return ⟨term, count, subterms⟩
  | .list [term, count] => do return ⟨← term.asText, ← count.asNat, none⟩
  | .list [term, count, subterms] => do
    return ⟨← term.asText, ← count.asNat, ← decodeOptional subterms⟩
  | _ => .error .malformed

def decodeSubterms : List (String × Value) → Except DecodeError (Option (List FacetTerm))
  | [] => .ok none
  | (name, value) :: fields =>
    if name = "subterms" then decodeOptional value else decodeSubterms fields

def decodeOptional : Value → Except DecodeError (Option (List FacetTerm))
  | .null => .ok none
  | .list values => some <$> decodeAll values
  | _ => .error .malformed

def decodeAll : List Value → Except DecodeError (List FacetTerm)
  | [] => .ok []
  | value :: values => do return (← decode value) :: (← decodeAll values)

end

end FacetTerm

def FacetBlock.encode (block : FacetBlock) : Value :=
  .object <| skippedField "core" (block.core.map .text) ++
    [("fieldname", .text block.field), ("path", .ofTexts block.path),
      ("terms", .list (FacetTerm.encodeAll block.terms))]

def FacetBlock.decode : Decoder FacetBlock :=
  Value.asRecord ["core", "fieldname", "path", "terms"] fun fields => do
    return {
      core := ← fields.optional "core" Value.asText
      field := ← fields.required "fieldname" Value.asText
      path := ← fields.orElse "path" (Value.asList Value.asText) []
      terms := ← fields.required "terms" (Value.asList FacetTerm.decode) }

def encodeSuggestions (suggestions : SortedMap String (List String)) : Value :=
  .ofMap Value.ofTexts suggestions

def SearchResponse.encode (response : SearchResponse) : Value :=
  .object <| [("total", .ofNat response.total), ("queryTime", .ofNat response.queryTime),
      ("hits", .list (response.hits.map (·.encode)))] ++
    skippedField "drilldownData"
      (response.facets.map fun blocks => .list (blocks.map (·.encode))) ++
    skippedField "suggestions" (response.suggestions.map encodeSuggestions)

def SearchResponse.decode : Decoder SearchResponse :=
  Value.asRecord ["total", "queryTime", "hits", "drilldownData", "suggestions"] fun fields => do
    return {
      total := ← fields.required "total" Value.asNat
      queryTime := ← fields.required "queryTime" Value.asNat
      hits := ← fields.required "hits" (Value.asList Hit.decode)
      facets := ← fields.optional "drilldownData" (Value.asList FacetBlock.decode)
      suggestions := ← fields.optional "suggestions" (Value.asMap (Value.asList Value.asText)) }

end FederatedSearch
