import FederatedSearch.Codec.Expression
import FederatedSearch.Codec.Search
import FederatedSearch.Translation.Request

/-! Callers' requests as structured values. -/

namespace FederatedSearch

def QueryInput.encode : QueryInput → Value
  | .text unread => .text unread
  | .expression query => query.encode

def QueryInput.decode : Decoder QueryInput
  | .text unread => .ok (.text unread)
  | value => .expression <$> Expression.decode value

def FacetField.encode (facet : FacetField) : Value :=
  .object <| [("fieldname", .text facet.name), ("maxTerms", .ofNat facet.maxTerms)] ++
    skippedField "sortBy" (facet.sort.map .text)

def FacetField.decode : Decoder FacetField :=
  Value.asRecord ["fieldname", "maxTerms", "sortBy"] fun fields => do
    return {
      name := ← fields.required "fieldname" Value.asText
      maxTerms := ← fields.required "maxTerms" Value.asNat
      sort := ← fields.optional "sortBy" Value.asText }

def SortKeyRequest.encode (key : SortKeyRequest) : Value :=
  .object [("sortBy", .text key.name), ("sortDescending", .bool key.descending)]

def SortKeyRequest.decode : Decoder SortKeyRequest :=
  Value.asRecord ["sortBy", "sortDescending"] fun fields => do
    return {
      name := ← fields.required "sortBy" Value.asText
      descending := ← fields.orElse "sortDescending" Value.asBool false }

def SearchRequest.encode (request : SearchRequest) : Value :=
  .object [("query", request.query.encode),
    ("facets", .list (request.facets.map (·.encode))),
    ("drilldownQueries", .list (request.drilldowns.map fun (name, path) =>
      .list [.text name, .ofTexts path])),
    ("filterQueries", .list (request.filters.map fun (core, text) =>
      .list [.text core, .text text])),
    ("sortKeys", .list (request.sortKeys.map (·.encode))),
    ("start", .ofOption (request.start.map .ofNat)),
    ("stop", .ofOption (request.stop.map .ofNat)),
    ("suggestionRequest", .ofOption (request.suggestions.map (·.encode))),
    ("extraArguments", .ofMap Value.ofTexts request.extraArguments)]

def SearchRequest.decode : Decoder SearchRequest :=
  Value.asRecord
    ["query", "facets", "drilldownQueries", "filterQueries", "sortKeys", "start", "stop",
      "suggestionRequest", "extraArguments"] fun fields => do
    return {
      query := ← fields.orElse "query" QueryInput.decode (.expression .matchAll)
      facets := ← fields.orElse "facets" (Value.asList FacetField.decode) []
      drilldowns := ← fields.orElse "drilldownQueries"
        (Value.asList (Value.asPair Value.asText (Value.asList Value.asText))) []
      filters := ← fields.orElse "filterQueries"
        (Value.asList (Value.asPair Value.asText Value.asText)) []
      sortKeys := ← fields.orElse "sortKeys" (Value.asList SortKeyRequest.decode) []
      start := ← fields.optional "start" Value.asNat
      stop := ← fields.optional "stop" Value.asNat
      suggestions := ← fields.optional "suggestionRequest" SuggestionRequest.decode
      extraArguments := ← fields.orElse "extraArguments"
        (Value.asMap (Value.asList Value.asText)) SortedMap.empty }

end FederatedSearch
