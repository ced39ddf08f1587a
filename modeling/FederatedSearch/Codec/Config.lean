import FederatedSearch.Codec.Field
import FederatedSearch.Settings.Config

/-! Settings as structured values. -/

namespace FederatedSearch

def CoreKey.encode (side : CoreKey) : Value :=
  .object [("core", .text side.core), ("key", .text side.key)]

def CoreKey.decode : Decoder CoreKey :=
  Value.asRecord ["core", "key"] fun fields => do
    return {
      core := ← fields.required "core" Value.asText
      key := ← fields.required "key" Value.asText }

def TranslatorConfig.encode (config : TranslatorConfig) : Value :=
  .object [("results_from", .text config.resultsCore),
    ("matches", .list (config.matchings.map fun sides => .list (sides.map (·.encode)))),
    ("dedup_field_name", .ofOption (config.dedupField.map .text)),
    ("dedup_sort_field_name", .ofOption (config.dedupSortField.map .text)),
    ("dedup_by_default", .bool config.dedupByDefault),
    ("grouping_field_name", .ofOption (config.groupingField.map .text))]

def TranslatorConfig.decode : Decoder TranslatorConfig :=
  Value.asRecord
    ["results_from", "matches", "dedup_field_name", "dedup_sort_field_name", "dedup_by_default",
      "grouping_field_name"] fun fields => do
    return {
      resultsCore := ← fields.required "results_from" Value.asText
      matchings := ← fields.orElse "matches" (Value.asList (Value.asList CoreKey.decode)) []
      dedupField := ← fields.optional "dedup_field_name" Value.asText
      dedupSortField := ← fields.optional "dedup_sort_field_name" Value.asText
      dedupByDefault := ← fields.orElse "dedup_by_default" Value.asBool true
      groupingField := ← fields.optional "grouping_field_name" Value.asText }

def RuntimeConfig.encode (config : RuntimeConfig) : Value :=
  .object [("features_disabled", .ofTexts config.featuresDisabled)]

def RuntimeConfig.decode : Decoder RuntimeConfig :=
  Value.asRecord ["features_disabled"] fun fields => do
    return {
      featuresDisabled := ← fields.orElse "features_disabled" (Value.asList Value.asText) [] }

def Duration.encode (duration : Duration) : Value :=
  .text duration.text

def Duration.decode : Decoder Duration
  | .text text =>
    match Duration.read text with
    | .ok duration => .ok duration
    | .error .malformed => .error .malformed
    | .error .overrun => .error .crash
  | _ => .error .malformed

def FederatorConfig.encode (config : FederatorConfig) : Value :=
  .object [("default_core", .ofOption (config.defaultCore.map .text)),
    ("slow_query_threshold", .ofOption (config.slowQueryThreshold.map (·.encode)))]

def FederatorConfig.decode : Decoder FederatorConfig :=
  Value.asRecord ["default_core", "slow_query_threshold"] fun fields => do
    return {
      defaultCore := ← fields.optional "default_core" Value.asText
      slowQueryThreshold := ← fields.orElse "slow_query_threshold"
        (Value.asOptional Duration.decode) (some ⟨Duration.second⟩) }

end FederatedSearch
