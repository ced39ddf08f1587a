import FederatedSearch.Error
import FederatedSearch.Settings.Duration
import FederatedSearch.SortedSet

/-! The settings of translators and federators. -/

namespace FederatedSearch

structure CoreKey where
  core : String
  key : String
deriving DecidableEq

structure TranslatorConfig where
  resultsCore : String
  matchings : List (List CoreKey) := []
  dedupField : Option String := none
  dedupSortField : Option String := none
  dedupByDefault : Bool := true
  groupingField : Option String := none
deriving DecidableEq

inductive ConfigError where
  | missingResultsCore
  | wrongCores (index : Nat)
  | emptyKey (index : Nat) (core : String)
deriving DecidableEq

def ConfigError.message : ConfigError → String
  | .missingResultsCore => "no results core configured"
  | .wrongCores index =>
    "match declaration " ++ toString index ++ " is invalid: expected " ++ toString maxCores ++
      " distinct cores"
  | .emptyKey index core =>
    "match declaration " ++ toString index ++ " is invalid: empty key for core '" ++ core ++ "'"

namespace TranslatorConfig

def cores (config : TranslatorConfig) : SortedSet String :=
  (SortedSet.ofList (config.matchings.flatMap (·.map (·.core)))).insert config.resultsCore

def validateMatch (index : Nat) (sides : List CoreKey) : Except ConfigError Unit :=
  if sides.length ≠ maxCores || (SortedSet.ofList (sides.map (·.core))).size ≠ maxCores then
    .error (.wrongCores index)
  else
    match sides.find? (·.key.isEmpty) with
    | some side => .error (.emptyKey index side.core)
    | none => .ok ()

def validateMatches (index : Nat) : List (List CoreKey) → Except ConfigError Unit
  | [] => .ok ()
  | sides :: rest => do
    validateMatch index sides
    validateMatches (index + 1) rest

def validate (config : TranslatorConfig) : Except ConfigError Unit :=
  if config.resultsCore.isEmpty then .error .missingResultsCore
  else validateMatches 0 config.matchings

end TranslatorConfig

inductive Feature where
  | grouping
  | clustering
deriving DecidableEq

def Feature.name : Feature → String
  | .grouping => "grouping"
  | .clustering => "clustering"

structure RuntimeConfig where
  featuresDisabled : List String := []
deriving DecidableEq

def RuntimeConfig.isEnabled (config : RuntimeConfig) (feature : String) : Bool :=
  !config.featuresDisabled.contains feature

structure FederatorConfig where
  defaultCore : Option String := none
  slowQueryThreshold : Option Duration := some ⟨Duration.second⟩
deriving DecidableEq

end FederatedSearch
