import FederatedSearch.Query.Parser

/-! What can go wrong with a request. Errors of the request itself are found before any core is
searched; errors of a core end the whole request. -/

namespace FederatedSearch

def maxCores : Nat :=
  2

inductive PairOperation where
  | addMatch
  | unite
deriving DecidableEq

def PairOperation.name : PairOperation → String
  | .addMatch => "add_match"
  | .unite => "unite"

inductive RequestError where
  | matchArity (operation : PairOperation) (count : Nat)
  | noMatchForCores (cores : List String)
  | noMatchSet
  | unsupportedCoreCount (count : Nat)
  | resultsCoreNotSet
  | unsupportedFacetSort (name : String)
  | unknownCore (core : String)
  | queryParse (error : ParseError)
deriving DecidableEq

def RequestError.message : RequestError → String
  | .matchArity operation count =>
    "expected " ++ operation.name ++ "(coreA=..., coreB=...) with exactly " ++ toString maxCores ++
      " cores, got " ++ toString count
  | .noMatchForCores cores => "no match set for cores: " ++ escapedList cores
  | .noMatchSet => "no match set for cores"
  | .unsupportedCoreCount count =>
    "unsupported number of cores (" ++ toString count ++ "), expected at most " ++
      toString maxCores ++ " and at least 1"
  | .resultsCoreNotSet => "core for results not specified, use results_from"
  | .unsupportedFacetSort name => "unsupported facet sortBy value: " ++ name
  | .unknownCore core => "unknown core: " ++ core
  | .queryParse error => "failed to parse query: " ++ error.message

structure SearchFailure where
  core : String
  reason : String
deriving DecidableEq

def SearchFailure.message (failure : SearchFailure) : String :=
  "search on core '" ++ failure.core ++ "' failed: " ++ failure.reason

/-- The error of a search. A task may be one that the request itself had started for the core: what
is said of that is up to the runtime, and is left out. -/
inductive BackendError where
  | searchFailed (failure : SearchFailure)
  | taskFailed (core : String) (reason : Option String)
deriving DecidableEq

inductive Failure where
  | request (error : RequestError)
  | backend (error : BackendError)
  | crash
deriving DecidableEq

def Failure.isInvalidRequest : Failure → Bool
  | .request _ => true
  | _ => false

def Failure.isBackendFailure : Failure → Bool
  | .backend _ => true
  | _ => false

end FederatedSearch
