import FederatedSearch.Composed.Basic

/-! The plan of a composed query: which cores are searched for keys, which for facets, and by which
field each core is joined to the results core. -/

namespace FederatedSearch

structure JoinPlan where
  resultsCore : String
  keys : SortedMap String String
  joinCores : List String
  facetCores : List String
  uniteCores : List String
deriving DecidableEq

namespace JoinPlan

variable {Q : Type}

/-- The key fields of the results core and of some other cores. The results core goes by the field
of its first match. -/
def joinKeys (query : ComposedQuery Q) (resultsCore : String) (keys : SortedMap String String) :
    List String → Except RequestError (SortedMap String String)
  | [] => .ok keys
  | core :: rest =>
    match query.keyNames? resultsCore core with
    | none => .error (.noMatchForCores [resultsCore, core])
    | some (resultsKey, coreKey) =>
      let withResults := keys.update resultsCore (·.getD resultsKey)
      joinKeys query resultsCore (withResults.insert core coreKey) rest

def coreHas (query : ComposedQuery Q) (property : Bundle Q → Bool) (core : String) : Bool :=
  (query.bundle? core).any property

def ofQuery (query : ComposedQuery Q) : Except RequestError JoinPlan :=
  match query.resultsCore with
  | none => .error .resultsCoreNotSet
  | some resultsCore => do
    let others := query.cores.drop 1
    let keys ← joinKeys query resultsCore SortedMap.empty others
    return {
      resultsCore
      keys
      joinCores := others.filter (coreHas query (·.isConstrained))
      facetCores := others.filter (coreHas query (!·.facets.isEmpty))
      uniteCores := query.unites.map (·.core) }

def isPassThrough (plan : JoinPlan) : Bool :=
  plan.joinCores.isEmpty && plan.facetCores.isEmpty && plan.uniteCores.isEmpty

def addCore (cores : List String) (core : String) : List String :=
  if cores.contains core then cores else cores ++ [core]

def cores (plan : JoinPlan) : List String :=
  (plan.joinCores ++ plan.facetCores ++ plan.uniteCores).foldl addCore [plan.resultsCore]

def keyFor (plan : JoinPlan) (core : String) : Except RequestError String :=
  match plan.keys.get? core with
  | some key => .ok key
  | none => .error (.noMatchForCores [plan.resultsCore, core])

end JoinPlan

end FederatedSearch
