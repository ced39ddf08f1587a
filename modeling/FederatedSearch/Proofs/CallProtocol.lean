import FederatedSearch.Proofs.CollectedKeys
import FederatedSearch.Proofs.Counterparts
import FederatedSearch.Proofs.Executions

/-! Which searches each core receives, and in which order, when a built and valid query gets a
response. The cores may answer as they like, and differently each time they are asked. -/

namespace FederatedSearch

variable {Q : Type}

def received (core : String) (calls : List (Call Q × Outcome)) : List (CoreSearch Q × Outcome) :=
  (calls.filter (·.1.core = core)).map fun call => (call.1.search, call.2)

theorem received_append (core : String) (first second : List (Call Q × Outcome)) :
    received core (first ++ second) = received core first ++ received core second := by
  simp [received]

structure Answers (Q : Type) where
  join : Option CoreResponse
  unites : List (Unite Q × CoreResponse)
  primary : CoreResponse
  facets : Option CoreResponse

namespace Answers

variable (answers : Answers Q) (query : ComposedQuery Q)

structure Fits (other : Counterpart) : Prop where
  join : answers.join.isSome = query.constrains other.core
  unites : answers.unites.map (·.1) = query.unites
  facets : answers.facets.isSome = !(query.facetsFor other.core).isEmpty

def keyFilters (resultsKey : String) : List KeyFilter :=
  answers.join.toList.map (fun answer => ⟨resultsKey, answer.keys⟩) ++
    if answers.unites.isEmpty then []
    else [⟨resultsKey, unionOf (answers.unites.map fun united => united.2.keys)⟩]

def unitesOn (core : String) : List (CoreSearch Q × Outcome) :=
  (answers.unites.filter (·.1.core = core)).map fun (unite, answer) =>
    ({ query := some unite.query, collectKeys := some unite.keyName }, .answered answer)

def atResults (results : String) (other : Counterpart) : List (CoreSearch Q × Outcome) :=
  answers.unitesOn results ++
    [({ query := query.queryFor results
        filters := query.filtersFor results
        rankQuery := query.rankQueryFor results
        drilldowns := query.drilldownsFor results
        keyFilters := answers.keyFilters other.resultsKey
        collectKeys :=
          if (query.facetsFor other.core).isEmpty then none else some other.resultsKey
        facets := query.facetsFor results
        options := { query.options with
          sortKeys := query.options.sortKeys.filter (·.core = results) } },
      .answered answers.primary)]

end Answers

namespace JoinRun

variable {query : ComposedQuery Q} {plan : JoinPlan} {results : String} {other : Counterpart}
  {run : JoinRun Q}

theorem resultsKey_eq (joins : plan.Joins query results other) (follows : run.Follows query plan) :
    run.resultsKey = other.resultsKey := by
  have keyed := follows.resultsKey
  rw [joins.resultsCore] at keyed
  exact Except.ok.inj (keyed.symm.trans joins.resultsKey)

theorem joinKeys_eq (joins : plan.Joins query results other) (follows : run.Follows query plan) :
    run.joinKeys = if query.constrains other.core then [(other.core, other.key)] else [] := by
  have cores := follows.joinCores
  rw [joins.joinCores] at cores
  cases constrained : query.constrains other.core with
  | false => simpa [constrained] using cores
  | true =>
      simp only [constrained, if_true] at cores ⊢
      obtain ⟨⟨core, key⟩, only, rfl⟩ := List.map_eq_singleton_iff.mp cores
      have keyed := follows.joinKeys _ (only ▸ List.mem_singleton_self _)
      have sameKey : key = other.key := Except.ok.inj (keyed.symm.trans joins.otherKey)
      rw [only, sameKey]

end JoinRun

def unitedQuery : ComposedQuery String :=
  ({} : ComposedQuery String).edited
    [.setResultsCore "A", .addMatch [("A", "k"), ("B", "j")], .addFilter "B" "f",
      .addFacet "B" ⟨"c", [], 0, none⟩, .unite [("A", "u"), ("B", "v")]]

end FederatedSearch
