import FederatedSearch.Proofs.EditedBundles
import Mathlib.Data.List.DropRight
import Mathlib.Data.List.Induction

/-! What a query asks of a core, told by the operations that name it. An `add` sets everything anew
and all others put something to what is there, so each part is told by the last `add` and by what
came after it. -/

namespace FederatedSearch

variable {Q α : Type}

inductive CoreEdit (Q : Type) where
  | add (main : Option Q) (facets : List FacetRequest) (filters : List Q)
  | setQuery (main : Q)
  | addFilter (filter : Q)
  | addFacet (facet : FacetRequest)
  | addDrilldown (drilldown : Drilldown)
  | setRankQuery (rank : Q)

def Edit.on? (core : String) : Edit Q → Option (CoreEdit Q)
  | .add target main facets filters => if target = core then some (.add main facets filters) else none
  | .setCoreQuery target main => if target = core then some (.setQuery main) else none
  | .addFilter target filter => if target = core then some (.addFilter filter) else none
  | .addFacet target facet => if target = core then some (.addFacet facet) else none
  | .addDrilldown target drilldown =>
    if target = core then some (.addDrilldown drilldown) else none
  | .setRankQuery target rank => if target = core then some (.setRankQuery rank) else none
  | .setResultsCore _ | .addSortKey _ | .addMatch _ | .unite _ | .setStart _ | .setStop _
    | .setSuggestions _ | .setDedup _ _ | .setGroupingField _ | .setClustering _ => none

namespace CoreEdit

def apply (bundle : Bundle Q) : CoreEdit Q → Bundle Q
  | .add main facets filters => { core := bundle.core, query := main, facets, filters }
  | .setQuery main => { bundle with query := some main }
  | .addFilter filter => { bundle with filters := bundle.filters ++ [filter] }
  | .addFacet facet => { bundle with facets := bundle.facets ++ [facet] }
  | .addDrilldown drilldown => { bundle with drilldowns := bundle.drilldowns ++ [drilldown] }
  | .setRankQuery rank => { bundle with rankQuery := some rank }

def isAdd : CoreEdit Q → Bool
  | .add _ _ _ => true
  | _ => false

def main? : CoreEdit Q → Option (Option Q)
  | .add main _ _ => some main
  | .setQuery main => some (some main)
  | _ => none

def filters? : CoreEdit Q → Option (List Q)
  | .add _ _ filters => some filters
  | _ => none

def facets? : CoreEdit Q → Option (List FacetRequest)
  | .add _ facets _ => some facets
  | _ => none

def filter? : CoreEdit Q → Option Q
  | .addFilter filter => some filter
  | _ => none

def facet? : CoreEdit Q → Option FacetRequest
  | .addFacet facet => some facet
  | _ => none

def drilldown? : CoreEdit Q → Option Drilldown
  | .addDrilldown drilldown => some drilldown
  | _ => none

def rank? : CoreEdit Q → Option Q
  | .setRankQuery rank => some rank
  | _ => none

def last? (read : CoreEdit Q → Option α) (log : List (CoreEdit Q)) : Option α :=
  log.reverse.findSome? read

/-- The operations after the last `add`, which are all if there is none. -/
def sinceAdd (log : List (CoreEdit Q)) : List (CoreEdit Q) :=
  log.rtakeWhile (!·.isAdd)

structure Replays (log : List (CoreEdit Q)) (bundle : Bundle Q) : Prop where
  query : bundle.query = (last? main? log).join
  filters : bundle.filters = (last? filters? log).getD [] ++ (sinceAdd log).filterMap filter?
  facets : bundle.facets = (last? facets? log).getD [] ++ (sinceAdd log).filterMap facet?
  drilldowns : bundle.drilldowns = (sinceAdd log).filterMap drilldown?
  rankQuery : bundle.rankQuery = last? rank? (sinceAdd log)

variable {log : List (CoreEdit Q)} {bundle : Bundle Q}

theorem last?_concat (read : CoreEdit Q → Option α) (log : List (CoreEdit Q))
    (edit : CoreEdit Q) : last? read (log ++ [edit]) = (read edit).or (last? read log) := by
  rw [last?, List.reverse_concat, List.findSome?_cons]
  cases read edit <;> rfl

theorem sinceAdd_concat (log : List (CoreEdit Q)) (edit : CoreEdit Q) :
    sinceAdd (log ++ [edit]) = if edit.isAdd then [] else sinceAdd log ++ [edit] := by
  rw [sinceAdd, List.rtakeWhile_concat]
  cases edit.isAdd <;> rfl

theorem additions_concat (read : CoreEdit Q → Option α) (log : List (CoreEdit Q))
    (edit : CoreEdit Q) : (sinceAdd (log ++ [edit])).filterMap read =
      if edit.isAdd then [] else (sinceAdd log).filterMap read ++ (read edit).toList := by
  rw [sinceAdd_concat]
  cases edit.isAdd with
  | true => rfl
  | false => cases given : read edit <;> simp [given]

theorem lastSinceAdd_concat (read : CoreEdit Q → Option α) (log : List (CoreEdit Q))
    (edit : CoreEdit Q) : last? read (sinceAdd (log ++ [edit])) =
      if edit.isAdd then none else (read edit).or (last? read (sinceAdd log)) := by
  rw [sinceAdd_concat]
  cases edit.isAdd with
  | true => rfl
  | false => exact last?_concat read (sinceAdd log) edit

theorem Replays.step (replays : Replays log bundle) (edit : CoreEdit Q) :
    Replays (log ++ [edit]) (edit.apply bundle) := by
  obtain ⟨query, filters, facets, drilldowns, rankQuery⟩ := replays
  constructor
  case query =>
      rw [last?_concat]
      cases edit <;> simp [apply, main?, query]
  case filters =>
      rw [last?_concat, additions_concat]
      cases edit <;> simp [apply, isAdd, filters?, filter?, filters]
  case facets =>
      rw [last?_concat, additions_concat]
      cases edit <;> simp [apply, isAdd, facets?, facet?, facets]
  case drilldowns =>
      rw [additions_concat]
      cases edit <;> simp [apply, isAdd, drilldown?, drilldowns]
  case rankQuery =>
      rw [lastSinceAdd_concat]
      cases edit <;> simp [apply, isAdd, rank?, rankQuery]

theorem replays_foldl (core : String) (log : List (CoreEdit Q)) :
    Replays log (log.foldl apply { core }) := by
  induction log using List.reverseRecOn with
  | nil => exact ⟨rfl, rfl, rfl, rfl, rfl⟩
  | append_singleton log edit ih =>
      rw [List.foldl_append]
      exact ih.step edit

end CoreEdit

/-! The operations of a run that name a core -/

namespace Edit

variable {query : ComposedQuery Q} {core : String}

theorem onBundle_eq {bundle : Bundle Q} (ofCore : bundle.core = core) (edit : Edit Q) :
    edit.onBundle core bundle = ((edit.on? core).toList).foldl CoreEdit.apply bundle := by
  subst ofCore
  cases edit with
  | add target | setCoreQuery target | addFilter target | addFacet target | addDrilldown target
    | setRankQuery target =>
      by_cases same : target = bundle.core
      · simp [onBundle, on?, CoreEdit.apply, same]
      · simp [onBundle, on?, same, Ne.symm same]
  | setResultsCore | addSortKey | addMatch | unite | setStart | setStop | setSuggestions | setDedup
    | setGroupingField | setClustering => rfl

end Edit

namespace ComposedQuery

variable {query : ComposedQuery Q} {core : String}

theorem core_bundleOf (query : ComposedQuery Q) (core : String) :
    (query.bundleOf core).core = core := by
  unfold bundleOf
  cases found : query.bundle? core with
  | none => rfl
  | some bundle => simpa using List.find?_some found

/-- An operation does to a core what it does when it succeeds, or does not name the core. -/
theorem bundleOf_applyOrKeep (query : ComposedQuery Q) (edit : Edit Q) (core : String) :
    (edit.applyOrKeep query).bundleOf core =
      (edit.on? core).toList.foldl CoreEdit.apply (query.bundleOf core) := by
  unfold Edit.applyOrKeep
  cases done : edit.apply query with
  | ok changed =>
      rw [← Edit.onBundle_eq (query.core_bundleOf core)]
      exact Edit.bundleOf_apply done core
  | error error =>
      have unnamed : edit.on? core = none := by
        cases edit with
        | addMatch | unite => rfl
        | _ => cases done
      rw [unnamed]
      rfl

theorem bundleOf_edited (query : ComposedQuery Q) (edits : List (Edit Q)) (core : String) :
    (query.edited edits).bundleOf core =
      (edits.filterMap (Edit.on? core)).foldl CoreEdit.apply (query.bundleOf core) := by
  unfold ComposedQuery.edited
  induction edits generalizing query with
  | nil => rfl
  | cons edit rest ih =>
      rw [List.foldl_cons, ih, bundleOf_applyOrKeep, List.filterMap_cons]
      cases edit.on? core <;> rfl

structure SameAt (core : String) (one other : ComposedQuery Q) : Prop where
  query : other.queryFor core = one.queryFor core
  queries : other.queriesFor core = one.queriesFor core
  filters : other.filtersFor core = one.filtersFor core
  facets : other.facetsFor core = one.facetsFor core
  drilldowns : other.drilldownsFor core = one.drilldownsFor core
  rankQuery : other.rankQueryFor core = one.rankQueryFor core

theorem SameAt.of_bundleOf {other : ComposedQuery Q}
    (same : other.bundleOf core = query.bundleOf core) : SameAt core query other := by
  constructor <;>
    simp only [queriesFor, queryFor_eq, filtersFor_eq, facetsFor_eq, drilldownsFor_eq,
      rankQueryFor_eq, same]

open CoreEdit in
/-- After any operations on the empty query, a core is asked what those that name it have given it:
the query set last; the filters and facets of the last `add`, and behind them those added since; the
drilldowns added since, and the rank query set last since. Operations that do not name the core,
whether or not they fail, leave that as it is, wherever they stand among the others. -/
theorem bundles_replay (edits : List (Edit Q)) (core : String) :
    let query := ({} : ComposedQuery Q).edited edits
    let log := edits.filterMap (Edit.on? core)
    query.queryFor core = (last? main? log).join ∧
    query.filtersFor core = (last? filters? log).getD [] ++ (sinceAdd log).filterMap filter? ∧
    query.facetsFor core = (last? facets? log).getD [] ++ (sinceAdd log).filterMap facet? ∧
    query.drilldownsFor core = (sinceAdd log).filterMap drilldown? ∧
    query.rankQueryFor core = last? rank? (sinceAdd log) ∧
    query.queriesFor core = (last? main? log).join.toList ++
      ((last? filters? log).getD [] ++ (sinceAdd log).filterMap filter?) ∧
    (∀ (before : ComposedQuery Q) (edit : Edit Q), edit.on? core = none →
      SameAt core before (edit.applyOrKeep before)) ∧
    ∀ others : List (Edit Q), others.filterMap (Edit.on? core) = log →
      SameAt core query (({} : ComposedQuery Q).edited others) := by
  intro query log
  have replayed : query.bundleOf core = log.foldl CoreEdit.apply { core } :=
    bundleOf_edited {} edits core
  have replays : CoreEdit.Replays log (query.bundleOf core) := replayed ▸ replays_foldl core log
  refine ⟨?query, ?filters, ?facets, ?drilldowns, ?rankQuery, ?queries, ?unnamed, ?interleaved⟩
  case query => rw [queryFor_eq, replays.query]
  case filters => rw [filtersFor_eq, replays.filters]
  case facets => rw [facetsFor_eq, replays.facets]
  case drilldowns => rw [drilldownsFor_eq, replays.drilldowns]
  case rankQuery => rw [rankQueryFor_eq, replays.rankQuery]
  case queries => rw [queriesFor, queryFor_eq, filtersFor_eq, replays.query, replays.filters]
  case unnamed =>
      intro before edit unnamed
      refine .of_bundleOf ?_
      rw [bundleOf_applyOrKeep, unnamed]
      rfl
  case interleaved =>
      intro others sameLog
      refine .of_bundleOf ?_
      rw [bundleOf_edited, sameLog, replayed]
      rfl

def renewedEdits : List (Edit String) :=
  [.addFilter "books" "old", .addMatch [("books", "by")], .addDrilldown "books" ⟨"shelf", ["x"]⟩,
    .add "authors" (some "Dutch") [] ["alive"], .add "books" none [⟨"genre", [], 5, none⟩] ["bound"],
    .unite [("books", "u"), ("authors", "v")], .setCoreQuery "books" "novel",
    .addFilter "authors" "read", .addFilter "books" "lent"]

theorem renewedEdits_replay :
    let query := ({} : ComposedQuery String).edited renewedEdits
    query.queryFor "books" = some "novel" ∧ query.queriesFor "books" = ["novel", "bound", "lent"] ∧
    query.facetsFor "books" = [⟨"genre", [], 5, none⟩] ∧ query.drilldownsFor "books" = [] ∧
    query.filtersFor "authors" = ["alive", "read"] ∧
    (Edit.addFilter "authors" "rich" : Edit String).on? "books" = none ∧
    SameAt "books" query ((Edit.addFilter "authors" "rich").applyOrKeep query) ∧
    ∃ others, others.length = 5 ∧
      others.filterMap (Edit.on? "books") = renewedEdits.filterMap (Edit.on? "books") ∧
      SameAt "books" query (({} : ComposedQuery String).edited others) := by
  obtain ⟨main, -, facets, drilldowns, -, queries, unnamed, interleaved⟩ :=
    bundles_replay renewedEdits "books"
  obtain ⟨-, filters, -⟩ := bundles_replay renewedEdits "authors"
  refine ⟨main, queries, facets, drilldowns, filters, rfl, unnamed _ _ rfl,
    [.addFilter "books" "old", .addDrilldown "books" ⟨"shelf", ["x"]⟩,
      .add "books" none [⟨"genre", [], 5, none⟩] ["bound"], .setCoreQuery "books" "novel",
      .addFilter "books" "lent"], rfl, rfl, interleaved _ rfl⟩

end ComposedQuery

end FederatedSearch
