import FederatedSearch.Proofs.AddedFacets
import FederatedSearch.Proofs.BuiltQueries

/-! What operations make of what is asked of one core, of the options and of the results core. An
operation on one core leaves all others as they are, and operations of one kind put one thing behind
the other. -/

namespace FederatedSearch

variable {Q α : Type}

namespace Edit

def onBundle (core : String) (bundle : Bundle Q) : Edit Q → Bundle Q
  | .add target main facets filters =>
    if core = target then { core := target, query := main, facets, filters } else bundle
  | .setCoreQuery target main =>
    if core = target then { bundle with query := some main } else bundle
  | .addFilter target filter =>
    if core = target then { bundle with filters := bundle.filters ++ [filter] } else bundle
  | .addFacet target facet =>
    if core = target then { bundle with facets := bundle.facets ++ [facet] } else bundle
  | .addDrilldown target drilldown =>
    if core = target then { bundle with drilldowns := bundle.drilldowns ++ [drilldown] }
    else bundle
  | .setRankQuery target rank =>
    if core = target then { bundle with rankQuery := some rank } else bundle
  | .setResultsCore _ | .addSortKey _ | .addMatch _ | .unite _ | .setStart _ | .setStop _
    | .setSuggestions _ | .setDedup _ _ | .setGroupingField _ | .setClustering _ => bundle

def onOptions (options : QueryOptions) : Edit Q → QueryOptions
  | .addSortKey key => { options with sortKeys := options.sortKeys ++ [key] }
  | .setStart start => { options with start := some start }
  | .setStop stop => { options with stop := some stop }
  | .setSuggestions request => { options with suggestions := some request }
  | .setDedup field sortField =>
    { options with dedupField := some field, dedupSortField := sortField }
  | .setGroupingField field => { options with groupingField := some field }
  | .setClustering clustering => { options with clustering }
  | .setResultsCore _ | .add _ _ _ _ | .setCoreQuery _ _ | .addFilter _ _ | .addFacet _ _
    | .addDrilldown _ _ | .setRankQuery _ _ | .addMatch _ | .unite _ => options

def onResultsCore (resultsCore : Option String) : Edit Q → Option String
  | .setResultsCore core => some core
  | _ => resultsCore

variable {query changed : ComposedQuery Q} {edit : Edit Q}

theorem bundleOf_apply (done : edit.apply query = .ok changed) (core : String) :
    changed.bundleOf core = edit.onBundle core (query.bundleOf core) := by
  cases edit with
  | setResultsCore target =>
      obtain rfl := Except.ok.inj done
      exact ComposedQuery.bundleOf_register query target core
  | add target main facets filters =>
      obtain rfl := Except.ok.inj done
      refine ComposedQuery.bundleOf_change ?_ core
      intro bundle _
      rfl
  | setCoreQuery | addFilter | addFacet | addDrilldown | setRankQuery =>
      obtain rfl := Except.ok.inj done
      refine (ComposedQuery.bundleOf_change ?_ core).trans ?_
      · intro bundle same
        exact same
      · split
        next same =>
          subst same
          simp [onBundle]
        next different => simp [onBundle, different]
  | addMatch sides =>
      obtain ⟨first, second, -, rfl⟩ := ComposedQuery.addMatch_ok done
      rfl
  | unite queries =>
      obtain ⟨first, second, keys, -, -, rfl⟩ := ComposedQuery.unite_ok done
      exact (ComposedQuery.bundleOf_register (query.register first.1) second.1 core).trans
        (ComposedQuery.bundleOf_register query first.1 core)
  | addSortKey | setStart | setStop | setSuggestions | setDedup | setGroupingField
    | setClustering =>
      obtain rfl := Except.ok.inj done
      rfl

theorem options_apply (done : edit.apply query = .ok changed) :
    changed.options = edit.onOptions query.options := by
  cases edit with
  | addMatch sides =>
      obtain ⟨first, second, -, rfl⟩ := ComposedQuery.addMatch_ok done
      rfl
  | unite queries =>
      obtain ⟨first, second, keys, -, -, rfl⟩ := ComposedQuery.unite_ok done
      rfl
  | _ =>
      obtain rfl := Except.ok.inj done
      rfl

theorem resultsCore_apply (done : edit.apply query = .ok changed) :
    changed.resultsCore = edit.onResultsCore query.resultsCore := by
  cases edit with
  | addMatch sides =>
      obtain ⟨first, second, -, rfl⟩ := ComposedQuery.addMatch_ok done
      rfl
  | unite queries =>
      obtain ⟨first, second, keys, -, -, rfl⟩ := ComposedQuery.unite_ok done
      rfl
  | _ =>
      obtain rfl := Except.ok.inj done
      rfl

/-- Operations of one kind, of which several do what one does for all that it is given, do that
for what they give to the core. -/
theorem foldl_onBundle_map {core : String} {make : α → Edit Q} (target : α → String)
    (put : Bundle Q → List α → Bundle Q) (nothing : ∀ bundle, put bundle [] = bundle)
    (more : ∀ bundle first rest, put (put bundle [first]) rest = put bundle (first :: rest))
    (each : ∀ bundle item, (make item).onBundle core bundle =
      if core = target item then put bundle [item] else bundle)
    (bundle : Bundle Q) (items : List α) :
    (items.map make).foldl (onBundle core) bundle =
      put bundle (items.filter (target · = core)) := by
  induction items generalizing bundle with
  | nil => exact (nothing bundle).symm
  | cons item rest ih =>
      rw [List.map_cons, List.foldl_cons, ih, each]
      by_cases same : core = target item
      · rw [if_pos same, more, List.filter_cons_of_pos (by simp [same])]
      · rw [if_neg same, List.filter_cons_of_neg (by simp [Ne.symm same])]

end Edit

end FederatedSearch
