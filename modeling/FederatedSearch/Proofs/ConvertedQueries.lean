import FederatedSearch.Federation.Lowering
import FederatedSearch.Proofs.AlikeQueries

/-! Requests whose queries are converted. Of the queries that cannot be converted the first is
reported. If all can be, the request with what became of each query is the one that is gone on
with; it names the same cores in the same way, so it is valid alike and has the same plan. -/

namespace FederatedSearch

variable {ε Q R : Type}

/-! Searches -/

namespace CoreSearch

def convert (change : Q → R) (search : CoreSearch Q) : CoreSearch R where
  query := search.query.map change
  filters := search.filters.map change
  rankQuery := search.rankQuery.map change
  drilldowns := search.drilldowns
  keyFilters := search.keyFilters
  collectKeys := search.collectKeys
  facets := search.facets
  options := search.options

def tryConvert (convert : Q → Except ε R) (search : CoreSearch Q) : Except ε (CoreSearch R) := do
  let query ← search.query.mapM convert
  let filters ← search.filters.mapM convert
  let rankQuery ← search.rankQuery.mapM convert
  return {
    query, filters, rankQuery
    drilldowns := search.drilldowns
    keyFilters := search.keyFilters
    collectKeys := search.collectKeys
    facets := search.facets
    options := search.options }

theorem tryConvert_ok_iff {convert : Q → Except ε R} {search : CoreSearch Q}
    {converted : CoreSearch R} :
    search.tryConvert convert = .ok converted ↔
      search.convert convert = converted.convert .ok := by
  cases converted
  simp only [tryConvert, CoreSearch.convert, bind_ok_iff, option_mapM_ok_iff_map, mapM_ok_iff_map,
    pure, Except.pure, Except.ok.injEq, mk.injEq]
  constructor
  · rintro ⟨_, query, _, filters, _, rank, rfl, rfl, rfl, rfl, rfl, rfl, rfl, rfl⟩
    exact ⟨query, filters, rank, rfl, rfl, rfl, rfl, rfl⟩
  · rintro ⟨query, filters, rank, rfl, rfl, rfl, rfl, rfl⟩
    exact ⟨_, query, _, filters, _, rank, rfl, rfl, rfl, rfl, rfl, rfl, rfl, rfl⟩

end CoreSearch

/-! Composed queries -/

theorem Bundle.tryConvert_ok_iff {convert : Q → Except ε R} {bundle : Bundle Q}
    {converted : Bundle R} :
    bundle.tryConvert convert = .ok converted ↔
      bundle.convert convert = converted.convert .ok := by
  cases converted
  simp only [tryConvert, Bundle.convert, bind_ok_iff, option_mapM_ok_iff_map, mapM_ok_iff_map,
    pure, Except.pure, Except.ok.injEq, mk.injEq]
  constructor
  · rintro ⟨_, query, _, filters, _, rank, rfl, rfl, rfl, rfl, rfl, rfl⟩
    exact ⟨rfl, query, filters, rfl, rfl, rank⟩
  · rintro ⟨rfl, query, filters, rfl, rfl, rank⟩
    exact ⟨_, query, _, filters, _, rank, rfl, rfl, rfl, rfl, rfl, rfl⟩

theorem Unite.tryConvert_ok_iff {convert : Q → Except ε R} {unite : Unite Q}
    {converted : Unite R} :
    unite.tryConvert convert = .ok converted ↔ unite.convert convert = converted.convert .ok := by
  cases converted
  simp only [tryConvert, Unite.convert, bind_ok_iff, pure, Except.pure, Except.ok.injEq, mk.injEq]
  constructor
  · rintro ⟨_, query, rfl, rfl, rfl⟩
    exact ⟨rfl, rfl, query⟩
  · rintro ⟨rfl, rfl, query⟩
    exact ⟨_, query, rfl, rfl, rfl⟩

namespace ComposedQuery

section Tried

variable {convert : Q → Except ε R} {query : ComposedQuery Q} {converted : ComposedQuery R}

/-- What a request is converted to holds what becomes of each of its queries. -/
theorem convert_of_tryConvert (done : query.tryConvert convert = .ok converted) :
    query.convert convert = converted.convert .ok := by
  obtain ⟨bundles, ofBundles, rest⟩ := bind_ok_iff.mp done
  obtain ⟨unites, ofUnites, same⟩ := bind_ok_iff.mp rest
  obtain rfl := Except.ok.inj same
  have sameBundles : query.bundles.map (·.convert convert) = bundles.map (·.convert .ok) :=
    (map_eq_of_mapM_ok _ _ (fun _ _ isBundle => (Bundle.tryConvert_ok_iff.mp isBundle).symm)
      ofBundles).symm
  have sameUnites : query.unites.map (·.convert convert) = unites.map (·.convert .ok) :=
    (map_eq_of_mapM_ok _ _ (fun _ _ isUnite => (Unite.tryConvert_ok_iff.mp isUnite).symm)
      ofUnites).symm
  unfold ComposedQuery.convert
  rw [sameBundles, sameUnites]

/-- A request is converted query by query: bundle by bundle, and in each its query, its filters and
its rank query, and then the unites. -/
theorem map_everyQuery_tryConvert (convert : Q → Except ε R) (query : ComposedQuery Q) :
    (query.tryConvert convert).map everyQuery = query.everyQuery.mapM convert := by
  have ofOption (element : Option Q) :
      (element.mapM convert).map Option.toList = element.toList.mapM convert := by
    cases element with
    | none => rfl
    | some part =>
        rw [Option.mapM_some, Option.toList_some, List.mapM_cons]
        cases convert part <;> rfl
  have ofBundle (bundle : Bundle Q) : (bundle.tryConvert convert).map (fun converted =>
        converted.query.toList ++ converted.filters ++ converted.rankQuery.toList) =
      (bundle.query.toList ++ bundle.filters ++ bundle.rankQuery.toList).mapM convert := by
    rw [List.mapM_append, List.mapM_append, ← ofOption, ← ofOption]
    unfold Bundle.tryConvert
    cases bundle.query.mapM convert with
    | error error => rfl
    | ok main =>
        cases bundle.filters.mapM convert with
        | error error => rfl
        | ok filters => cases bundle.rankQuery.mapM convert <;> rfl
  have ofUnites : (query.unites.mapM (Unite.tryConvert convert)).map (·.map (·.query)) =
      (query.unites.map (·.query)).mapM convert := by
    have ofUnite (unite : Unite Q) : (unite.tryConvert convert).map (fun converted =>
        [converted.query]) = [unite.query].mapM convert := by
      rw [List.mapM_cons]
      unfold Unite.tryConvert
      cases convert unite.query <;> rfl
    simpa only [List.map_eq_flatMap] using mapM_flatMap ofUnite query.unites
  unfold everyQuery
  rw [List.mapM_append, ← mapM_flatMap ofBundle, ← ofUnites]
  unfold tryConvert
  cases query.bundles.mapM (Bundle.tryConvert convert) with
  | error error => rfl
  | ok bundles => cases query.unites.mapM (Unite.tryConvert convert) <;> rfl

theorem tryConvert_error_iff {error : ε} :
    query.tryConvert convert = .error error ↔ ∃ before part after,
      query.everyQuery = before ++ part :: after ∧
      (∀ earlier ∈ before, ∃ result, convert earlier = .ok result) ∧
      convert part = .error error := by
  rw [← mapM_error_iff, ← map_everyQuery_tryConvert]
  cases query.tryConvert convert <;> simp [Except.map]

theorem exists_tryConvert_iff : (∃ converted, query.tryConvert convert = .ok converted) ↔
    ∀ part ∈ query.everyQuery, ∃ result, convert part = .ok result := by
  constructor
  · rintro ⟨converted, done⟩ part member
    have each := map_everyQuery_tryConvert convert query
    rw [done] at each
    obtain ⟨result, -, isResult⟩ := exists_ok_of_mapM each.symm member
    exact ⟨result, isResult⟩
  · intro each
    cases done : query.tryConvert convert with
    | ok converted => exact ⟨converted, rfl⟩
    | error error =>
        obtain ⟨before, part, after, split, -, isError⟩ := tryConvert_error_iff.mp done
        obtain ⟨result, isResult⟩ := each part (by simp [split])
        rw [isError] at isResult
        cases isResult

end Tried

/-! What is read of a request with other queries -/

section Changed

variable (change : Q → R) (query : ComposedQuery Q) (core : String)

theorem bundleOf_convert :
    (query.convert change).bundleOf core = (query.bundleOf core).convert change := by
  unfold bundleOf bundle? ComposedQuery.convert
  rw [List.find?_map]
  change ((query.bundles.find? (·.core = core)).map (·.convert change)).getD _ = _
  cases query.bundles.find? (·.core = core) <;> rfl

theorem sameCores_convert : (query.convert change).SameCores query :=
  .of_outline (outline_convert query change)

theorem cores_convert : (query.convert change).cores = query.cores := by
  have registered : (query.convert change).bundles.map (·.core) = query.bundles.map (·.core) :=
    congrArg Outline.registered (outline_convert query change)
  unfold cores
  rw [registered]
  rfl

theorem isConstrained_convert (bundle : Bundle Q) :
    (bundle.convert change).isConstrained = bundle.isConstrained := by
  unfold Bundle.isConstrained Bundle.convert
  rw [Option.isSome_map, List.isEmpty_map]

theorem ofQuery_convert : JoinPlan.ofQuery (query.convert change) = JoinPlan.ofQuery query := by
  refine JoinPlan.ofQuery_congr (query.sameCores_convert change) (query.cores_convert change)
    (fun core _ => ?_) (fun core _ => ?_) ?_
  · rw [constrains_eq, constrains_eq, bundleOf_convert, isConstrained_convert]
  · rw [facetsFor_eq, facetsFor_eq, bundleOf_convert]
    rfl
  · exact congrArg Outline.uniteCores (outline_convert query change)

theorem setResultsCore_convert :
    (query.convert change).setResultsCore core = (query.setResultsCore core).convert change := by
  have ofBundles (bundles : List (Bundle Q)) :
      changeBundle core id (bundles.map (·.convert change)) =
        (changeBundle core id bundles).map (·.convert change) := by
    induction bundles with
    | nil => rfl
    | cons bundle rest ih =>
        simp only [List.map_cons, changeBundle, ih]
        change (if bundle.core = core then _ else _) = _
        split <;> rfl
  have same := ofBundles query.bundles
  unfold setResultsCore register ComposedQuery.change ComposedQuery.convert
  rw [same]

end Changed

end ComposedQuery

namespace Federator

variable (federator : Federator) (change : Q → R) (query : ComposedQuery Q)

theorem planFor_convert : federator.planFor (query.convert change) = federator.planFor query :=
  federator.planFor_congr (query.sameCores_convert change).validate fun _ =>
    query.ofQuery_convert change

theorem withDefaultCore_convert :
    federator.withDefaultCore (query.convert change) =
      (federator.withDefaultCore query).convert change := by
  unfold withDefaultCore
  cases isSet : query.resultsCore with
  | some results => simp [ComposedQuery.convert, isSet]
  | none =>
      cases federator.config.defaultCore with
      | none => simp [ComposedQuery.convert, isSet]
      | some core =>
          simp only [show (query.convert change).resultsCore = none from isSet]
          exact query.setResultsCore_convert change core

end Federator

end FederatedSearch
