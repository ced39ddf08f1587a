import FederatedSearch.Proofs.MatchNames
import FederatedSearch.Proofs.QueryInvariants

/-! Composed queries stored as structured values and read again. All of a query comes back, its
matches as their names are read; none of them is lost or changed exactly when no match has a first
core whose name holds the separator. -/

namespace FederatedSearch

variable {Q R : Type} {write : Q → Value} {read : Decoder Q}

def Faithful (write : Q → Value) (read : Decoder Q) : Prop :=
  ∀ query, Value.asOptional read (write query) = .ok (some query)

theorem Faithful.read_write (faithful : Faithful write read) (query : Q) :
    read (write query) = .ok query := by
  have optional := faithful query
  unfold Value.asOptional at optional
  split at optional
  · cases optional
  · obtain ⟨_, isRead, same⟩ := map_ok_iff.mp optional
    rwa [Option.some.inj same] at isRead

theorem faithful_text : Faithful .text Value.asText :=
  fun _ => rfl

theorem faithful_expression : Faithful Expression.encode Expression.decode := by
  intro query
  have isRead := query.decode_encode
  obtain ⟨field, written⟩ := query.exists_encode_eq
  rw [written] at isRead ⊢
  change some <$> Expression.decode _ = _
  rw [isRead]
  rfl

theorem Bundle.decode_encode (faithful : Faithful write read) {bundle : Bundle Q}
    (fits : bundle.Fits) :
    decode read (bundle.encode write) = .ok bundle := by
  have filters : Value.asList read (.list (bundle.filters.map write)) = .ok bundle.filters :=
    Value.asList_map fun filter _ => faithful.read_write filter
  have facets : Value.asList FacetRequest.decode (.list (bundle.facets.map (·.encode))) =
      .ok bundle.facets :=
    Value.asList_map fun facet member => FacetRequest.decode_encode (fits facet member)
  have drilldowns : Value.asList Drilldown.decode (.list (bundle.drilldowns.map (·.encode))) =
      .ok bundle.drilldowns :=
    Value.asList_map fun drilldown _ => drilldown.decode_encode
  have optional (part : Option Q) :
      Value.asOptional read (.ofOption (part.map write)) = .ok part :=
    Value.asOptional_ofOption fun query _ => faithful query
  simp [decode, encode, Value.asRecord, ok_bind, filters, facets, drilldowns, optional]

theorem Unite.decode_encode (faithful : Faithful write read) (unite : Unite Q) :
    decode read (unite.encode write) = .ok unite := by
  simp [decode, encode, Value.asRecord, ok_bind, faithful.read_write]

namespace ComposedQuery

variable {query : ComposedQuery Q}

/-- The numbers of the query fit the format, and its matches are in the order they are kept in. -/
structure Storable (query : ComposedQuery Q) : Prop where
  bundles : ∀ bundle ∈ query.bundles, bundle.Fits
  options : query.options.Fits
  ordered : query.matchings.Ordered

theorem decode_encode (faithful : Faithful write read) (storable : query.Storable) :
    decode read (query.encode write) =
      .ok { query with matchings := query.matchings.restored } := by
  have bundles : Value.asList (Bundle.decode read) (.list (query.bundles.map (·.encode write))) =
      .ok query.bundles :=
    Value.asList_map fun bundle member =>
      Bundle.decode_encode faithful (storable.bundles bundle member)
  have unites : Value.asList (Unite.decode read) (.list (query.unites.map (·.encode write))) =
      .ok query.unites :=
    Value.asList_map fun unite _ => unite.decode_encode faithful
  have options := QueryOptions.decode_encode storable.options
  simp [decode, decodeFields, encode, ok_bind, bundles, unites, options,
    Matchings.decode_encode, Functor.map, Except.map]
  rfl

/-! What operations and reading keep -/

theorem forall_mem_changeBundle {holds : Bundle Q → Prop} {core : String}
    {change : Bundle Q → Bundle Q} {bundles : List (Bundle Q)}
    (new : holds (change { core })) (keeps : ∀ bundle, holds bundle → holds (change bundle))
    (each : ∀ bundle ∈ bundles, holds bundle) :
    ∀ bundle ∈ changeBundle core change bundles, holds bundle := by
  induction bundles with
  | nil =>
      intro bundle member
      rw [changeBundle, List.mem_singleton] at member
      rwa [member]
  | cons head rest ih =>
      obtain ⟨ofHead, ofRest⟩ := List.forall_mem_cons.mp each
      rw [changeBundle]
      by_cases same : head.core = core
      · rw [if_pos same]
        exact List.forall_mem_cons.mpr ⟨keeps head ofHead, ofRest⟩
      · rw [if_neg same]
        exact List.forall_mem_cons.mpr ⟨ofHead, ih ofRest⟩

end ComposedQuery

def Edit.Fits : Edit Q → Prop
  | .add _ _ facets _ => ∀ facet ∈ facets, facet.Fits
  | .addFacet _ facet => facet.Fits
  | .setStart start => start < UInt64.size
  | .setStop stop => stop < UInt64.size
  | .setSuggestions request => request.Fits
  | _ => True

namespace ComposedQuery

variable {query changed : ComposedQuery Q}

theorem ordered_of_step {outline changed : Outline} (ordered : outline.matchings.Ordered)
    (step : Outline.Step outline changed) : changed.matchings.Ordered := by
  cases step with
  | @declare first second ascend =>
      refine ordered.declare ?_
      rw [ascend]
      simp
  | _ => exact ordered

theorem bundlesFit_register (core : String) (fit : ∀ bundle ∈ query.bundles, bundle.Fits) :
    ∀ bundle ∈ (query.register core).bundles, bundle.Fits :=
  forall_mem_changeBundle (by simp [Bundle.Fits]) (fun _ fits => fits) fit

theorem bundlesFit_applyOrKeep (fit : ∀ bundle ∈ query.bundles, bundle.Fits) {edit : Edit Q}
    (fits : edit.Fits) : ∀ bundle ∈ (edit.applyOrKeep query).bundles, bundle.Fits := by
  unfold Edit.applyOrKeep
  cases edit with
  | setResultsCore core => exact bundlesFit_register core fit
  | add core main added filters => exact forall_mem_changeBundle fits (fun _ _ => fits) fit
  | setCoreQuery | addFilter | addDrilldown | setRankQuery =>
      exact forall_mem_changeBundle (by simp [Bundle.Fits]) (fun _ fits => fits) fit
  | addFacet core facet =>
      have facetFits : facet.Fits := fits
      refine forall_mem_changeBundle ?_ ?_ fit
      · simpa [Bundle.Fits] using facetFits
      · intro bundle bundleFits
        exact List.forall_mem_append.mpr ⟨bundleFits, by simpa using facetFits⟩
  | addMatch sides =>
      cases done : (Edit.addMatch sides).apply query with
      | error error => exact fit
      | ok changed =>
          obtain ⟨first, second, -, rfl⟩ := addMatch_ok done
          exact fit
  | unite queries =>
      cases done : (Edit.unite queries).apply query with
      | error error => exact fit
      | ok changed =>
          obtain ⟨first, second, keys, -, -, rfl⟩ := unite_ok done
          exact bundlesFit_register second.1 (bundlesFit_register first.1 fit)
  | addSortKey | setStart | setStop | setSuggestions | setDedup | setGroupingField
    | setClustering => exact fit

theorem optionsFit_applyOrKeep (fit : query.options.Fits) {edit : Edit Q} (fits : edit.Fits) :
    (edit.applyOrKeep query).options.Fits := by
  obtain ⟨start, stop, suggestions⟩ := fit
  unfold Edit.applyOrKeep
  cases edit with
  | setStart value =>
      refine ⟨?_, stop, suggestions⟩
      intro _ isValue
      exact Option.some.inj isValue ▸ fits
  | setStop value =>
      refine ⟨start, ?_, suggestions⟩
      intro _ isValue
      exact Option.some.inj isValue ▸ fits
  | setSuggestions request =>
      refine ⟨start, stop, ?_⟩
      intro _ isRequest
      exact Option.some.inj isRequest ▸ fits
  | addMatch sides =>
      cases done : (Edit.addMatch sides).apply query with
      | error error => exact ⟨start, stop, suggestions⟩
      | ok changed =>
          obtain ⟨first, second, -, rfl⟩ := addMatch_ok done
          exact ⟨start, stop, suggestions⟩
  | unite queries =>
      cases done : (Edit.unite queries).apply query with
      | error error => exact ⟨start, stop, suggestions⟩
      | ok changed =>
          obtain ⟨first, second, keys, -, -, rfl⟩ := unite_ok done
          exact ⟨start, stop, suggestions⟩
  | _ => exact ⟨start, stop, suggestions⟩

theorem Storable.applyOrKeep (storable : query.Storable) {edit : Edit Q} (fits : edit.Fits) :
    (edit.applyOrKeep query).Storable :=
  ⟨bundlesFit_applyOrKeep storable.bundles fits, optionsFit_applyOrKeep storable.options fits,
    ordered_of_step storable.ordered (step_applyOrKeep query edit)⟩

theorem storable_empty : ({} : ComposedQuery Q).Storable :=
  ⟨by simp, QueryOptions.fits_default, Matchings.ordered_empty⟩

theorem Storable.convert (storable : query.Storable) (convert : Q → R) :
    (query.convert convert).Storable := by
  refine ⟨?_, storable.options, storable.ordered⟩
  intro bundle member
  obtain ⟨before, inQuery, rfl⟩ := List.mem_map.mp member
  exact storable.bundles before inQuery

theorem Storable.tryConvert {ε : Type} (storable : query.Storable) {convert : Q → Except ε R}
    {converted : ComposedQuery R} (done : query.tryConvert convert = .ok converted) :
    converted.Storable := by
  obtain ⟨bundles, bundled, united⟩ := bind_ok_iff.mp done
  obtain ⟨unites, -, same⟩ := bind_ok_iff.mp united
  obtain rfl := Except.ok.inj same
  refine ⟨?_, storable.options, storable.ordered⟩
  intro bundle member
  obtain ⟨before, paired, ofBundle⟩ := exists_mem_zip (mapM_ok_iff.mp bundled) member
  simp only [Bundle.tryConvert, bind_ok_iff] at ofBundle
  obtain ⟨_, -, _, -, _, -, same⟩ := ofBundle
  obtain rfl := Except.ok.inj same
  exact storable.bundles before (List.of_mem_zip paired).1

theorem decode_yields (read : Decoder Q) : (decode read).Yields Storable := by
  intro value query found
  have bundlesFit := (Bundle.decode_yields read).list
  cases value with
  | list values =>
      simp only [decode, decodeList, bind_ok_iff] at found
      obtain ⟨_, -, bundles, areBundles, matchings, areMatchings, _, -, options, areOptions,
        same⟩ := found
      have fit := QueryOptions.decode_yields.orElse QueryOptions.fits_default areOptions
      split at same
      · obtain rfl := Except.ok.inj same
        exact ⟨bundlesFit.required areBundles, fit, Matchings.decode_yields.required areMatchings⟩
      · cases same
  | object fields =>
      simp only [decode, decodeFields, bind_ok_iff] at found
      obtain ⟨bundles, areBundles, matchings, areMatchings, options, areOptions, _, -, _, -,
        same⟩ := found
      have fit := QueryOptions.decode_yields.orElse QueryOptions.fits_default areOptions
      split at same
      · obtain rfl := Except.ok.inj same
        have bundled := bundlesFit.mapSome.orElse (by simp) areBundles
        have matched := Matchings.decode_yields.mapSome.orElse (by simp) areMatchings
        exact ⟨bundled _ rfl, fit, matched _ rfl⟩
      · cases same
  | _ => cases found

inductive Obtained : {Q : Type} → ComposedQuery Q → Prop
  | empty {Q : Type} : Obtained ({} : ComposedQuery Q)
  | decode {Q : Type} {query : ComposedQuery Q} {read : Decoder Q} {value : Value}
      (done : ComposedQuery.decode read value = .ok query) : Obtained query
  | edit {Q : Type} {query : ComposedQuery Q} (before : Obtained query) (edit : Edit Q)
      (fits : edit.Fits) : Obtained (edit.applyOrKeep query)
  | convert {Q R : Type} {query : ComposedQuery Q} (before : Obtained query) (convert : Q → R) :
      Obtained (query.convert convert)
  | tryConvert {Q R ε : Type} {query : ComposedQuery Q} {converted : ComposedQuery R}
      (before : Obtained query) (convert : Q → Except ε R)
      (done : query.tryConvert convert = .ok converted) : Obtained converted

theorem Obtained.storable (obtained : query.Obtained) : query.Storable := by
  induction obtained with
  | empty => exact storable_empty
  | decode done => exact decode_yields _ _ _ done
  | edit before edit fits ih => exact ih.applyOrKeep fits
  | convert before convert ih => exact ih.convert convert
  | tryConvert before convert done ih => exact ih.tryConvert done

theorem Obtained.edited (obtained : query.Obtained) {edits : List (Edit Q)}
    (fit : ∀ edit ∈ edits, edit.Fits) : (query.edited edits).Obtained := by
  unfold ComposedQuery.edited
  induction edits generalizing query with
  | nil => exact obtained
  | cons edit rest ih =>
      obtain ⟨fits, restFit⟩ := List.forall_mem_cons.mp fit
      exact ih (obtained.edit edit fits) restFit

/-- A stored query can be read. The key fields of all cores are then those they were exactly when no
match has a first core whose name holds the separator, and in that case no two matches are stored
under one name. -/
theorem keyNames?_restored_iff (faithful : Faithful write read) (obtained : query.Obtained) :
    ∃ restored, decode read (query.encode write) = .ok restored ∧
      ((∀ first second, restored.keyNames? first second = query.keyNames? first second) ↔
        ∀ pair ∈ SortedMap.keys query.matchings, pair.Separated) ∧
      ((∀ pair ∈ SortedMap.keys query.matchings, pair.Separated) →
        ((SortedMap.keys query.matchings).map CorePair.matchName).Nodup) := by
  have storable := obtained.storable
  refine ⟨_, decode_encode faithful storable, ⟨?lost, ?kept⟩, Matchings.nodup_matchNames⟩
  case lost =>
      intro same
      refine Matchings.separated_of_restored storable.ordered fun pair member => ?_
      obtain ⟨keys, found⟩ := SortedMap.mem_keys_iff.mp member
      have looked : query.keyNames? pair.first pair.second = some keys := by
        unfold ComposedQuery.keyNames? Matchings.keyNames?
        rw [found]
      have restored := same pair.first pair.second
      rw [looked] at restored
      exact Option.isSome_iff_exists.mpr ⟨keys, restored⟩
  case kept =>
      intro separated first second
      unfold ComposedQuery.keyNames?
      rw [Matchings.restored_of_separated storable.ordered separated]

def dashedMatches : ComposedQuery String :=
  ({} : ComposedQuery String).edited
    [.addMatch [("c->d", "j"), ("b", "k")], .addMatch [("e-", "l"), (">f", "m")]]

theorem dashedMatches_restored : dashedMatches.Obtained ∧
    (∀ pair ∈ SortedMap.keys dashedMatches.matchings, pair.Separated) ∧
    dashedMatches.keyNames? "c->d" "b" = some ("j", "k") ∧
    ∃ restored, decode Value.asText (dashedMatches.encode .text) = .ok restored ∧
      (∀ first second, restored.keyNames? first second = dashedMatches.keyNames? first second) ∧
      ((SortedMap.keys dashedMatches.matchings).map CorePair.matchName).Nodup := by
  have obtained : dashedMatches.Obtained := Obtained.empty.edited (by simp [Edit.Fits])
  have separated : ∀ pair ∈ SortedMap.keys dashedMatches.matchings, pair.Separated := by
    decide
  obtain ⟨restored, isRead, same, distinct⟩ := keyNames?_restored_iff faithful_text obtained
  exact ⟨obtained, separated, rfl, restored, isRead, same.mpr separated, distinct separated⟩

/-- Two matches are stored under one name: one is gone, and the other has its keys. -/
theorem collidingMatches_lost : ∃ query : ComposedQuery String, query.Obtained ∧
    query.keyNames? "a->b" "c" = some ("k", "j") ∧ query.keyNames? "a" "b->c" = some ("l", "m") ∧
    ¬ ((SortedMap.keys query.matchings).map CorePair.matchName).Nodup ∧
    ∃ restored, decode Value.asText (query.encode .text) = .ok restored ∧
      restored.keyNames? "a->b" "c" = none ∧ restored.keyNames? "a" "b->c" = some ("k", "j") := by
  refine ⟨({} : ComposedQuery String).edited
    [.addMatch [("a->b", "k"), ("c", "j")], .addMatch [("a", "l"), ("b->c", "m")]],
    Obtained.empty.edited (by simp [Edit.Fits]), rfl, rfl, ?_, _, rfl, rfl, rfl⟩
  decide

def PlainMatches (query : ComposedQuery Q) : Prop :=
  ∀ core ∈ query.matchingCores.toList, ¬ matchSeparator.toList <:+: core.toList

theorem restored_of_plainMatches (storable : query.Storable) (plain : query.PlainMatches) :
    query.matchings.restored = query.matchings := by
  refine Matchings.restored_of_separated storable.ordered fun pair member => ?_
  exact plain pair.first (mem_matchingCores.mpr ⟨pair, member, Or.inl rfl⟩)

/-- A query is read as what was stored, all of it, so storing again what was read changes
nothing. -/
theorem decode_encode_of_plainMatches :
    (∀ query : ComposedQuery Expression, query.Obtained → query.PlainMatches →
      decode Expression.decode (query.encode Expression.encode) = .ok query) ∧
    ∀ (value : Value) (query : ComposedQuery Expression),
      decode Expression.decode value = .ok query → query.PlainMatches →
        decode Expression.decode (query.encode Expression.encode) = .ok query := by
  have stored : ∀ query : ComposedQuery Expression, query.Obtained → query.PlainMatches →
      decode Expression.decode (query.encode Expression.encode) = .ok query := by
    intro query obtained plain
    have isRead := decode_encode faithful_expression obtained.storable
    rwa [restored_of_plainMatches obtained.storable plain] at isRead
  exact ⟨stored, fun value query isRead => stored query (.decode isRead)⟩

def storedBooks : ComposedQuery Expression :=
  ({} : ComposedQuery Expression).edited
    [.setResultsCore "books",
      .addMatch [("books", "author"), ("authors", "id")],
      .add "authors" none [⟨"country", ["Europe"], 0, some .count⟩, ⟨"born", [], 10, none⟩]
        [.not (.any [.ofTerm "Dante", .all []])],
      .setCoreQuery "books" (.all [.ofTerm "*", .clause ⟨none, some ">", "5"⟩]),
      .addDrilldown "books" ⟨"genre", ["Poetry", "Epic"]⟩,
      .setRankQuery "books" (.ofField "title" "divine"),
      .unite [("books", .ofTerm "comedy"), ("authors", .matchAll)],
      .addSortKey ⟨"books", "year", true⟩, .setStart 18446744073709551615,
      .setSuggestions ⟨3, "title", ["divne"]⟩, .setDedup "isbn" none, .setClustering true]

def sparseBooks : Value :=
  .object [("coreQueries", .list [.object [("core", .text "books")]]),
    ("matches", .object [("books->authors", .list [.text "author", .text "id"])]),
    ("unites", .list [])]

theorem storedBooks_decoded : storedBooks.Obtained ∧ storedBooks.PlainMatches ∧
    storedBooks.unites.length = 2 ∧ storedBooks.queryFor "authors" = none ∧
    decode Expression.decode (storedBooks.encode Expression.encode) = .ok storedBooks ∧
    ∃ query, decode Expression.decode sparseBooks = .ok query ∧ query.PlainMatches ∧
      SortedMap.keys query.matchings = [⟨"authors", "books"⟩] ∧
      decode Expression.decode (query.encode Expression.encode) = .ok query := by
  have obtained : storedBooks.Obtained := by
    refine Obtained.empty.edited ?_
    simp [Edit.Fits, FacetRequest.Fits, SuggestionRequest.Fits, UInt64.size]
  have plain : storedBooks.PlainMatches := by
    unfold PlainMatches
    decide
  obtain ⟨query, isRead, matched⟩ : ∃ query, decode Expression.decode sparseBooks = .ok query ∧
      query.matchings = SortedMap.ofList [(⟨"authors", "books"⟩, ("id", "author"))] :=
    ⟨_, rfl, rfl⟩
  have plainMatch : query.PlainMatches := by
    unfold PlainMatches matchingCores
    rw [matched]
    decide
  exact ⟨obtained, plain, rfl, rfl, decode_encode_of_plainMatches.1 storedBooks obtained plain,
    query, isRead, plainMatch, by rw [matched]; rfl,
    decode_encode_of_plainMatches.2 sparseBooks query isRead plainMatch⟩

end ComposedQuery

end FederatedSearch
