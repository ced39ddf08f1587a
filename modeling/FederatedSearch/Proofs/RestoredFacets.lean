import FederatedSearch.Federation.Backend
import FederatedSearch.Proofs.AnsweredSearches
import FederatedSearch.Proofs.ComposedRequests
import FederatedSearch.Proofs.MergedResponses
import FederatedSearch.Translation.Restoration

/-! The facets of a response to a request. Cores count them core by core and under names of their
own; the caller asked for them in one list and under other names. That list is restored, unless two
of its names stand for one field of one core. -/

namespace FederatedSearch

def FacetField.place (facet : FacetField) : String × List String :=
  pieces '>' facet.name

def FacetBlock.place (block : FacetBlock) : String × List String :=
  (block.field, block.path)

namespace SearchRequest

def facetPlaces (request : SearchRequest) : List (String × List String) :=
  request.facets.map FacetField.place

def facetNames (request : SearchRequest) : List String :=
  request.facetPlaces.map (·.1)

end SearchRequest

/-! The order that is restored -/

/-- Elements in the order of their places in a list of the same elements are that list. -/
theorem eq_of_pairwise_idxOf {α : Type} [BEq α] [LawfulBEq α] {elements order : List α}
    (distinct : order.Nodup) (perm : elements.Perm order)
    (ordered : elements.Pairwise fun first second => order.idxOf first ≤ order.idxOf second) :
    elements = order := by
  have inOrder : order.Pairwise fun first second => order.idxOf first ≤ order.idxOf second := by
    rw [List.pairwise_iff_getElem]
    intro i j iBound jBound below
    rw [distinct.idxOf_getElem, distinct.idxOf_getElem]
    exact Nat.le_of_lt below
  refine List.Perm.eq_of_pairwise ?_ ordered inOrder perm
  intro first second _ inSecond below above
  exact ((List.idxOf_inj inSecond).mp (Nat.le_antisymm above below)).symm

namespace TranslatedRequest

variable (translated : TranslatedRequest)

def callerName (target : CorePair) : String :=
  translated.callerNames.getD target target.second

def callerPlace (core : String) (facet : FacetRequest) : String × List String :=
  (translated.callerName ⟨core, facet.field⟩, facet.path)

def restoredPlaces (blocks : List FacetBlock) : List (String × List String) :=
  (translated.restoreBlocks blocks).map FacetBlock.place

theorem restoredPlaces_perm (blocks : List FacetBlock) :
    (translated.restoredPlaces blocks).Perm
      (blocks.map fun block => (translated.renamed block).place) := by
  have sorted : (translated.restoreBlocks blocks).Perm (blocks.map translated.renamed) :=
    stableSort_perm _ _
  have perm := sorted.map FacetBlock.place
  rwa [List.map_map] at perm

theorem pairwise_restoredPlaces (blocks : List FacetBlock) :
    (translated.restoredPlaces blocks).Pairwise fun first second =>
      translated.facetOrder.idxOf first ≤ translated.facetOrder.idxOf second :=
  List.pairwise_map.mpr
    (pairwise_stableSort_rank translated.position (blocks.map translated.renamed))

theorem restoredPlaces_eq_iff {blocks : List FacetBlock} (distinct : translated.facetOrder.Nodup) :
    translated.restoredPlaces blocks = translated.facetOrder ↔
      (blocks.map fun block => (translated.renamed block).place).Perm translated.facetOrder := by
  have perm := translated.restoredPlaces_perm blocks
  constructor
  · intro same
    rw [same] at perm
    exact perm.symm
  · intro others
    exact eq_of_pairwise_idxOf distinct (perm.trans others)
      (translated.pairwise_restoredPlaces blocks)

end TranslatedRequest

/-! The blocks that stores give -/

def AnsweredByStores (calls : List (Call Expression × Outcome)) : Prop :=
  ∀ exchange ∈ calls, ∃ store : Store, exchange.2 = store.search exchange.1.search

theorem SameHistories.answeredByStores {calls turned : List (Call Expression × Outcome)}
    (same : SameHistories calls turned) (stored : AnsweredByStores calls) :
    AnsweredByStores turned :=
  fun exchange member => stored exchange (same.subset member)

section Blocks

variable {store : Store} {search : CoreSearch Expression} {answer : CoreResponse}

theorem Store.exists_respond (answered : .answered answer = store.search search) :
    ∃ found ordered, answer = store.respond search found ordered := by
  obtain ⟨found, ordered, -, -, isAnswer⟩ := search_answered_iff.mp answered.symm
  exact ⟨found, ordered, isAnswer⟩

theorem places_blocksOn (answered : .answered answer = store.search search)
    (translated : TranslatedRequest) (core : String) :
    (answer.blocksOn core).map (fun block => (translated.renamed block).place) =
      search.facets.map (translated.callerPlace core) := by
  obtain ⟨found, ordered, rfl⟩ := Store.exists_respond answered
  have blocks : (store.respond search found ordered).blocksOn core =
      search.facets.map fun facet => (facet.count (found.map (·.document))).tagged core := by
    unfold CoreResponse.blocksOn Store.respond
    cases search.facets <;> simp
  rw [blocks, List.map_map]
  rfl

end Blocks

namespace JoinRun.Gives

variable {run : JoinRun Expression} {query : ComposedQuery Expression} {results : String}
  {calls : List (Call Expression × Outcome)} {response : SearchResponse}
  (gives : run.Gives query results calls response)

include gives

theorem places (stored : AnsweredByStores calls) (translated : TranslatedRequest) :
    (response.facets.getD []).map (fun block => (translated.renamed block).place) =
      (results :: run.counts.map (·.core)).flatMap fun core =>
        (query.facetsFor core).map (translated.callerPlace core) := by
  obtain ⟨collectKeys, split⟩ := gives.calls
  rw [split, AnsweredByStores, List.forall_mem_append, List.forall_mem_cons, List.forall_mem_map,
    List.forall_mem_map] at stored
  obtain ⟨-, ⟨store, answered⟩, counted⟩ := stored
  rw [gives.merges.blocks, List.map_append, List.flatMap_cons, List.map_flatMap, List.flatMap_map]
  refine congrArg₂ (· ++ ·) (places_blocksOn answered translated results) ?_
  refine List.flatMap_congr fun count member => ?_
  obtain ⟨store, answeredCount⟩ := counted count member
  exact places_blocksOn answeredCount translated count.core

theorem nodup_cores (built : query.Built) : (results :: run.counts.map (·.core)).Nodup := by
  have distinct := ComposedQuery.nodup_cores built.wellFormed.distinct gives.isSet
  refine List.nodup_cons.mpr ⟨?_, gives.nodup_counted distinct⟩
  intro member
  exact ((gives.mem_counted_iff results).mp member).1 rfl

theorem mem_cores {core : String} (asked : query.facetsFor core ≠ []) :
    core ∈ results :: run.counts.map (·.core) := by
  by_cases same : core = results
  · exact List.mem_cons.mpr (Or.inl same)
  · exact List.mem_cons_of_mem results ((gives.mem_counted_iff core).mpr ⟨same, asked⟩)

end JoinRun.Gives

namespace Translator

variable {translator : Translator} {request : SearchRequest} {translated : TranslatedRequest}
  {query : Expression} {read : ReadRequest}

def target (translator : Translator) (name : String) : CorePair :=
  ⟨(translator.resolve name).1, translator.localName (translator.resolve name).2⟩

theorem routeFacet_ok {facet : FacetField} {routed : RoutedFacet}
    (done : translator.routeFacet facet = .ok routed) :
    (routed.name, routed.request.path) = facet.place ∧
      ⟨routed.core, routed.request.field⟩ = translator.target routed.name := by
  unfold routeFacet at done
  obtain ⟨sort, -, same⟩ := bind_ok_iff.mp done
  obtain rfl := Except.ok.inj same
  exact ⟨rfl, rfl⟩

theorem Reads.target_eq (reads : translator.Reads request query read) :
    ∀ routed ∈ read.facets,
      ⟨routed.core, routed.request.field⟩ = translator.target routed.name := by
  intro routed member
  obtain ⟨facet, -, done⟩ := exists_mem_zip (mapM_ok_iff.mp reads.facets) member
  exact (routeFacet_ok done).2

theorem Reads.facetPlaces (reads : translator.Reads request query read) :
    (read.facets.map fun routed => (routed.name, routed.request.path)) = request.facetPlaces :=
  map_eq_of_mapM_ok _ _ (fun _ _ done => (routeFacet_ok done).1) reads.facets

namespace Composes

variable (composes : translator.Composes request query read translated)

include composes

theorem facetOrder_eq : translated.facetOrder = request.facetPlaces :=
  composes.facetOrder.trans composes.reads.facetPlaces

theorem callerNames_eq : translated.callerNames =
    SortedMap.ofList (request.facetNames.map fun name => (translator.target name, name)) := by
  rw [composes.callerNames, SearchRequest.facetNames, ← composes.reads.facetPlaces, List.map_map,
    List.map_map]
  congr 1
  refine List.map_congr_left fun routed member => ?_
  rw [composes.reads.target_eq routed member]
  rfl

/-- A field is given back under some name that was asked for and stands for it. -/
theorem callerName_mem {name : String} (member : name ∈ request.facetNames) :
    translated.callerName (translator.target name) ∈ request.facetNames ∧
      translator.target (translated.callerName (translator.target name)) =
        translator.target name := by
  obtain ⟨last, found⟩ := SortedMap.exists_get?_ofList
    (List.mem_map_of_mem (f := fun name => (translator.target name, name)) member)
  obtain ⟨other, inNames, same⟩ := List.mem_map.mp (SortedMap.mem_of_get?_ofList found)
  obtain ⟨sameTarget, rfl⟩ := Prod.mk.inj same
  have isName : translated.callerName (translator.target name) = other := by
    rw [TranslatedRequest.callerName, composes.callerNames_eq, SortedMap.getD, found]
    rfl
  rw [isName]
  exact ⟨inNames, sameTarget⟩

/-- The facets of all cores, each at its place for the caller, are those of the request. -/
theorem callerPlaces_perm {cores : List String} (distinct : cores.Nodup)
    (covered : ∀ core, translated.query.facetsFor core ≠ [] → core ∈ cores) :
    (cores.flatMap fun core =>
        (translated.query.facetsFor core).map (translated.callerPlace core)).Perm
      (request.facetPlaces.map fun place =>
        (translated.callerName (translator.target place.1), place.2)) := by
  have facetsFor (core : String) : translated.query.facetsFor core =
      (read.facets.filter (·.core = core)).map (·.request) := by
    rw [composes.facetsFor]
    exact filterMap_valueFor RoutedFacet.core RoutedFacet.request core composes.reads.facets
  have inCores : ∀ routed ∈ read.facets, routed.core ∈ cores := by
    intro routed member
    refine covered routed.core (List.ne_nil_of_mem (a := routed.request) ?_)
    rw [facetsFor]
    exact List.mem_map_of_mem (List.mem_filter.mpr ⟨member, by simp⟩)
  have ofCore (core : String) :
      (translated.query.facetsFor core).map (translated.callerPlace core) =
        (read.facets.filter (·.core = core)).map fun routed =>
          translated.callerPlace routed.core routed.request := by
    rw [facetsFor, List.map_map]
    refine List.map_congr_left fun routed member => ?_
    have isCore : routed.core = core := by simpa using (List.mem_filter.mp member).2
    rw [isCore]
    rfl
  have atPlaces : (request.facetPlaces.map fun place =>
        (translated.callerName (translator.target place.1), place.2)) =
      read.facets.map fun routed => translated.callerPlace routed.core routed.request := by
    rw [← composes.reads.facetPlaces, List.map_map]
    refine List.map_congr_left fun routed member => ?_
    rw [TranslatedRequest.callerPlace, composes.reads.target_eq routed member]
    rfl
  simp only [ofCore]
  rw [← List.map_flatMap, atPlaces]
  exact (flatMap_filter_perm distinct inCores).map _

/-- The places are the requested ones exactly if no two names stand for the same. -/
theorem callerPlaces_perm_iff :
    (request.facetPlaces.map fun place =>
        (translated.callerName (translator.target place.1), place.2)).Perm request.facetPlaces ↔
      ∀ name ∈ request.facetNames, ∀ other ∈ request.facetNames,
        translator.target name = translator.target other → name = other := by
  constructor
  · intro perm
    have kept : ∀ name ∈ request.facetNames,
        translated.callerName (translator.target name) = name := by
      intro name member
      obtain ⟨place, inPlaces, rfl⟩ := List.mem_map.mp member
      obtain ⟨given, inGiven, isPlace⟩ := List.mem_map.mp (perm.mem_iff.mpr inPlaces)
      obtain ⟨isName, -⟩ := Prod.mk.inj isPlace
      obtain ⟨-, sameTarget⟩ := composes.callerName_mem (List.mem_map_of_mem inGiven)
      rw [isName] at sameTarget
      rw [sameTarget, isName]
    intro name member other otherMember same
    rw [← kept name member, same, kept other otherMember]
  · intro apart
    have kept : ∀ place ∈ request.facetPlaces,
        (translated.callerName (translator.target place.1), place.2) = place := by
      intro place inPlaces
      have member : place.1 ∈ request.facetNames := List.mem_map_of_mem inPlaces
      obtain ⟨given, sameTarget⟩ := composes.callerName_mem member
      exact Prod.ext (apart _ given _ member sameTarget) rfl
    rw [List.map_congr_left kept, List.map_id']

end Composes

/-! Executing -/

section Executing

variable {m : Type → Type} [Monad m]

def executeBy (conduct : Conduct Expression m) (translator : Translator) (federator : Federator)
    (request : SearchRequest) : m SearchResponse := do
  let translated ← conduct.attempt (Attempt.settled (translator.compose request))
  let response ← Federator.executeBy conduct federator translated.query
  return translated.restore response

variable {federator : Federator} {calls : List (Call Expression × Outcome)}
  {response : SearchResponse} {result : Except Failure SearchResponse}

theorem executeBy_inTurn (federator : Federator) (request : SearchRequest) :
    (executeBy .inTurn translator federator request).run =
      translator.execute federator request := by
  unfold executeBy execute
  rw [ExceptT.run_bind]
  cases composed : translator.compose request with
  | error failure => rfl
  | ok translated =>
      change (Federator.executeBy .inTurn federator translated.query >>= _).run = _
      rw [ExceptT.run_bind, Federator.executeBy_inTurn]
      refine congrArg _ (funext fun response => ?_)
      cases response <;> rfl

theorem executeBy_atOnce
    (trace : Session.Trace (translator.execute federator request) calls result) :
    executeBy .atOnce translator federator request calls result := by
  rw [← executeBy_inTurn] at trace
  refine Attempt.trace_bind_imp (fun _ _ => id) (fun translated _ _ trace => ?_) trace
  refine Attempt.trace_bind_imp (fun _ _ trace => ?_) (fun response _ _ trace => ?_) trace
  · refine Federator.executeBy_atOnce ?_
    rwa [← Federator.executeBy_inTurn]
  · exact Attempt.trace_pure.mp trace

theorem exists_composes_of_executeBy
    (behaves : executeBy .atOnce translator federator request calls (.ok response)) :
    ∃ translated answer query read, translator.Composes request query read translated ∧
      Federator.executeBy .atOnce federator translated.query calls (.ok answer) ∧
      response = translated.restore answer := by
  obtain ⟨_, _, impossible⟩ | ⟨_, translated, later, rfl, settled, rest⟩ := behaves
  · cases impossible
  obtain ⟨rfl, composed⟩ := Attempt.trace_settled.mp settled
  obtain ⟨query, read, composes⟩ := exists_composes composed.symm
  obtain ⟨_, _, impossible⟩ | ⟨before, answer, _, rfl, executed, rfl, restored⟩ := rest
  · cases impossible
  refine ⟨translated, answer, query, read, composes, ?_, Except.ok.inj restored⟩
  simpa using executed

/-- However the searches of a phase overlap, stores give back the facets of a request under the
names and in the order in which they were asked for, exactly when no two of the names stand for one
field of one core. -/
theorem facets_restored_iff (asked : request.facets ≠ []) (distinct : request.facetPlaces.Nodup)
    (stored : AnsweredByStores calls)
    (behaves : executeBy .atOnce translator federator request calls (.ok response)) :
    response.facets.map (·.map FacetBlock.place) = some request.facetPlaces ↔
      ∀ name ∈ request.facetNames, ∀ other ∈ request.facetNames,
        translator.target name = translator.target other → name = other := by
  obtain ⟨translated, answer, query, read, composes, executed, rfl⟩ :=
    exists_composes_of_executeBy behaves
  obtain ⟨turned, trace, same⟩ := Federator.exists_inTurn composes.built executed
  obtain ⟨results, run, gives⟩ := Federator.execute_gives composes.built trace
  have settled : federator.withDefaultCore translated.query = translated.query := by
    rw [Federator.withDefaultCore, composes.isSet]
  rw [settled] at gives
  have places := composes.callerPlaces_perm (gives.nodup_cores composes.built)
    fun core asked => gives.mem_cores asked
  rw [← gives.places (same.answeredByStores stored) translated] at places
  cases found : answer.facets with
  | none =>
      rw [found] at places
      have none : request.facetPlaces = [] := List.map_eq_nil_iff.mp places.nil_eq.symm
      exact absurd (List.map_eq_nil_iff.mp none) asked
  | some blocks =>
      rw [found] at places
      have restored : (translated.restore answer).facets.map (·.map FacetBlock.place) =
          some (translated.restoredPlaces blocks) := by
        rw [TranslatedRequest.restore, found]
        rfl
      rw [← composes.facetOrder_eq] at distinct
      rw [restored, Option.some.injEq, ← composes.callerPlaces_perm_iff, ← composes.facetOrder_eq,
        translated.restoredPlaces_eq_iff distinct]
      rw [← composes.facetOrder_eq] at places
      exact ⟨places.symm.trans, places.trans⟩

end Executing

end Translator

def kindsTranslator : Translator where
  config := {
    resultsCore := "books"
    matchings := [[⟨"books", "author"⟩, ⟨"authors", "id"⟩]] }
  grouping := false
  clustering := true
  localName := fun name => if name = "kind" then "genre" else name

def kindsFederator : Federator where
  config := {}
  cores := SortedSet.ofList ["books", "authors"]

def kindsStore : String → Store
  | "books" => {
      name := "books"
      documents := [
        (Document.addValue { id := "1" } "author" "x").addPath "genre" ["crime", "noir"]] }
  | core => {
      name := core
      documents := [
        (Document.addValue { id := "2" } "id" "x").addPath "genre" ["novel"]] }

def kindsAnswer (call : Call Expression) : Outcome :=
  (kindsStore call.core).search call.search

theorem answeredByStores_kinds (calls : List (Call Expression)) :
    AnsweredByStores (calls.map fun call => (call, kindsAnswer call)) := by
  intro exchange member
  obtain ⟨call, -, rfl⟩ := List.mem_map.mp member
  exact ⟨kindsStore call.core, rfl⟩

def bothKinds : SearchRequest where
  facets := [⟨"authors.kind", 0, none⟩, ⟨"kind>crime", 0, none⟩, ⟨"kind", 10, some "count"⟩]

theorem bothKinds_restored : ∃ calls response,
    kindsTranslator.executeBy .atOnce kindsFederator bothKinds calls (.ok response) ∧
      bothKinds.facets ≠ [] ∧ bothKinds.facetPlaces.Nodup ∧ AnsweredByStores calls ∧
      response.facets.map (·.map FacetBlock.place) =
        some [("authors.kind", []), ("kind", ["crime"]), ("kind", [])] := by
  have trace := Session.trace_run kindsAnswer
    (kindsTranslator.execute kindsFederator bothKinds)
  have stored := answeredByStores_kinds
    (((kindsTranslator.execute kindsFederator bothKinds).run kindsAnswer).1)
  obtain ⟨response, done⟩ : ∃ response,
      ((kindsTranslator.execute kindsFederator bothKinds).run kindsAnswer).2 = .ok response :=
    ⟨_, rfl⟩
  rw [done] at trace
  have behaves := Translator.executeBy_atOnce trace
  have asked : bothKinds.facets ≠ [] := by decide
  have distinct : bothKinds.facetPlaces.Nodup := by decide
  refine ⟨_, response, behaves, asked, distinct, stored, ?_⟩
  exact (Translator.facets_restored_iff asked distinct stored behaves).mpr (by decide)

/-- Two names of one field come back as one: the later name is given twice, the earlier is lost. -/
theorem kindAndGenre_merged : kindsTranslator.config.validate = .ok () ∧
    ∃ (request : SearchRequest) (calls : List (Call Expression × Outcome))
        (response : SearchResponse),
      request.facetPlaces = [("kind", []), ("genre", [])] ∧ AnsweredByStores calls ∧
      Session.Trace (kindsTranslator.execute kindsFederator request) calls (.ok response) ∧
      response.facets.map (·.map FacetBlock.place) = some [("genre", []), ("genre", [])] := by
  refine ⟨rfl, { facets := [⟨"kind", 10, none⟩, ⟨"genre", 10, none⟩] }, _, _, rfl,
    answeredByStores_kinds _, Session.trace_run kindsAnswer _, rfl⟩

end FederatedSearch
