import FederatedSearch.Proofs.KeyFilters
import FederatedSearch.Proofs.PlannedCores

/-! By which fields the cores of a plan are joined. Every other core goes by the field it is matched
with the results core by, while that core has one field for all of them: the field of the first
match that is looked up. -/

namespace FederatedSearch

variable {Q : Type} {query : ComposedQuery Q} {plan : JoinPlan} {core : String}

def ComposedQuery.keyName? (query : ComposedQuery Q) (core other : String) : Option String :=
  (query.keyNames? core other).map (·.1)

namespace JoinPlan

/-- Other cores go by the fields of their own matches. What the results core goes by is settled by
the first of them, unless it was before. -/
theorem get?_of_joinKeys {results : String} {before after : SortedMap String String}
    {others : List String} (found : joinKeys query results before others = .ok after)
    (apart : results ∉ others) :
    after.get? results =
        (before.get? results).or (others.head?.bind (query.keyName? results)) ∧
      (∀ core, core ≠ results → core ∉ others → after.get? core = before.get? core) ∧
      ∀ core ∈ others, after.get? core = (query.keyNames? results core).map (·.2) := by
  induction others generalizing before with
  | nil =>
      obtain rfl := Except.ok.inj found
      simp
  | cons head rest ih =>
      rw [List.mem_cons, not_or] at apart
      obtain ⟨notHead, notRest⟩ := apart
      unfold joinKeys at found
      split at found
      · cases found
      next resultsKey key keyNames =>
        obtain ⟨atResults, elsewhere, atOthers⟩ := ih found notRest
        have headApart : compare results head ≠ .eq := mt Std.LawfulEqCmp.eq_of_compare notHead
        have kept (core : String) (notResults : core ≠ results) (notHere : core ≠ head) :
            ((before.update results (·.getD resultsKey)).insert head key).get? core =
              before.get? core := by
          have coreApart : compare core results ≠ .eq := mt Std.LawfulEqCmp.eq_of_compare notResults
          have coreNotHead : compare core head ≠ .eq := mt Std.LawfulEqCmp.eq_of_compare notHere
          simp [SortedMap.update, SortedMap.get?_insert, coreApart, coreNotHead]
        refine ⟨?atResults, ?elsewhere, ?atOthers⟩
        case atResults =>
            have settled : ((before.update results (·.getD resultsKey)).insert head key).get?
                results = some ((before.get? results).getD resultsKey) := by
              simp [SortedMap.update, SortedMap.get?_insert, headApart]
            rw [atResults, settled]
            cases before.get? results <;> simp [ComposedQuery.keyName?, keyNames]
        case elsewhere =>
            intro core notResults notOther
            rw [List.mem_cons, not_or] at notOther
            rw [elsewhere core notResults notOther.2, kept core notResults notOther.1]
        case atOthers =>
            intro core member
            by_cases later : core ∈ rest
            · exact atOthers core later
            · obtain rfl := (List.mem_cons.mp member).resolve_right later
              rw [elsewhere core (Ne.symm notHead) later]
              simp [SortedMap.get?_insert, keyNames]

def Aligns (plan : JoinPlan) (query : ComposedQuery Q) (core : String) : Prop :=
  ∃ resultsKey key, plan.keyFor plan.resultsCore = .ok resultsKey ∧ plan.keyFor core = .ok key ∧
    query.keyNames? plan.resultsCore core = some (resultsKey, key)

theorem aligns_iff_of_keyFor {resultsKey key : String}
    (ofResults : plan.keyFor plan.resultsCore = .ok resultsKey) (ofCore : plan.keyFor core = .ok key) :
    plan.Aligns query core ↔ query.keyNames? plan.resultsCore core = some (resultsKey, key) := by
  constructor
  · rintro ⟨_, _, isResults, isCore, keyNames⟩
    obtain rfl := Except.ok.inj (ofResults.symm.trans isResults)
    obtain rfl := Except.ok.inj (ofCore.symm.trans isCore)
    exact keyNames
  · intro keyNames
    exact ⟨resultsKey, key, ofResults, ofCore, keyNames⟩

theorem aligns_iff_of_head (planned : ofQuery query = .ok plan) {first : String}
    {rest : List String} (others : query.cores.drop 1 = first :: rest)
    (other : core ∈ query.cores.drop 1) :
    plan.Aligns query core ↔
      query.keyName? plan.resultsCore first = query.keyName? plan.resultsCore core := by
  have matched (core : String) (other : core ∈ query.cores.drop 1) :
      ∃ resultsKey key, query.keyNames? plan.resultsCore core = some (resultsKey, key) := by
    obtain ⟨⟨resultsKey, key⟩, found⟩ := Option.isSome_iff_exists.mp (matched_of_other planned other)
    exact ⟨resultsKey, key, found⟩
  obtain ⟨firstKey, otherKey, ofFirst⟩ := matched first (others ▸ List.mem_cons_self)
  obtain ⟨coreKey, key, ofCore⟩ := matched core other
  obtain ⟨results, keys, isSet, keyed, rfl⟩ := ofQuery_ok planned
  have apart : results ∉ query.cores.drop 1 := by
    intro member
    exact ((ComposedQuery.mem_others isSet).mp member).2 rfl
  obtain ⟨atResults, -, atOthers⟩ := get?_of_joinKeys keyed apart
  rw [others, List.head?_cons] at atResults
  have resultsKeyed : SortedMap.get? keys results = some firstKey := by
    simpa [ComposedQuery.keyName?, ofFirst] using atResults
  have coreKeyed : SortedMap.get? keys core = some key := by
    simpa [ofCore] using atOthers core other
  rw [aligns_iff_of_keyFor (keyFor_ok.mpr resultsKeyed) (keyFor_ok.mpr coreKeyed)]
  simp only [ComposedQuery.keyName?, ofFirst, ofCore, Option.map_some, Option.some.injEq,
    Prod.mk.injEq, and_true]
  exact eq_comm

theorem other_of_joined (planned : ofQuery query = .ok plan)
    (joined : core ∈ plan.joinCores ∨ core ∈ plan.facetCores) : core ∈ query.cores.drop 1 := by
  obtain ⟨results, keys, -, -, rfl⟩ := ofQuery_ok planned
  rcases joined with member | member
  · exact (List.mem_filter.mp member).1
  · exact (List.mem_filter.mp member).1

/-- In a valid query two cores can be matched with the results core by different fields only where
both bundles are for other cores. -/
theorem forall_aligns_iff (valid : query.validate = .ok ()) (planned : ofQuery query = .ok plan) :
    (∀ core, core ∈ plan.joinCores ∨ core ∈ plan.facetCores → plan.Aligns query core) ↔
      ∀ first second, query.bundles.map (·.core) = [first, second] → first ≠ plan.resultsCore →
        (second ∈ plan.joinCores ∨ second ∈ plan.facetCores) →
        query.keyName? plan.resultsCore first = query.keyName? plan.resultsCore second := by
  have isSet : query.resultsCore = some plan.resultsCore := by
    obtain ⟨results, keys, isSet, -, rfl⟩ := ofQuery_ok planned
    exact isSet
  have others : query.cores.drop 1 =
      (query.bundles.map (·.core)).filter (· ≠ plan.resultsCore) := by
    rw [ComposedQuery.cores_of_resultsCore isSet]
    rfl
  have ofFirst {first : String} {rest : List String} (listed : query.cores.drop 1 = first :: rest) :
      plan.Aligns query first := by
    rw [aligns_iff_of_head planned listed (listed ▸ List.mem_cons_self)]
  constructor
  · intro aligned first second listed apart joined
    have cut : query.cores.drop 1 = first :: [second].filter (· ≠ plan.resultsCore) := by
      rw [others, listed, List.filter_cons_of_pos (by simpa using apart)]
    exact (aligns_iff_of_head planned cut (other_of_joined planned joined)).mp (aligned second joined)
  · intro same core joined
    have other := other_of_joined planned joined
    rw [others] at other
    rcases ComposedQuery.validate_ok valid with one | ⟨two, -⟩
    · obtain ⟨only, listed⟩ := List.length_eq_one_iff.mp one
      change query.bundles.map (·.core) = [only] at listed
      rw [listed] at other others
      obtain ⟨member, apart⟩ := List.mem_filter.mp other
      obtain rfl := List.mem_singleton.mp member
      exact ofFirst (others.trans (List.filter_cons_of_pos apart))
    · obtain ⟨first, second, listed⟩ := List.length_eq_two.mp two
      change query.bundles.map (·.core) = [first, second] at listed
      rw [listed] at other others
      obtain ⟨member, apart⟩ := List.mem_filter.mp other
      by_cases isResults : first = plan.resultsCore
      · obtain rfl := (List.mem_pair.mp member).resolve_left fun isFirst =>
          of_decide_eq_true apart (isFirst.trans isResults)
        have cut : query.cores.drop 1 = [core] := by
          have kept : core ≠ plan.resultsCore := of_decide_eq_true apart
          simp [others, isResults, kept]
        exact ofFirst cut
      · have cut := others.trans (List.filter_cons_of_pos (by simpa using isResults))
        rcases List.mem_pair.mp member with rfl | rfl
        · exact ofFirst cut
        · rw [aligns_iff_of_head planned cut (other_of_joined planned joined)]
          exact same first core listed isResults joined

theorem aligns_of_built (built : query.Built) (valid : query.validate = .ok ())
    (planned : ofQuery query = .ok plan)
    (joined : core ∈ plan.joinCores ∨ core ∈ plan.facetCores) : plan.Aligns query core := by
  refine (forall_aligns_iff valid planned).mpr ?_ core joined
  intro first second listed apart secondJoined
  obtain ⟨results, keys, isSet, -, rfl⟩ := ofQuery_ok planned
  have registered := built.wellFormed.resultsRegistered results isSet
  change results ∈ query.bundles.map (·.core) at registered
  rw [listed] at registered
  have isSecond := (List.mem_pair.mp registered).resolve_left (Ne.symm apart)
  have otherThanResults := (ComposedQuery.mem_others isSet).mp (other_of_joined planned secondJoined)
  exact absurd isSecond.symm otherThanResults.2

end JoinPlan

/-- The plan of a valid query has for each core that is joined or counted, and for the results core,
the fields by which the two are matched, unless two bundles are for other cores, the second asks for
something, and the two are matched by different fields of the results core. Queries that operations
build have no such bundles. The keys of a joined core are looked for in the field of the plan. -/
theorem keys_aligned_iff (valid : query.validate = .ok ())
    (planned : JoinPlan.ofQuery query = .ok plan) :
    ((∀ core, core ∈ plan.joinCores ∨ core ∈ plan.facetCores → plan.Aligns query core) ↔
      ∀ first second, query.bundles.map (·.core) = [first, second] → first ≠ plan.resultsCore →
        (second ∈ plan.joinCores ∨ second ∈ plan.facetCores) →
        query.keyName? plan.resultsCore first = query.keyName? plan.resultsCore second) ∧
    (query.Built →
      ∀ core, core ∈ plan.joinCores ∨ core ∈ plan.facetCores → plan.Aligns query core) ∧
    ∀ (federator : Federator) (calls : List (Call Q × Outcome)) (response : SearchResponse),
      Session.Trace (federator.execute query) calls (.ok response) →
      ∀ core ∈ plan.joinCores, ∃ resultsKey key,
        LookedFor calls core (joinSearch query core key) plan.resultsCore resultsKey ∧
        (plan.Aligns query core ↔
          query.keyNames? plan.resultsCore core = some (resultsKey, key)) := by
  refine ⟨JoinPlan.forall_aligns_iff valid planned, ?built, ?executed⟩
  case built =>
      intro built core joined
      exact JoinPlan.aligns_of_built built valid planned joined
  case executed =>
      intro federator calls response trace core member
      obtain ⟨resultsKey, ofResults, joins, -⟩ :=
        federator.execute_looksFor planned trace (Or.inl (List.ne_nil_of_mem member))
      obtain ⟨key, ofCore, lookedFor⟩ := joins core member
      exact ⟨resultsKey, key, lookedFor, JoinPlan.aligns_iff_of_keyFor ofResults ofCore⟩

def reviewedBooks : ComposedQuery String where
  resultsCore := some "books"
  bundles := [{ core := "authors", filters := ["Dutch"] },
    { core := "reviews", facets := [⟨"stars", [], 0, none⟩] }]
  matchings := Matchings.declare (Matchings.declare SortedMap.empty ("authors", "book")
    ("books", "number")) ("books", "number") ("reviews", "of")

theorem reviewedBooks_aligned : ∃ plan, reviewedBooks.validate = .ok () ∧
    JoinPlan.ofQuery reviewedBooks = .ok plan ∧ plan.joinCores = ["authors"] ∧
    plan.facetCores = ["reviews"] ∧ plan.Aligns reviewedBooks "authors" ∧
    plan.Aligns reviewedBooks "reviews" := by
  refine ⟨_, rfl, rfl, rfl, rfl, ?_⟩
  obtain ⟨aligned_iff, -, -⟩ := @keys_aligned_iff _ reviewedBooks _ rfl rfl
  have aligned := aligned_iff.mpr <| by
    intro first second listed _ _
    obtain ⟨rfl, rfl⟩ : "authors" = first ∧ "reviews" = second := by
      simpa [reviewedBooks] using listed
    rfl
  exact ⟨aligned "authors" (Or.inl List.mem_cons_self),
    aligned "reviews" (Or.inr List.mem_cons_self)⟩

def crossedKeys : Value :=
  .object [("coreQueries", .list [
      .object [("core", .text "B"), ("query", .object [("term", .object [("term", .text "b")])])],
      .object [("core", .text "C"), ("query", .object [("term", .object [("term", .text "c")])])]]),
    ("matches", .object [("A->B", .list [.text "k", .text "j"]),
      ("A->C", .list [.text "i", .text "h"])]),
    ("resultsFrom", .text "A"), ("unites", .list [])]

theorem crossedKeys_unaligned : ∃ query plan,
    ComposedQuery.decode Expression.decode crossedKeys = .ok query ∧ query.validate = .ok () ∧
    JoinPlan.ofQuery query = .ok plan ∧ "C" ∈ plan.joinCores ∧ plan.keyFor "A" = .ok "k" ∧
    plan.keyFor "C" = .ok "h" ∧ query.keyNames? plan.resultsCore "C" = some ("i", "h") ∧
    ¬plan.Aligns query "C" := by
  refine ⟨_, _, rfl, rfl, rfl, by decide, rfl, rfl, rfl, ?_⟩
  rw [JoinPlan.aligns_iff_of_keyFor rfl rfl]
  decide

end FederatedSearch
