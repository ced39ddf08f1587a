import FederatedSearch.Proofs.MapEntries
import FederatedSearch.Proofs.UnitedKeys

/-! The operations on two cores, matching them and uniting a query on each, carried out in place one
change after the other. Every check comes before the first change, so one that fails leaves the
query as it was, and what is given for the cores is put in the order of their names first. -/

namespace FederatedSearch

variable {Q α : Type}

/-- Changes to a query in place. They leave a query behind whether or not they fail. -/
abbrev Editing (Q α : Type) :=
  ExceptT RequestError (StateM (ComposedQuery Q)) α

namespace Editing

def settled (found : Except RequestError α) : Editing Q α :=
  ExceptT.mk (pure found)

def addMatch (sides : List (String × String)) : Editing Q Unit := do
  let (first, second) ← settled (orderedPair .addMatch sides)
  modify fun query => { query with matchings := query.matchings.declare first second }

def addUnite (given : SortedMap String Q) (core keyName : String) : Editing Q Unit :=
  match given.get? core with
  | none => return
  | some main => do
    modify (·.register core)
    modify fun query => { query with unites := query.unites ++ [⟨core, keyName, main⟩] }

def unite (queries : List (String × Q)) : Editing Q Unit := do
  let (first, second) ← settled (orderedPair .unite queries)
  match (← get).keyNames? first.1 second.1 with
  | none => throw (.noMatchForCores [first.1, second.1])
  | some (firstKey, secondKey) =>
    let given := SortedMap.ofList queries
    addUnite given first.1 firstKey
    addUnite given second.1 secondKey

def outcome (editing : Editing Q α) (query : ComposedQuery Q) :
    Except RequestError α × ComposedQuery Q :=
  editing.run.run query

end Editing

def ComposedQuery.replacedBy (query : ComposedQuery Q) :
    Except RequestError (ComposedQuery Q) → Except RequestError Unit × ComposedQuery Q
  | .ok changed => (.ok (), changed)
  | .error error => (.error error, query)

/-! The two entries in ascending order of core -/

section Order

variable {operation : PairOperation} {first second : String × α} {entries : List (String × α)}

theorem orderedPair_swap (operation : PairOperation) (first second : String × α) :
    orderedPair operation [second, first] = orderedPair operation [first, second] := by
  unfold orderedPair
  dsimp only
  have swapped : compare second.1 first.1 = (compare first.1 second.1).swap :=
    Std.OrientedCmp.eq_swap
  rw [swapped]
  cases compare first.1 second.1 <;> rfl

theorem lt_of_orderedPair (ordered : orderedPair operation entries = .ok (first, second)) :
    first.1 < second.1 :=
  compareOfLessAndEq_eq_lt.mp (ComposedQuery.orderedPair_ok ordered).1

theorem exists_orderedPair_iff {accepts : String → String → Prop}
    (symmetric : ∀ one other, accepts one other → accepts other one) :
    (∃ first second, orderedPair operation entries = .ok (first, second) ∧
        accepts first.1 second.1) ↔
      ∃ first second, entries = [first, second] ∧ first.1 ≠ second.1 ∧
        accepts first.1 second.1 := by
  constructor
  · rintro ⟨first, second, ordered, accepted⟩
    have different := String.ne_of_lt (lt_of_orderedPair ordered)
    rcases (ComposedQuery.orderedPair_ok ordered).2 with rfl | rfl
    · exact ⟨first, second, rfl, different, accepted⟩
    · exact ⟨second, first, rfl, different.symm, symmetric _ _ accepted⟩
  · rintro ⟨first, second, rfl, different, accepted⟩
    unfold orderedPair
    cases order : compare first.1 second.1 with
    | lt => exact ⟨first, second, by simp only [order], accepted⟩
    | gt => exact ⟨second, first, by simp only [order], symmetric _ _ accepted⟩
    | eq => exact absurd (Std.LawfulEqCmp.eq_of_compare order) different

theorem get?_ofList_orderedPair (ordered : orderedPair operation entries = .ok (first, second)) :
    (SortedMap.ofList entries).get? first.1 = some first.2 ∧
      (SortedMap.ofList entries).get? second.1 = some second.2 := by
  have different := String.ne_of_lt (lt_of_orderedPair ordered)
  have isPair := (ComposedQuery.orderedPair_ok ordered).2
  have functional : ∀ pair ∈ entries, ∀ other ∈ entries, pair.1 = other.1 → pair.2 = other.2 := by
    rcases isPair with rfl | rfl <;> simp [different, different.symm]
  rw [SortedMap.get?_ofList_iff functional, SortedMap.get?_ofList_iff functional]
  rcases isPair with rfl | rfl <;> simp

end Order

theorem ComposedQuery.Built.keyNames?_swap {query : ComposedQuery Q} (built : query.Built)
    (one other : String) :
    query.keyNames? other one = (query.keyNames? one other).map Prod.swap :=
  Matchings.keyNames?_swap built.wellFormed.matchesAscend one other

/-! The operations in place -/

namespace Editing

variable {query after : ComposedQuery Q}

theorem outcome_settled_bind {β : Type} (value : α) (next : α → Editing Q β) :
    (settled (.ok value) >>= next).outcome query = (next value).outcome query :=
  rfl

theorem outcome_get_bind {β : Type} (next : ComposedQuery Q → Editing Q β) :
    ((get : Editing Q (ComposedQuery Q)) >>= next).outcome query = (next query).outcome query :=
  rfl

theorem outcome_bind_ok {β : Type} {first : Editing Q α} {second : α → Editing Q β} {value : α}
    (done : first.outcome query = (.ok value, after)) :
    (first >>= second).outcome query = (second value).outcome after := by
  change StateT.run (ExceptT.bindCont second (first.outcome query).1) (first.outcome query).2 = _
  rw [done]
  rfl

theorem outcome_addMatch (query : ComposedQuery Q) (sides : List (String × String)) :
    (addMatch sides).outcome query = query.replacedBy (query.addMatch sides) := by
  unfold addMatch ComposedQuery.addMatch
  cases orderedPair .addMatch sides <;> rfl

theorem outcome_addUnite {given : SortedMap String Q} {core : String} {main : Q}
    (found : given.get? core = some main) (keyName : String) :
    (addUnite given core keyName).outcome query =
      (.ok (), { query.register core with
        unites := query.unites ++ [⟨core, keyName, main⟩] }) := by
  unfold addUnite
  rw [found]
  rfl

theorem outcome_unite (query : ComposedQuery Q) (queries : List (String × Q)) :
    (unite queries).outcome query = query.replacedBy (query.unite queries) := by
  unfold unite ComposedQuery.unite
  cases ordered : orderedPair .unite queries with
  | error error => rfl
  | ok pair =>
      obtain ⟨first, second⟩ := pair
      obtain ⟨ofFirst, ofSecond⟩ := get?_ofList_orderedPair ordered
      rw [outcome_settled_bind, outcome_get_bind]
      conv_rhs => simp only [bind, Except.bind]
      cases query.keyNames? first.1 second.1 with
      | none => rfl
      | some keys =>
          dsimp only
          rw [outcome_bind_ok (outcome_addUnite ofFirst keys.1), outcome_addUnite ofSecond]
          simp [ComposedQuery.replacedBy, ComposedQuery.register, ComposedQuery.change, pure,
            Except.pure]

theorem outcome_eq_ok_iff {editing : Editing Q Unit} {result : Except RequestError (ComposedQuery Q)}
    (ends : editing.outcome query = query.replacedBy result) :
    editing.outcome query = (.ok (), after) ↔ result = .ok after := by
  rw [ends]
  cases result <;> simp [ComposedQuery.replacedBy]

theorem eq_of_outcome_error {editing : Editing Q Unit}
    {result : Except RequestError (ComposedQuery Q)}
    (ends : editing.outcome query = query.replacedBy result) {error : RequestError}
    (failed : editing.outcome query = (.error error, after)) : after = query := by
  rw [ends] at failed
  cases result with
  | ok changed => simp [ComposedQuery.replacedBy] at failed
  | error other => exact (Prod.mk.inj failed).2.symm

/-- An operation that is given an entry for each of two cores. Whether it succeeds hangs on the
entries and not on their order, and one that fails changes nothing. -/
structure Atomic (operation : List (String × α) → Editing Q Unit) (query : ComposedQuery Q)
    (accepts : String → String → Prop) : Prop where
  unchanged : ∀ entries error after,
    (operation entries).outcome query = (.error error, after) → after = query
  succeeds : ∀ entries, (∃ after, (operation entries).outcome query = (.ok (), after)) ↔
    ∃ first second, entries = [first, second] ∧ first.1 ≠ second.1 ∧ accepts first.1 second.1
  swapped : ∀ first second,
    (operation [second, first]).outcome query = (operation [first, second]).outcome query

theorem exists_addMatch_iff {sides : List (String × String)} :
    (∃ changed, query.addMatch sides = .ok changed) ↔
      ∃ first second, orderedPair .addMatch sides = .ok (first, second) ∧ True := by
  unfold ComposedQuery.addMatch
  cases ordered : orderedPair .addMatch sides with
  | error error => simp [bind, Except.bind]
  | ok pair => exact iff_of_true ⟨_, rfl⟩ ⟨pair.1, pair.2, rfl, trivial⟩

theorem exists_unite_iff {queries : List (String × Q)} :
    (∃ changed, query.unite queries = .ok changed) ↔
      ∃ first second, orderedPair .unite queries = .ok (first, second) ∧
        (query.keyNames? first.1 second.1).isSome = true := by
  constructor
  · rintro ⟨changed, done⟩
    obtain ⟨first, second, keys, ordered, matched, -⟩ := ComposedQuery.unite_ok done
    exact ⟨first, second, ordered, Option.isSome_of_eq_some matched⟩
  · rintro ⟨first, second, ordered, matched⟩
    obtain ⟨keys, found⟩ := Option.isSome_iff_exists.mp matched
    unfold ComposedQuery.unite
    rw [ordered]
    simp only [bind, Except.bind, found]
    exact ⟨_, rfl⟩

theorem Atomic.of_replacedBy {operation : List (String × α) → Editing Q Unit}
    {result : List (String × α) → Except RequestError (ComposedQuery Q)}
    {name : PairOperation} {accepts : String → String → Prop}
    (ends : ∀ entries, (operation entries).outcome query = query.replacedBy (result entries))
    (symmetric : ∀ one other, accepts one other → accepts other one)
    (succeeds : ∀ entries, (∃ changed, result entries = .ok changed) ↔
      ∃ first second, orderedPair name entries = .ok (first, second) ∧ accepts first.1 second.1)
    (swapped : ∀ first second, result [second, first] = result [first, second]) :
    Atomic operation query accepts := by
  refine ⟨?unchanged, ?succeeds, ?swapped⟩
  case unchanged =>
      intro entries error after
      exact eq_of_outcome_error (ends entries)
  case succeeds =>
      intro entries
      simp only [outcome_eq_ok_iff (ends entries)]
      rw [succeeds, exists_orderedPair_iff symmetric]
  case swapped =>
      intro first second
      rw [ends, ends, swapped]

theorem atomic_addMatch (query : ComposedQuery Q) : Atomic addMatch query fun _ _ => True := by
  refine .of_replacedBy (outcome_addMatch query) (fun _ _ => id) (fun _ => exists_addMatch_iff) ?_
  intro first second
  rw [ComposedQuery.addMatch, ComposedQuery.addMatch, orderedPair_swap]

theorem atomic_unite (built : query.Built) :
    Atomic unite query fun first second => (query.keyNames? first second).isSome = true := by
  refine .of_replacedBy (outcome_unite query) ?symmetric (fun _ => exists_unite_iff) ?swapped
  case symmetric =>
      intro one other matched
      rwa [built.keyNames?_swap one other, Option.isSome_map]
  case swapped =>
      intro first second
      rw [ComposedQuery.unite, ComposedQuery.unite, orderedPair_swap]

end Editing

/-! What a successful operation changes -/

def Bundle.empty (core : String) : Bundle Q where
  core := core

namespace ComposedQuery

variable {query changed : ComposedQuery Q} {first second : String × String}

structure Rematched (query changed : ComposedQuery Q) (first second : String × String) : Prop where
  keyNames : changed.keyNames? first.1 second.1 = some (first.2, second.2)
  reversed : changed.keyNames? second.1 first.1 = some (second.2, first.2)
  others : ∀ one other, ¬(one = first.1 ∧ other = second.1) →
    ¬(one = second.1 ∧ other = first.1) → changed.keyNames? one other = query.keyNames? one other
  frame : changed = { query with matchings := changed.matchings }

theorem Rematched.symm (rematched : query.Rematched changed first second) :
    query.Rematched changed second first :=
  ⟨rematched.reversed, rematched.keyNames,
    fun one other apart swapped => rematched.others one other swapped apart, rematched.frame⟩

theorem keyNames?_declare_self (matchings : Matchings) (first second : String × String) :
    (matchings.declare first second).keyNames? first.1 second.1 = some (first.2, second.2) := by
  unfold Matchings.keyNames?
  rw [Pairing.get?_declare, if_pos ⟨rfl, rfl⟩]

theorem keyNames?_declare_of_ne (matchings : Matchings) {one other : String}
    (apart : ¬(one = first.1 ∧ other = second.1)) (swapped : ¬(one = second.1 ∧ other = first.1)) :
    (matchings.declare first second).keyNames? one other = matchings.keyNames? one other := by
  unfold Matchings.keyNames?
  rw [Pairing.get?_declare, Pairing.get?_declare, if_neg apart, if_neg fun same => swapped same.symm]

theorem rematched_addMatch (built : query.Built)
    (done : query.addMatch [first, second] = .ok changed) :
    query.Rematched changed first second := by
  have isEdit : (Edit.addMatch [first, second]).apply query = .ok changed := done
  have builtChanged : changed.Built := built.apply isEdit
  obtain ⟨one, other, ordered, rfl⟩ := addMatch_ok done
  have rematched : query.Rematched { query with
      matchings := query.matchings.declare one other } one other := by
    have keyNames := keyNames?_declare_self query.matchings one other
    refine ⟨keyNames, ?_, fun _ _ => keyNames?_declare_of_ne query.matchings, rfl⟩
    rw [builtChanged.keyNames?_swap one.1 other.1]
    exact congrArg (Option.map Prod.swap) keyNames
  rcases (orderedPair_ok ordered).2 with same | same <;>
    obtain ⟨rfl, rfl⟩ : first = _ ∧ second = _ := by simpa using same
  · exact rematched
  · exact rematched.symm

structure United (query changed : ComposedQuery Q) (first second : String × Q) : Prop where
  entries : ∃ keys, query.keyNames? first.1 second.1 = some keys ∧
    changed.unites = query.unites ++ [⟨first.1, keys.1, first.2⟩, ⟨second.1, keys.2, second.2⟩]
  bundles : changed.bundles = query.bundles ++
    ([first.1, second.1].filter (· ∉ query.bundles.map (·.core))).map Bundle.empty
  frame : changed = { query with bundles := changed.bundles, unites := changed.unites }

theorem bundles_register (query : ComposedQuery Q) (core : String) :
    (query.register core).bundles =
      query.bundles ++ ([core].filter (· ∉ query.bundles.map (·.core))).map Bundle.empty := by
  have ofBundles (bundles : List (Bundle Q)) : changeBundle core id bundles =
      bundles ++ ([core].filter (· ∉ bundles.map (·.core))).map Bundle.empty := by
    induction bundles with
    | nil => simp [changeBundle, Bundle.empty]
    | cons bundle rest ih =>
        rw [changeBundle]
        by_cases same : bundle.core = core
        · simp [same]
        · rw [if_neg same, ih]
          simp [List.filter_cons, Ne.symm same]
  exact ofBundles query.bundles

theorem united_unite {one other : String × Q} (done : query.unite [one, other] = .ok changed) :
    ∃ first second, [first, second].Perm [one, other] ∧ first.1 < second.1 ∧
      query.United changed first second := by
  obtain ⟨first, second, keys, ordered, matched, rfl⟩ := unite_ok done
  have below := lt_of_orderedPair ordered
  refine ⟨first, second, ?_, below, ⟨keys, matched, rfl⟩, ?_, rfl⟩
  · rcases (orderedPair_ok ordered).2 with same | same
    · rw [same]
    · rw [same]
      exact List.Perm.swap second first []
  · have stillNew : second.1 ∈ (query.register first.1).outline.registered ↔
        second.1 ∈ query.outline.registered := by
      rw [outline_register, Outline.mem_register]
      exact or_iff_left (String.ne_of_lt below).symm
    calc ((query.register first.1).register second.1).bundles
        = (query.register first.1).bundles ++
            ([second.1].filter (· ∉ query.bundles.map (·.core))).map Bundle.empty := by
          rw [bundles_register (query.register first.1) second.1]
          refine congrArg (fun added => _ ++ added.map Bundle.empty) (List.filter_congr ?_)
          intro core isSecond
          rw [List.mem_singleton.mp isSecond]
          exact decide_eq_decide.mpr (not_congr stillNew)
      _ = query.bundles ++
            ([first.1, second.1].filter (· ∉ query.bundles.map (·.core))).map Bundle.empty := by
          rw [bundles_register, List.append_assoc, ← List.map_append, ← List.filter_append]
          rfl

/-- Matching two cores and uniting a query on each goes through whole or not at all, in whichever
order the two are given. A match gives each core its key and leaves the keys of all other pairs as
they are. Uniting adds the two queries in the order of their cores, each with the key of its core,
and registers the cores that were not. -/
theorem pairOperations_atomic (built : query.Built) :
    (∀ sides, (Editing.addMatch sides).outcome query = query.replacedBy (query.addMatch sides)) ∧
    (∀ queries, (Editing.unite queries).outcome query = query.replacedBy (query.unite queries)) ∧
    Editing.Atomic Editing.addMatch query (fun _ _ => True) ∧
    Editing.Atomic Editing.unite query
      (fun first second => (query.keyNames? first second).isSome = true) ∧
    (∀ first second changed, query.addMatch [first, second] = .ok changed →
      query.Rematched changed first second) ∧
    ∀ one other changed, query.unite [one, other] = .ok changed →
      ∃ first second, [first, second].Perm [one, other] ∧ first.1 < second.1 ∧
        query.United changed first second :=
  ⟨Editing.outcome_addMatch query, Editing.outcome_unite query, Editing.atomic_addMatch query,
    Editing.atomic_unite built, fun _ _ _ => rematched_addMatch built, fun _ _ _ => united_unite⟩

def boundBooks : ComposedQuery String :=
  ({} : ComposedQuery String).edited
    [.addFilter "books" "bound", .addMatch [("books", "by"), ("authors", "name")]]

theorem boundBooks_atomic : boundBooks.Built ∧
    (∃ changed, boundBooks.unite [("books", "u"), ("authors", "v")] = .ok changed ∧
      (Editing.unite [("authors", "v"), ("books", "u")]).outcome boundBooks = (.ok (), changed) ∧
      changed.unites = [⟨"authors", "name", "v"⟩, ⟨"books", "by", "u"⟩] ∧
      changed.bundles = [{ core := "books", filters := ["bound"] }, { core := "authors" }] ∧
      ∃ first second, [first, second].Perm [("books", "u"), ("authors", "v")] ∧
        first.1 < second.1 ∧ boundBooks.United changed first second) ∧
    (Editing.unite [("books", "u"), ("covers", "v")]).outcome boundBooks =
      (.error (.noMatchForCores ["books", "covers"]), boundBooks) ∧
    ∃ changed, boundBooks.addMatch [("books", "of"), ("covers", "isbn")] = .ok changed ∧
      changed.keyNames? "covers" "books" = some ("isbn", "of") ∧
      changed.keyNames? "books" "authors" = some ("by", "name") := by
  have built : boundBooks.Built := Built.empty.edited _
  obtain ⟨-, ends, -, atomic, rematched, united⟩ := pairOperations_atomic built
  have covered := rematched ("books", "of") ("covers", "isbn") _ rfl
  refine ⟨built, ⟨_, rfl, ?_, rfl, rfl, united _ _ _ rfl⟩, ?_, _, rfl, covered.reversed, ?_⟩
  · rw [atomic.swapped, ends]
    rfl
  · rw [ends]
    rfl
  · rw [covered.others "books" "authors" (by decide) (by decide)]
    rfl

end ComposedQuery

end FederatedSearch
