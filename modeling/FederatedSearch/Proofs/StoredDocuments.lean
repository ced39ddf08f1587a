import FederatedSearch.Proofs.NarrowedSearches
import Mathlib.Data.List.Induction

/-! What a store holds, told by the log of the documents put in and deleted. Of each identifier it
holds the document put in last, unless it was deleted since, and it keeps them in the order in which
they came in. A search looks at nothing else. -/

namespace FederatedSearch

inductive StoreEdit where
  | add (document : Document)
  | delete (id : String)

namespace StoreEdit

def id : StoreEdit → String
  | .add document => document.id
  | .delete id => id

def document? : StoreEdit → Option Document
  | .add document => some document
  | .delete _ => none

def apply (store : Store) : StoreEdit → Store
  | .add document => store.add document
  | .delete id => store.delete id

end StoreEdit

def Store.edited (store : Store) (edits : List StoreEdit) : Store :=
  edits.foldl StoreEdit.apply store

/-! The log -/

def latest? (id : String) (log : List StoreEdit) : Option Document :=
  (log.reverse.find? (·.id = id)).bind (·.document?)

theorem latest?_concat (id : String) (log : List StoreEdit) (edit : StoreEdit) :
    latest? id (log ++ [edit]) = if edit.id = id then edit.document? else latest? id log := by
  rw [latest?, List.reverse_concat, List.find?_cons]
  by_cases same : edit.id = id
  · simp [same]
  · simp [same, latest?]

/-- The identifier comes in at this place of the log: nothing is held under it before, a document is
put in there, and it is not deleted behind. -/
def EntersAt (log : List StoreEdit) (id : String) (place : Nat) : Prop :=
  ∃ before document after, log = before ++ .add document :: after ∧ document.id = id ∧
    before.length = place ∧ latest? id before = none ∧ .delete id ∉ after

def EntersBefore (log : List StoreEdit) (first second : String) : Prop :=
  ∃ place later, EntersAt log first place ∧ EntersAt log second later ∧ place < later

variable {log : List StoreEdit} {id : String} {place : Nat} {edit : StoreEdit}

namespace EntersAt

theorem concat (entered : EntersAt log id place) (kept : edit ≠ .delete id) :
    EntersAt (log ++ [edit]) id place := by
  obtain ⟨before, document, after, rfl, isId, length, isNew, stays⟩ := entered
  refine ⟨before, document, after ++ [edit], by simp, isId, length, isNew, ?_⟩
  simp [stays, Ne.symm kept]

theorem lt_length (entered : EntersAt log id place) : place < log.length := by
  obtain ⟨before, document, after, rfl, -, rfl, -⟩ := entered
  simp

end EntersAt

/-- What has come in and is not deleted is held. -/
theorem latest?_isSome_of_added {document : Document} (isId : document.id = id)
    (before : List StoreEdit) {after : List StoreEdit} (stays : .delete id ∉ after) :
    (latest? id (before ++ .add document :: after)).isSome = true := by
  induction after using List.reverseRecOn with
  | nil =>
      rw [latest?_concat, StoreEdit.id, if_pos isId]
      rfl
  | append_singleton after edit ih =>
      rw [List.mem_append, List.mem_singleton, not_or] at stays
      rw [← List.cons_append, ← List.append_assoc, latest?_concat]
      split
      next same =>
        cases edit with
        | add other => rfl
        | delete other => exact absurd (congrArg StoreEdit.delete same.symm) stays.2
      next => exact ih stays.1

theorem exists_entersAt_iff :
    (∃ place, EntersAt log id place) ↔ (latest? id log).isSome = true := by
  constructor
  · rintro ⟨place, before, document, after, rfl, isId, -, -, stays⟩
    exact latest?_isSome_of_added isId before stays
  · intro held
    induction log using List.reverseRecOn with
    | nil => cases held
    | append_singleton log edit ih =>
        rw [latest?_concat] at held
        split at held
        next same =>
          cases edit with
          | delete other => cases held
          | add document =>
              cases before : latest? id log with
              | some old =>
                  obtain ⟨place, entered⟩ := ih (by rw [before]; rfl)
                  exact ⟨place, entered.concat (by simp)⟩
              | none => exact ⟨log.length, log, document, [], rfl, same, rfl, before, by simp⟩
        next other =>
          obtain ⟨place, entered⟩ := ih held
          refine ⟨place, entered.concat ?_⟩
          rintro rfl
          exact other rfl

/-- An identifier comes in at one place. -/
theorem EntersAt.unique {later : Nat} (entered : EntersAt log id place)
    (again : EntersAt log id later) : place = later := by
  have notBehind {place later : Nat} (entered : EntersAt log id place)
      (again : EntersAt log id later) : ¬ place < later := by
    intro behind
    obtain ⟨before, document, after, rfl, isId, rfl, -, stays⟩ := entered
    obtain ⟨longer, other, rest, same, -, rfl, isNew, -⟩ := again
    rcases List.append_eq_append_iff.mp same with ⟨between, rfl, parted⟩ | ⟨between, rfl, -⟩
    · cases between with
      | nil => simp at behind
      | cons head between =>
          rw [List.cons_append, List.cons.injEq] at parted
          obtain ⟨rfl, rfl⟩ := parted
          have held := latest?_isSome_of_added isId before
            (fun deleted => stays (List.mem_append_left _ deleted))
          rw [isNew] at held
          cases held
    · rw [List.length_append] at behind
      omega
  have first := notBehind entered again
  have second := notBehind again entered
  omega

theorem mem_ids_of_latest? (held : (latest? id log).isSome = true) : id ∈ log.map (·.id) := by
  obtain ⟨place, before, document, after, rfl, rfl, -⟩ := exists_entersAt_iff.mpr held
  exact List.mem_map.mpr ⟨.add document, by simp, rfl⟩

/-! The documents held -/

theorem find?_putDocument (document : Document) (documents : List Document) (id : String) :
    (putDocument document documents).find? (·.id = id) =
      if document.id = id then some document else documents.find? (·.id = id) := by
  induction documents with
  | nil => by_cases same : document.id = id <;> simp [putDocument, same]
  | cons other rest ih =>
      rw [putDocument]
      by_cases replaced : other.id = document.id
      · by_cases same : document.id = id <;> simp [replaced, same]
      · by_cases same : document.id = id
        · have notOther : other.id ≠ id := fun isOther => replaced (isOther.trans same.symm)
          simp [same, notOther, ih]
        · simp [replaced, same, ih, List.find?_cons]

theorem find?_filter_id (deleted id : String) (documents : List Document) :
    (documents.filter (·.id ≠ deleted)).find? (·.id = id) =
      if deleted = id then none else documents.find? (·.id = id) := by
  induction documents with
  | nil => simp
  | cons document rest ih =>
      rw [List.filter_cons, List.find?_cons]
      by_cases gone : document.id = deleted
      · rw [if_neg (by simpa using gone), ih]
        by_cases same : deleted = id <;> simp [gone, same]
      · rw [if_pos (by simpa using gone), List.find?_cons, ih]
        by_cases found : document.id = id
        · have different : deleted ≠ id := fun same => gone (found.trans same.symm)
          simp [found, different]
        · simp [found]

/-- Where no identifier is there twice, each document is found under its own. -/
theorem find?_id_iff {documents : List Document} (distinct : (documents.map (·.id)).Nodup)
    {document : Document} :
    documents.find? (·.id = document.id) = some document ↔ document ∈ documents := by
  constructor
  · exact List.mem_of_find?_eq_some
  · intro member
    cases found : documents.find? (·.id = document.id) with
    | none => simpa using List.find?_eq_none.mp found document member
    | some other =>
        have sameId : other.id = document.id := by simpa using List.find?_some found
        have inList := List.mem_of_find?_eq_some found
        rw [List.inj_on_of_nodup_map distinct inList member sameId]

structure Records (log : List StoreEdit) (documents : List Document) : Prop where
  latest : ∀ id, documents.find? (·.id = id) = latest? id log
  ordered : (documents.map (·.id)).Pairwise (EntersBefore log)

namespace Records

variable {documents : List Document}

theorem mem_ids_iff (records : Records log documents) :
    id ∈ documents.map (·.id) ↔ (latest? id log).isSome = true := by
  rw [← records.latest, List.find?_isSome]
  simp

theorem ordered_concat {ids : List String} (ordered : ids.Pairwise (EntersBefore log))
    (kept : ∀ id ∈ ids, edit ≠ .delete id) : ids.Pairwise (EntersBefore (log ++ [edit])) := by
  refine ordered.imp_of_mem fun inFirst inSecond entered => ?_
  obtain ⟨place, later, ofFirst, ofSecond, before⟩ := entered
  exact ⟨place, later, ofFirst.concat (kept _ inFirst), ofSecond.concat (kept _ inSecond), before⟩

theorem add (records : Records log documents) (document : Document) :
    Records (log ++ [.add document]) (putDocument document documents) := by
  have kept : ∀ id ∈ documents.map (·.id), StoreEdit.add document ≠ .delete id := by simp
  have ordered := ordered_concat records.ordered kept
  constructor
  case latest =>
    intro id
    rw [find?_putDocument, latest?_concat, records.latest]
    rfl
  case ordered =>
    rw [ids_putDocument]
    split
    next => exact ordered
    next isNew =>
      rw [records.mem_ids_iff] at isNew
      refine List.pairwise_append.mpr ⟨ordered, List.pairwise_singleton _ _, ?_⟩
      intro first inFirst second isSecond
      obtain rfl := List.mem_singleton.mp isSecond
      obtain ⟨place, entered⟩ := exists_entersAt_iff.mpr (records.mem_ids_iff.mp inFirst)
      have comesIn : EntersAt (log ++ [.add document]) document.id log.length :=
        ⟨log, document, [], rfl, rfl, rfl, by simpa using isNew, by simp⟩
      exact ⟨place, log.length, entered.concat (by simp), comesIn, entered.lt_length⟩

theorem delete (records : Records log documents) (id : String) :
    Records (log ++ [.delete id]) (documents.filter (·.id ≠ id)) := by
  constructor
  case latest =>
    intro other
    rw [find?_filter_id, latest?_concat, records.latest]
    rfl
  case ordered =>
    have fewer : (documents.filter (·.id ≠ id)).Sublist documents := List.filter_sublist
    refine ordered_concat (records.ordered.sublist (fewer.map _)) fun other member => ?_
    obtain ⟨document, kept, rfl⟩ := List.mem_map.mp member
    have different : document.id ≠ id := of_decide_eq_true (List.mem_filter.mp kept).2
    exact fun same => different (StoreEdit.delete.inj same).symm

theorem edited (name : String) (log : List StoreEdit) :
    Records log (({ name } : Store).edited log).documents := by
  unfold Store.edited
  induction log using List.reverseRecOn with
  | nil => exact ⟨fun _ => rfl, List.Pairwise.nil⟩
  | append_singleton log edit ih =>
      rw [List.foldl_append]
      cases edit with
      | add document => exact ih.add document
      | delete id => exact ih.delete id

end Records

/-! Searches -/

namespace CoreSearch

variable {request : CoreSearch Expression} {documents : List Document} {found : List Scored}

theorem mem_admitted_iff {document : Document} :
    document ∈ documents.filter (fun document => (request.finds document).toOption = some true) ↔
      document ∈ documents ∧ request.finds document = .ok true := by
  rw [List.mem_filter]
  cases request.finds document with
  | error unsupported => simp [Except.toOption]
  | ok taken => simp [Except.toOption]

theorem score_of_mem_found (isFound : request.found documents = .ok found) :
    ∀ scored ∈ found, request.score scored.document = .ok scored.score := by
  induction documents generalizing found with
  | nil =>
      cases isFound
      exact List.forall_mem_nil _
  | cons document rest ih =>
      rcases found_cons_ok_iff.mp isFound with
        ⟨-, isRest⟩ | ⟨-, score, others, isScore, isOthers, rfl⟩
      · exact ih isRest
      · exact List.forall_mem_cons.mpr ⟨isScore, ih isOthers⟩

end CoreSearch

structure CoreResponse.MadeOf (request : CoreSearch Expression) (documents : List Document)
    (response : CoreResponse) : Prop where
  hits : ∀ hit ∈ response.hits, ∃ document ∈ documents, ∃ score,
    request.score document = .ok score ∧ hit = (Scored.mk document score).hit
  total : request.options.dedupField = none → response.total = documents.length
  facets : response.facets =
    if request.facets.isEmpty then none else some (request.facets.map (·.count documents))
  collectedKeys : response.collectedKeys = request.collectKeys.map fun field =>
    SortedSet.ofList (documents.flatMap (·.values field))

namespace Store

variable {store : Store} {request : CoreSearch Expression} {response : CoreResponse}

theorem Built.edited (built : store.Built) (edits : List StoreEdit) :
    (store.edited edits).Built := by
  unfold Store.edited
  induction edits generalizing store with
  | nil => exact built
  | cons edit rest ih =>
      cases edit with
      | add document => exact ih (built.add document)
      | delete id => exact ih (built.delete id)

theorem edited_ofDocuments (name : String) (documents : List Document) (edits : List StoreEdit) :
    (ofDocuments name documents).edited edits =
      ({ name } : Store).edited (documents.map .add ++ edits) := by
  unfold Store.edited ofDocuments
  rw [List.foldl_append, List.foldl_map]
  rfl

theorem contains_eq (store : Store) (id : String) :
    store.contains id = (store.documents.find? (·.id = id)).isSome := by
  rw [contains, Bool.eq_iff_iff, List.find?_isSome, List.any_eq_true]

/-- A deletion makes the store smaller just if something was held. -/
theorem contains_iff_size_delete (store : Store) (id : String) :
    store.contains id = true ↔ (store.delete id).size < store.size := by
  have fewer := List.length_filter_lt_length_iff_exists (l := store.documents)
    (p := fun document => decide (document.id ≠ id))
  unfold size delete
  rw [fewer, contains, List.any_eq_true]
  simp

theorem size_eq_card {log : List StoreEdit} (records : Records log store.documents)
    (distinct : (store.documents.map (·.id)).Nodup) : store.size =
      ((log.map (·.id)).toFinset.filter fun id => (latest? id log).isSome = true).card := by
  have held : (store.documents.map (·.id)).toFinset =
      (log.map (·.id)).toFinset.filter fun id => (latest? id log).isSome = true := by
    ext id
    rw [Finset.mem_filter, List.mem_toFinset, List.mem_toFinset, records.mem_ids_iff]
    exact ⟨fun held => ⟨mem_ids_of_latest? held, held⟩, And.right⟩
  rw [← held, List.toFinset_card_of_nodup distinct, List.length_map, size]

theorem nodup_ids_hits (built : store.Built) (answers : store.search request = .answered response) :
    (response.hits.map (·.id)).Nodup := by
  obtain ⟨found, ordered, isFound, isOrdered, rfl⟩ := search_answered_iff.mp answers
  have distinct := nodup_ids_ordered built isFound isOrdered
  rw [← Scored.map_hit_id] at distinct
  have onPage := QueryOptions.page_sublist request.options ordered
  exact ((onPage.map (·.hit)).map (·.id)).nodup distinct

theorem madeOf_of_answered (answers : store.search request = .answered response) :
    response.MadeOf request
      (store.documents.filter fun document => (request.finds document).toOption = some true) := by
  obtain ⟨found, ordered, isFound, isOrdered, rfl⟩ := search_answered_iff.mp answers
  rw [← CoreSearch.documents_of_found isFound]
  constructor
  case facets | collectedKeys => rfl
  case total =>
    intro keepsAll
    rw [List.length_map]
    exact (QueryOptions.ordered_perm keepsAll isOrdered).length_eq
  case hits =>
    intro hit member
    obtain ⟨scored, onPage, rfl⟩ := List.mem_map.mp member
    have inOrder := (QueryOptions.page_sublist request.options ordered).subset onPage
    have inFound := (QueryOptions.ordered_subperm isOrdered).subset inOrder
    exact ⟨scored.document, List.mem_map_of_mem inFound, scored.score,
      CoreSearch.score_of_mem_found isFound scored inFound, rfl⟩

end Store

/-- A store is a map from identifiers to documents in the order in which they came in, after any
documents it is filled with and any that are put in and deleted then. Under each identifier it holds
the document put in last, if it was not deleted since; a document put in for one that is held takes
its place. A deletion finds just what is held, and the size counts it. A search tells only of the
documents held that it finds, and of none of them twice. -/
theorem store_holds_latest (name : String) (documents : List Document) (edits : List StoreEdit) :
    let store := (Store.ofDocuments name documents).edited edits
    let log := documents.map .add ++ edits
    let ids := store.documents.map (·.id)
    ids.Nodup ∧
    (∀ id, store.documents.find? (·.id = id) = latest? id log) ∧
    (ids.Pairwise (EntersBefore log) ∧ ∀ id ∈ ids, ∃! place, EntersAt log id place) ∧
    (∀ id, store.contains id = (latest? id log).isSome ∧
      (store.contains id = true ↔ (store.delete id).size < store.size)) ∧
    store.size = ((log.map (·.id)).toFinset.filter fun id => (latest? id log).isSome).card ∧
    ∀ request response, store.search request = .answered response →
      (response.hits.map (·.id)).Nodup ∧
      ∃ admitted, (∀ document, document ∈ admitted ↔
          latest? document.id log = some document ∧ request.finds document = .ok true) ∧
        (admitted.map (·.id)).Pairwise (EntersBefore log) ∧
        response.MadeOf request admitted := by
  intro store log ids
  have built : store.Built := (Store.Built.ofDocuments name documents).edited edits
  have records : Records log store.documents := by
    have ofLog := Records.edited name log
    rwa [← Store.edited_ofDocuments] at ofLog
  have distinct := built.nodup_ids
  refine ⟨distinct, records.latest, ⟨records.ordered, ?enters⟩, ?deletes,
    store.size_eq_card records distinct, ?searches⟩
  case enters =>
    intro id held
    obtain ⟨place, entered⟩ := exists_entersAt_iff.mpr (records.mem_ids_iff.mp held)
    exact ⟨place, entered, fun other again => again.unique entered⟩
  case deletes =>
    intro id
    rw [← records.latest]
    exact ⟨store.contains_eq id, store.contains_iff_size_delete id⟩
  case searches =>
    intro request response answers
    refine ⟨Store.nodup_ids_hits built answers, _, ?_, ?_, Store.madeOf_of_answered answers⟩
    · intro document
      rw [CoreSearch.mem_admitted_iff, ← records.latest, find?_id_iff distinct]
    · exact records.ordered.sublist (List.filter_sublist.map _)

def boughtNovels : List Document :=
  [({ id := "dune" } : Document).addValue "shelf" "a",
    ({ id := "solaris" } : Document).addValue "shelf" "a",
    ({ id := "dune" } : Document).addValue "shelf" "b"]

def movedNovels : List StoreEdit :=
  [.delete "solaris", .add (({ id := "emma" } : Document).addValue "shelf" "b"),
    .add (({ id := "solaris" } : Document).addValue "shelf" "a"), .delete "persuasion",
    .add (({ id := "emma" } : Document).addValue "shelf" "a")]

def onShelf (shelf : String) : CoreSearch Expression :=
  { query := some (.ofField "shelf" shelf) }

theorem movedNovels_latest :
    let store := (Store.ofDocuments "novels" boughtNovels).edited movedNovels
    let log := boughtNovels.map .add ++ movedNovels
    store.documents.map (·.id) = ["dune", "emma", "solaris"] ∧
    (∀ id, store.documents.find? (·.id = id) = latest? id log) ∧
    ("solaris" ∈ store.documents.map (·.id) ∧ ∃! place, EntersAt log "solaris" place) ∧
    ∃ response, store.search (onShelf "a") = .answered response ∧
      response.hits.map (·.id) = ["emma", "solaris"] ∧ (response.hits.map (·.id)).Nodup ∧
      ∃ admitted, (∀ document, document ∈ admitted ↔
          latest? document.id log = some document ∧ (onShelf "a").finds document = .ok true) ∧
        (admitted.map (·.id)).Pairwise (EntersBefore log) ∧
        response.MadeOf (onShelf "a") admitted := by
  intro store log
  obtain ⟨-, latest, ⟨-, enters⟩, -, -, searches⟩ :=
    store_holds_latest "novels" boughtNovels movedNovels
  have held : "solaris" ∈ store.documents.map (·.id) := by decide +kernel
  obtain ⟨distinct, admitted⟩ := searches (onShelf "a") _ rfl
  exact ⟨by decide +kernel, latest, ⟨held, enters _ held⟩, _, rfl, by decide +kernel, distinct,
    admitted⟩

end FederatedSearch
