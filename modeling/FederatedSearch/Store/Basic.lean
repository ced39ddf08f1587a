import FederatedSearch.Search.Outcome
import FederatedSearch.Store.Evaluation
import FederatedSearch.Store.Facets
import FederatedSearch.Store.Ranking
import FederatedSearch.Store.Suggestion

/-! A store of documents and the searches it answers. -/

namespace FederatedSearch

structure Store where
  name : String
  documents : List Document := []
deriving DecidableEq

def defaultPageSize : Nat :=
  10

def putDocument (document : Document) : List Document → List Document
  | [] => [document]
  | other :: rest =>
    if other.id = document.id then document :: rest else other :: putDocument document rest

namespace Store

def add (store : Store) (document : Document) : Store :=
  { store with documents := putDocument document store.documents }

def ofDocuments (name : String) (documents : List Document) : Store :=
  documents.foldl add { name }

def delete (store : Store) (id : String) : Store :=
  { store with documents := store.documents.filter (·.id ≠ id) }

def contains (store : Store) (id : String) : Bool :=
  store.documents.any (·.id = id)

def size (store : Store) : Nat :=
  store.documents.length

end Store

def KeyFilter.holds (filter : KeyFilter) (document : Document) : Bool :=
  (document.values filter.field).any filter.keys.contains

namespace CoreSearch

def queries {Q : Type} (search : CoreSearch Q) : List Q :=
  search.query.toList ++ search.filters

def finds (search : CoreSearch Expression) (document : Document) :
    Except UnsupportedRelation Bool :=
  (Expression.allMatchedBy document search.queries).map fun matched =>
    matched && search.drilldowns.all (·.holds document) && search.keyFilters.all (·.holds document)

def score (search : CoreSearch Expression) (document : Document) :
    Except UnsupportedRelation Rat :=
  match search.rankQuery with
  | none => .ok 1
  | some rank => (rank.matchedBy document).map fun matched => if matched then 2 else 1

def found (search : CoreSearch Expression) :
    List Document → Except UnsupportedRelation (List Scored)
  | [] => .ok []
  | document :: rest => do
    if ← search.finds document then
      let score ← search.score document
      return ⟨document, score⟩ :: (← search.found rest)
    else search.found rest

end CoreSearch

namespace QueryOptions

def pageStart (options : QueryOptions) : Nat :=
  options.start.getD 0

/-- The index behind the last hit of the page. A sum of 64 bits wraps around, as it does where
overflow is not checked. -/
def pageStop (options : QueryOptions) : Nat :=
  options.stop.getD ((options.pageStart + defaultPageSize) % UInt64.size)

def page {α : Type} (options : QueryOptions) (items : List α) : List α :=
  (items.drop options.pageStart).take (options.pageStop - options.pageStart)

end QueryOptions

def Scored.hit (scored : Scored) : Hit where
  id := scored.document.id
  score := .finite (.ofRat scored.score)
  storedFields := scored.document.storedFields

def QueryOptions.ordered (options : QueryOptions) (found : List Scored) : Option (List Scored) :=
  (Scored.rank options.sortKeys found).map fun ranked =>
    match options.dedupField with
    | none => ranked
    | some field => Scored.dedup field options.dedupSortField ranked

namespace Store

/-- The answer to a search that found some documents, given which of them are hits and in what
order. Keys and facets are taken from all of them, whatever the order, the dedup and the page. -/
def respond (store : Store) (search : CoreSearch Expression) (found ordered : List Scored) :
    CoreResponse :=
  let documents := found.map (·.document)
  { total := ordered.length
    hits := (search.options.page ordered).map (·.hit)
    facets := if search.facets.isEmpty then none else some (search.facets.map (·.count documents))
    collectedKeys := search.collectKeys.map fun field =>
      SortedSet.ofList (documents.flatMap (·.values field))
    suggestions := search.options.suggestions.map (·.answer store.documents) }

def search (store : Store) (request : CoreSearch Expression) : Outcome :=
  match request.found store.documents with
  | .error unsupported =>
    .failed (.searchFailed
      ⟨store.name, "unsupported relation '" ++ unsupported.relation ++ "'"⟩)
  | .ok found =>
    match request.options.ordered found with
    | none => .panicked
    | some ordered => .answered (store.respond request found ordered)

end Store

end FederatedSearch
