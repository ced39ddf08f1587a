import FederatedSearch.SortedMap
import FederatedSearch.Value

/-! Documents: an identifier, fields with values, and the categories a document stands under. -/

namespace FederatedSearch

structure Document where
  id : String
  fields : SortedMap String (List String) := SortedMap.empty
  facets : SortedMap String (List (List String)) := SortedMap.empty
deriving DecidableEq

namespace Document

def addValue (document : Document) (field value : String) : Document :=
  { document with fields := document.fields.update field fun before => before.getD [] ++ [value] }

def addPath (document : Document) (field : String) (path : List String) : Document :=
  { document with facets := document.facets.update field fun before => before.getD [] ++ [path] }

def values (document : Document) (field : String) : List String :=
  document.fields.getD field []

def firstValue? (document : Document) (field : String) : Option String :=
  (document.values field).head?

def allValues (document : Document) : List String :=
  document.fields.values.flatten

def paths (document : Document) (field : String) : List (List String) :=
  document.facets.getD field []

def storedValue : List String → Value
  | [value] => .text value
  | values => .list (values.map .text)

def storedFields (document : Document) : SortedMap String Value :=
  SortedMap.ofList (document.fields.entries.map fun (field, values) => (field, storedValue values))

end Document

end FederatedSearch
