/-! Facets: documents counted by the categories they stand under. A category is a path, from the
widest category to the narrowest. -/

namespace FederatedSearch

inductive FacetSort where
  | count
deriving DecidableEq

def FacetSort.ofName? (name : String) : Option FacetSort :=
  if name = "count" then some .count else none

def FacetSort.name : FacetSort → String
  | .count => "count"

structure FacetRequest where
  field : String
  path : List String
  maxTerms : Nat
  sort : Option FacetSort
deriving DecidableEq

structure Drilldown where
  field : String
  path : List String
deriving DecidableEq

structure FacetTerm where
  term : String
  count : Nat
  subterms : Option (List FacetTerm)

structure FacetBlock where
  core : Option String
  field : String
  path : List String
  terms : List FacetTerm

def FacetBlock.tagged (core : String) (block : FacetBlock) : FacetBlock :=
  { block with core := some core }

end FederatedSearch
