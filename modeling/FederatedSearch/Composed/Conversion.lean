import FederatedSearch.Composed.Basic

/-! Converting every query of a request from one type to another. -/

namespace FederatedSearch

variable {Q R : Type} {ε : Type}

def Bundle.tryConvert (convert : Q → Except ε R) (bundle : Bundle Q) : Except ε (Bundle R) := do
  let query ← bundle.query.mapM convert
  let filters ← bundle.filters.mapM convert
  let rankQuery ← bundle.rankQuery.mapM convert
  return {
    core := bundle.core
    facets := bundle.facets
    drilldowns := bundle.drilldowns
    query, filters, rankQuery }

def Unite.tryConvert (convert : Q → Except ε R) (unite : Unite Q) : Except ε (Unite R) := do
  let query ← convert unite.query
  return { core := unite.core, keyName := unite.keyName, query }

def Bundle.convert (convert : Q → R) (bundle : Bundle Q) : Bundle R where
  core := bundle.core
  query := bundle.query.map convert
  filters := bundle.filters.map convert
  facets := bundle.facets
  drilldowns := bundle.drilldowns
  rankQuery := bundle.rankQuery.map convert

def Unite.convert (convert : Q → R) (unite : Unite Q) : Unite R where
  core := unite.core
  keyName := unite.keyName
  query := convert unite.query

namespace ComposedQuery

def tryConvert (convert : Q → Except ε R) (query : ComposedQuery Q) :
    Except ε (ComposedQuery R) := do
  let bundles ← query.bundles.mapM (·.tryConvert convert)
  let unites ← query.unites.mapM (·.tryConvert convert)
  return {
    resultsCore := query.resultsCore
    matchings := query.matchings
    options := query.options
    bundles, unites }

def convert (convert : Q → R) (query : ComposedQuery Q) : ComposedQuery R where
  resultsCore := query.resultsCore
  bundles := query.bundles.map (·.convert convert)
  matchings := query.matchings
  unites := query.unites.map (·.convert convert)
  options := query.options

end ComposedQuery

end FederatedSearch
