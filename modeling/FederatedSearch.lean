import FederatedSearch.Codec.Composed
import FederatedSearch.Codec.Config
import FederatedSearch.Codec.Expression
import FederatedSearch.Codec.Field
import FederatedSearch.Codec.Json
import FederatedSearch.Codec.NumberLiteral
import FederatedSearch.Codec.Request
import FederatedSearch.Codec.Search
import FederatedSearch.Composed.Basic
import FederatedSearch.Composed.Conversion
import FederatedSearch.Composed.Edit
import FederatedSearch.Composed.Matching
import FederatedSearch.Composed.Plan
import FederatedSearch.Error
import FederatedSearch.Federation.Backend
import FederatedSearch.Federation.Execution
import FederatedSearch.Federation.Lowering
import FederatedSearch.Federation.Session
import FederatedSearch.Number.Binary
import FederatedSearch.Number.Numeral
import FederatedSearch.Number.Shortest
import FederatedSearch.Number.Signed
import FederatedSearch.Proofs.Admission
import FederatedSearch.Proofs.AnsweredSearches
import FederatedSearch.Proofs.Attempts
import FederatedSearch.Proofs.BuiltQueries
import FederatedSearch.Proofs.CallProtocol
import FederatedSearch.Proofs.CollectedKeys
import FederatedSearch.Proofs.Counterparts
import FederatedSearch.Proofs.Executions
import FederatedSearch.Proofs.Grouping
import FederatedSearch.Proofs.JoinedDocuments
import FederatedSearch.Proofs.ListResults
import FederatedSearch.Proofs.Plans
import FederatedSearch.Proofs.RequestChecks
import FederatedSearch.Proofs.StoreResponses
import FederatedSearch.Proofs.TokenTexts
import FederatedSearch.Query.Expression
import FederatedSearch.Query.Extraction
import FederatedSearch.Query.Parser
import FederatedSearch.Query.Printer
import FederatedSearch.Query.Token
import FederatedSearch.Search.Core
import FederatedSearch.Search.Facet
import FederatedSearch.Search.Options
import FederatedSearch.Search.Outcome
import FederatedSearch.Settings.Config
import FederatedSearch.Settings.Duration
import FederatedSearch.SortedMap
import FederatedSearch.SortedSet
import FederatedSearch.Sorting.BothEnds
import FederatedSearch.Sorting.Insertion
import FederatedSearch.Sorting.Preorder
import FederatedSearch.Sorting.Quick
import FederatedSearch.Sorting.Runs
import FederatedSearch.Store.Basic
import FederatedSearch.Store.Document
import FederatedSearch.Store.Evaluation
import FederatedSearch.Store.Facets
import FederatedSearch.Store.Ranking
import FederatedSearch.Store.Suggestion
import FederatedSearch.Text.Alphabetic
import FederatedSearch.Text.Blank
import FederatedSearch.Text.Casing
import FederatedSearch.Text.CodeRanges
import FederatedSearch.Text.Cut
import FederatedSearch.Text.Escaped
import FederatedSearch.Text.LowerCase
import FederatedSearch.Text.Unprintable
import FederatedSearch.Translation.Request
import FederatedSearch.Translation.Restoration
import FederatedSearch.Translation.Translator
import FederatedSearch.Value
import FederatedSearch.Proofs.OperandReading
import FederatedSearch.Proofs.CanonicalQueries
import FederatedSearch.Proofs.WrittenQueries
import FederatedSearch.Proofs.ParsedQueries
import FederatedSearch.Proofs.OperatorChains
import FederatedSearch.Proofs.RoundTrips
import FederatedSearch.Proofs.Concurrency
import FederatedSearch.Proofs.FailedSearches
import FederatedSearch.Proofs.Validation
import FederatedSearch.Proofs.PlannedCores
import FederatedSearch.Proofs.QueryInvariants
import FederatedSearch.Proofs.AddedFacets
import FederatedSearch.Proofs.CoreHistories
import FederatedSearch.Proofs.MergedResponses
import FederatedSearch.Proofs.MapEntries
import FederatedSearch.Proofs.TextCuts
import FederatedSearch.Proofs.StoredParts
import FederatedSearch.Proofs.MatchNames
import FederatedSearch.Proofs.Snapshots
import FederatedSearch.Proofs.EditedBundles
import FederatedSearch.Proofs.ComposedRequests
import FederatedSearch.Proofs.AcceptedRequests
import FederatedSearch.Proofs.PrefixedNames
import FederatedSearch.Proofs.RestoredFacets
import FederatedSearch.Proofs.SupportedRequests
import FederatedSearch.Proofs.TextRequests
import FederatedSearch.Proofs.AlikeQueries
import FederatedSearch.Proofs.AlikeOperands
import FederatedSearch.Proofs.QueryTexts
import FederatedSearch.Proofs.RestrictedCores
import FederatedSearch.Proofs.ConvertedQueries
import FederatedSearch.Proofs.ChangedQueries
import FederatedSearch.Proofs.ChangedPhases
import FederatedSearch.Proofs.ConvertedExecutions
import FederatedSearch.Proofs.KeyFilters
import FederatedSearch.Proofs.PlannedKeys
import FederatedSearch.Proofs.UnitedKeys
import FederatedSearch.Proofs.TouchedCores
import FederatedSearch.Proofs.RoutedItems
import FederatedSearch.Proofs.PartedQueries
import FederatedSearch.Proofs.CompleteExtraction
import FederatedSearch.Proofs.ConsistentOrder
import FederatedSearch.Proofs.KeptDocuments
import FederatedSearch.Proofs.DocumentOrder
import FederatedSearch.Proofs.FacetCounts
import FederatedSearch.Proofs.PagedHits
import FederatedSearch.Proofs.ClauseRelations
import FederatedSearch.Proofs.PairOperations
import FederatedSearch.Proofs.ReplayedBundles
import FederatedSearch.Proofs.RestoredOrder
import FederatedSearch.Proofs.NarrowedSearches
import FederatedSearch.Proofs.NarrowedRequests
import FederatedSearch.Proofs.AlikeTerms
import FederatedSearch.Proofs.StoredDocuments
import FederatedSearch.Proofs.QueryShapes
import FederatedSearch.Proofs.CombinedQueries
