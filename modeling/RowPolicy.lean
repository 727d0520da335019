import RowPolicy.Boundary
import RowPolicy.Caller
import RowPolicy.Catalog
import RowPolicy.Config
import RowPolicy.Config.Boundary
import RowPolicy.Config.DataScope
import RowPolicy.Config.Fault
import RowPolicy.Config.Markers
import RowPolicy.Config.Tenancy
import RowPolicy.ConfigFile
import RowPolicy.Context
import RowPolicy.Decoding
import RowPolicy.Document.Json
import RowPolicy.Document.Node
import RowPolicy.Document.Yaml
import RowPolicy.Document.Yaml.Cursor
import RowPolicy.Document.Yaml.Scalar
import RowPolicy.Engine
import RowPolicy.Entries
import RowPolicy.Event
import RowPolicy.Gateway
import RowPolicy.Gateway.Failure
import RowPolicy.Gateway.Header
import RowPolicy.Gateway.MediaType
import RowPolicy.Gateway.Order
import RowPolicy.Main
import RowPolicy.Marker
import RowPolicy.Obstacle
import RowPolicy.Ordered
import RowPolicy.Predicate
import RowPolicy.Program
import RowPolicy.Proofs.Places
import RowPolicy.References
import RowPolicy.Registry
import RowPolicy.Restrict
import RowPolicy.Rewrite
import RowPolicy.RewriteError
import RowPolicy.Rule
import RowPolicy.Rule.DataScope
import RowPolicy.Rule.Tenant
import RowPolicy.Session
import RowPolicy.Snapshot
import RowPolicy.Sql.Batch
import RowPolicy.Sql.Conjunction
import RowPolicy.Sql.Dialect
import RowPolicy.Sql.Ident
import RowPolicy.Sql.Lexer
import RowPolicy.Sql.Operation
import RowPolicy.Sql.Parser
import RowPolicy.Sql.Precedence
import RowPolicy.Sql.Print
import RowPolicy.Sql.Quoted
import RowPolicy.Sql.Reading.Change
import RowPolicy.Sql.Reading.Definition
import RowPolicy.Sql.Reading.Expression
import RowPolicy.Sql.Reading.Name
import RowPolicy.Sql.Reading.Query
import RowPolicy.Sql.Reading.Source
import RowPolicy.Sql.Reading.Statement
import RowPolicy.Sql.Token
import RowPolicy.Sql.Tree
import RowPolicy.Sql.Visit
import RowPolicy.Table
import RowPolicy.Tenant
import RowPolicy.Text.Blank
import RowPolicy.Text.CaseTable
import RowPolicy.Text.Integer
import RowPolicy.Text.LowerCase
import RowPolicy.Text.Split
import RowPolicy.Text.Uuid
import RowPolicy.Proofs.Collection
import RowPolicy.Proofs.RestrictedPlaces
import RowPolicy.Proofs.ClosedQueries
import RowPolicy.Proofs.Placement
import RowPolicy.Proofs.Settlement
import RowPolicy.Proofs.Composition
import RowPolicy.Proofs.ScopedStatements
import RowPolicy.Proofs.JoinPredicates
import RowPolicy.Proofs.NoLeak
import RowPolicy.Proofs.PermittedRows
import RowPolicy.Proofs.LostRows
import RowPolicy.Proofs.Occurrences
import RowPolicy.Proofs.FoldedNames
import RowPolicy.Proofs.TextConstants
import RowPolicy.Proofs.Frames
import RowPolicy.Proofs.TenantVisits
import RowPolicy.Proofs.NormalizedNames
import RowPolicy.Proofs.CollidingNames
import RowPolicy.Proofs.PlacedFilters
import RowPolicy.Proofs.StandardRules
import RowPolicy.Proofs.FailClosed
import RowPolicy.Proofs.EntitledTenants
import RowPolicy.Proofs.Stepwise
import RowPolicy.Proofs.Preservation
import RowPolicy.Proofs.MarkerScopes
import RowPolicy.Proofs.MarkersInForce
import RowPolicy.Proofs.ReportedReleases
import RowPolicy.Proofs.SeparateRequests
import RowPolicy.Proofs.HeaderValues
import RowPolicy.Proofs.Layers
import RowPolicy.Proofs.IllegibleCallers
import RowPolicy.Proofs.PropagatedMarkers
import RowPolicy.Proofs.RenderedTenants
import RowPolicy.Proofs.SanctionedMarkers
import RowPolicy.Proofs.RowTruth
import RowPolicy.Proofs.Outlines
import RowPolicy.Proofs.TakenConditions
import RowPolicy.Proofs.Refilling
import RowPolicy.Proofs.RestrictedReferences
import RowPolicy.Proofs.SparedFilters
import RowPolicy.Proofs.PrecedenceReading
import RowPolicy.Proofs.UncapturedConditions
import RowPolicy.Proofs.ScopeFetches
import RowPolicy.Proofs.OneSnapshot
import RowPolicy.Proofs.Verdicts
import RowPolicy.Proofs.VisibleRows
import RowPolicy.Proofs.LookupNames
import RowPolicy.Proofs.BatchReports
import RowPolicy.Proofs.RememberedMarkers
import RowPolicy.Proofs.OperationKeys
import RowPolicy.Proofs.UuidSpellings
import RowPolicy.Proofs.SameTenants
import RowPolicy.Proofs.UuidLayouts
import RowPolicy.Proofs.NormalTenants
import RowPolicy.Proofs.CallerHeaders
import RowPolicy.Proofs.LoosestOperator
import RowPolicy.Proofs.ServerPrecedence
import RowPolicy.Proofs.FencedFilters
