import CatalogGateway.Text.Ranges
import CatalogGateway.Text.Blank
import CatalogGateway.Text.Alphanumeric
import CatalogGateway.Text.Escaped
import CatalogGateway.Text.Numeral
import CatalogGateway.Text.Identifier
import CatalogGateway.Dictionary
import CatalogGateway.Json
import CatalogGateway.Json.Decoding
import CatalogGateway.Diagnostic
import CatalogGateway.Name.Kind
import CatalogGateway.Table.ChangeKind
import CatalogGateway.Time.Duration
import CatalogGateway.Fault
import CatalogGateway.Name.Qualified
import CatalogGateway.Types.Engine
import CatalogGateway.Types.Generic
import CatalogGateway.Types.Mapping
import CatalogGateway.Types.Encoding
import CatalogGateway.Engine.Property
import CatalogGateway.Engine.Table
import CatalogGateway.Table.Change
import CatalogGateway.Properties.Conversion
import CatalogGateway.Provider.Adapter
import CatalogGateway.Time.Instant
import CatalogGateway.Catalog.Audit
import CatalogGateway.Catalog.Definition
import CatalogGateway.Lifecycle.Config
import CatalogGateway.Log.Filter
import CatalogGateway.Store.Memory
import CatalogGateway.Store.Relational
import CatalogGateway.Store.Call
import CatalogGateway.Store.Connector
import CatalogGateway.Alteration.Execution
import CatalogGateway.Catalog.Bridge
import CatalogGateway.Catalog.Routing
import CatalogGateway.Catalog.Factory
import CatalogGateway.Lifecycle.Manager
import CatalogGateway.Lifecycle.Worker
import CatalogGateway.Script.Answer
import CatalogGateway.Script.Catalog
import CatalogGateway.Script.Lifecycle
import CatalogGateway.Proofs.Dictionary.Lookup
import CatalogGateway.Proofs.Json.Reading
import CatalogGateway.Proofs.Engine.Encoding
import CatalogGateway.Proofs.Table.Encoding
import CatalogGateway.Proofs.Alteration.Execution
import CatalogGateway.Proofs.Alteration.Meaning
import CatalogGateway.Proofs.Catalog.Frame
import CatalogGateway.Proofs.Catalog.Tended
import CatalogGateway.Proofs.Store.FailedCalls
import CatalogGateway.Proofs.Store.Transactions
import CatalogGateway.Proofs.Alteration.Splitting
import CatalogGateway.Proofs.Catalog.Splitting
import CatalogGateway.Proofs.Catalog.ReadBack
import CatalogGateway.Proofs.Catalog.Listings
import CatalogGateway.Proofs.Service.Coherence
import CatalogGateway.Proofs.Lifecycle.Constructions
import CatalogGateway.Proofs.Lifecycle.Fates
import CatalogGateway.Proofs.Lifecycle.Accounts
import CatalogGateway.Proofs.Lifecycle.Consistency
import CatalogGateway.Proofs.Lifecycle.Resolution
import CatalogGateway.Proofs.Types.Equivalence
import CatalogGateway.Proofs.Types.RoundTrip
import CatalogGateway.Proofs.Types.Unsupported
import CatalogGateway.Proofs.Types.EngineRoundTrip
import CatalogGateway.Proofs.Lifecycle.Retention
import CatalogGateway.Proofs.Properties.Settled
import CatalogGateway.Proofs.Provider.HiveLayout
import CatalogGateway.Proofs.Provider.IcebergLayout
import CatalogGateway.Proofs.Provider.Layouts
import CatalogGateway.Proofs.Provider.RoundTrip
import CatalogGateway.Proofs.Provider.KeptProperties
import CatalogGateway.Proofs.Store.Invariants
import CatalogGateway.Proofs.Store.Whereabouts
import CatalogGateway.Proofs.Store.StoredValues
import CatalogGateway.Proofs.Lifecycle.Orders
import CatalogGateway.Proofs.Lifecycle.Repetition
import CatalogGateway.Proofs.Lifecycle.Ownership
import CatalogGateway.Proofs.Provider.ReturnedProperties
import CatalogGateway.Proofs.Provider.Policies
import CatalogGateway.Proofs.Catalog.LayoutColumns
import CatalogGateway.Proofs.Catalog.Separation
import CatalogGateway.Proofs.Catalog.Rejection
import CatalogGateway.Proofs.Provider.WrittenTransforms
import CatalogGateway.Proofs.Provider.WrittenSortKeys
import CatalogGateway.Proofs.Name.Dotted
import CatalogGateway.Proofs.Name.Depth
