import TenantStore.Account
import TenantStore.Account.Draft
import TenantStore.Account.Group
import TenantStore.Account.NameServer
import TenantStore.Account.Peer
import TenantStore.Account.Policy
import TenantStore.Account.Route
import TenantStore.Account.Settings
import TenantStore.Account.SetupKey
import TenantStore.Account.User
import TenantStore.Address
import TenantStore.Call
import TenantStore.CommandLine.Execution
import TenantStore.CommandLine.Help
import TenantStore.CommandLine.Invocation
import TenantStore.CommandLine.Reading
import TenantStore.CommandLine.Shape
import TenantStore.Config
import TenantStore.Config.Document
import TenantStore.Config.Problem
import TenantStore.Dict
import TenantStore.DnsLabel
import TenantStore.Engine
import TenantStore.FileEngine.Document
import TenantStore.FileEngine.Indices
import TenantStore.FileEngine.Memory
import TenantStore.FileEngine.Migration
import TenantStore.FileEngine.Report
import TenantStore.Files
import TenantStore.Json
import TenantStore.Json.Fields
import TenantStore.Json.Parser
import TenantStore.Json.Printer
import TenantStore.Locks
import TenantStore.Log
import TenantStore.LogLevel
import TenantStore.Lookup
import TenantStore.Main
import TenantStore.Metrics
import TenantStore.Notice
import TenantStore.Problem
import TenantStore.Proofs.AccountDocuments
import TenantStore.Proofs.Accounts
import TenantStore.Proofs.Addresses
import TenantStore.Proofs.CommandLine.FailedConversions
import TenantStore.Proofs.CommandLine.RepeatedConversions
import TenantStore.Proofs.CommandLine.Tasks
import TenantStore.Proofs.ConfigDocuments
import TenantStore.Proofs.Dictionaries
import TenantStore.Proofs.DnsLabels
import TenantStore.Proofs.Documents
import TenantStore.Proofs.Engines.Agreement
import TenantStore.Proofs.Engines.Answers
import TenantStore.Proofs.Engines.Authentication
import TenantStore.Proofs.Engines.Conditions
import TenantStore.Proofs.Engines.Mirroring
import TenantStore.Proofs.Engines.SoleHolders
import TenantStore.Proofs.FileEngine.CheckedSearches
import TenantStore.Proofs.FileEngine.Effects
import TenantStore.Proofs.FileEngine.IndexBacking
import TenantStore.Proofs.FileEngine.IndexCompleteness
import TenantStore.Proofs.FileEngine.IndexExactness
import TenantStore.Proofs.FileEngine.IndexUpdates
import TenantStore.Proofs.FileEngine.LastSavers
import TenantStore.Proofs.FileEngine.LookupFrame
import TenantStore.Proofs.FileEngine.LookupObservation
import TenantStore.Proofs.FileEngine.MigratedAccounts
import TenantStore.Proofs.FileEngine.MigrationReports
import TenantStore.Proofs.FileEngine.MigrationRuns
import TenantStore.Proofs.FileEngine.PeerIdentity
import TenantStore.Proofs.FileEngine.PeerLabels
import TenantStore.Proofs.FileEngine.Rebuilding
import TenantStore.Proofs.FileEngine.Resaving
import TenantStore.Proofs.FileEngine.Searches
import TenantStore.Proofs.FileEngine.Storing
import TenantStore.Proofs.Files
import TenantStore.Proofs.Json.Compact
import TenantStore.Proofs.Json.Indented
import TenantStore.Proofs.Json.Layouts
import TenantStore.Proofs.Json.Portions
import TenantStore.Proofs.Json.Records
import TenantStore.Proofs.Json.Tokens
import TenantStore.Proofs.LabelForms
import TenantStore.Proofs.Locks.Callers
import TenantStore.Proofs.Locks.Queueing
import TenantStore.Proofs.Log
import TenantStore.Proofs.Lookups
import TenantStore.Proofs.Relational.Constraints
import TenantStore.Proofs.Relational.Tables
import TenantStore.Proofs.Spans
import TenantStore.Proofs.Store.Copying
import TenantStore.Proofs.Store.Durability
import TenantStore.Proofs.Store.EmptyFolders
import TenantStore.Proofs.Store.Openings
import TenantStore.Proofs.Store.Results
import TenantStore.Proofs.Store.RoundTrip
import TenantStore.Proofs.Store.Writing
import TenantStore.Proofs.TableEngine.AccountContents
import TenantStore.Proofs.TableEngine.AccountUpdates
import TenantStore.Proofs.TableEngine.BinaryCells
import TenantStore.Proofs.TableEngine.Cells
import TenantStore.Proofs.TableEngine.Clashes
import TenantStore.Proofs.TableEngine.Coherence
import TenantStore.Proofs.TableEngine.Contents
import TenantStore.Proofs.TableEngine.Definitions
import TenantStore.Proofs.TableEngine.FilledAccounts
import TenantStore.Proofs.TableEngine.Filling
import TenantStore.Proofs.TableEngine.Finding
import TenantStore.Proofs.TableEngine.Histories
import TenantStore.Proofs.TableEngine.Installation
import TenantStore.Proofs.TableEngine.Kinds
import TenantStore.Proofs.TableEngine.Leftovers
import TenantStore.Proofs.TableEngine.LegacyDatabases
import TenantStore.Proofs.TableEngine.LoadedParts
import TenantStore.Proofs.TableEngine.Loading
import TenantStore.Proofs.TableEngine.Migrations
import TenantStore.Proofs.TableEngine.MissingColumns
import TenantStore.Proofs.TableEngine.NewDatabase
import TenantStore.Proofs.TableEngine.Overlay
import TenantStore.Proofs.TableEngine.Ownership
import TenantStore.Proofs.TableEngine.PartialRows
import TenantStore.Proofs.TableEngine.Reassembly
import TenantStore.Proofs.TableEngine.Recoding
import TenantStore.Proofs.TableEngine.Refusals
import TenantStore.Proofs.TableEngine.Remains
import TenantStore.Proofs.TableEngine.Reopening
import TenantStore.Proofs.TableEngine.Repetitions
import TenantStore.Proofs.TableEngine.Replacement
import TenantStore.Proofs.TableEngine.Representation
import TenantStore.Proofs.TableEngine.Saving
import TenantStore.Proofs.TableEngine.SchemaUpgrades
import TenantStore.Proofs.TableEngine.Statements
import TenantStore.Proofs.TableEngine.Takeover
import TenantStore.Proofs.TableEngine.Updates
import TenantStore.Proofs.TableEngine.Versions
import TenantStore.Proofs.TableEngine.WrittenRows
import TenantStore.Proofs.Text.Decimal
import TenantStore.Proofs.Toml.Documents
import TenantStore.Proofs.Toml.Texts
import TenantStore.Proofs.Toml.Values
import TenantStore.Relational.Cell
import TenantStore.Relational.Database
import TenantStore.Relational.Declaration
import TenantStore.Relational.Document
import TenantStore.Relational.Table
import TenantStore.Span
import TenantStore.Store
import TenantStore.Store.Choice
import TenantStore.Store.Conversion
import TenantStore.TableEngine.Binary
import TenantStore.TableEngine.Cells
import TenantStore.TableEngine.Queries
import TenantStore.TableEngine.Rows
import TenantStore.TableEngine.Schema
import TenantStore.TableEngine.Upkeep
import TenantStore.Text.Blank
import TenantStore.Text.Case
import TenantStore.Text.CaseTable
import TenantStore.Text.Decimal
import TenantStore.Text.Quoted
import TenantStore.Text.UnprintableTable
import TenantStore.Text.Utf8
import TenantStore.Text.Uuid
import TenantStore.Timestamp
import TenantStore.Toml
import TenantStore.Toml.Fields
import TenantStore.Toml.Moment
import TenantStore.Toml.Number
import TenantStore.Toml.Parser
import TenantStore.Toml.Text
