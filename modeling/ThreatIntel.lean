import ThreatIntel.App.Layout
import ThreatIntel.App.Manifest
import ThreatIntel.App.Package
import ThreatIntel.App.Parameter
import ThreatIntel.Binary64.Basic
import ThreatIntel.Binary64.Shortest
import ThreatIntel.Binary64.Text
import ThreatIntel.Client
import ThreatIntel.Collection.Entities
import ThreatIntel.Collection.Pager
import ThreatIntel.Collection.Walk
import ThreatIntel.Command.Arguments
import ThreatIntel.Command.Basic
import ThreatIntel.Command.Clause
import ThreatIntel.Command.Run
import ThreatIntel.Command.Table
import ThreatIntel.Command.Task
import ThreatIntel.Command.Values
import ThreatIntel.Credentials.Mode
import ThreatIntel.Credentials.Settings
import ThreatIntel.Credentials.Signer
import ThreatIntel.Digest.Blocks
import ThreatIntel.Digest.Hmac
import ThreatIntel.Digest.NamedId
import ThreatIntel.Digest.Sha1
import ThreatIntel.Digest.Sha256
import ThreatIntel.Error
import ThreatIntel.Exchange.Basic
import ThreatIntel.Exchange.Network
import ThreatIntel.Exchange.Server
import ThreatIntel.Exchange.Site
import ThreatIntel.Exchange.Window
import ThreatIntel.Files
import ThreatIntel.Json.Basic
import ThreatIntel.Json.Codec
import ThreatIntel.Json.Document
import ThreatIntel.Json.File
import ThreatIntel.Json.NumberText
import ThreatIntel.Json.Printer
import ThreatIntel.Json.Reader
import ThreatIntel.Main
import ThreatIntel.Notice
import ThreatIntel.Proofs.App.Packages
import ThreatIntel.Proofs.App.Sections
import ThreatIntel.Proofs.App.Selection
import ThreatIntel.Proofs.App.Survival
import ThreatIntel.Proofs.App.Views
import ThreatIntel.Proofs.Binary64.Marks
import ThreatIntel.Proofs.Binary64.Whole
import ThreatIntel.Proofs.Collection.Agreement
import ThreatIntel.Proofs.Collection.Budgets
import ThreatIntel.Proofs.Collection.Completeness
import ThreatIntel.Proofs.Collection.History
import ThreatIntel.Proofs.Collection.Keeping
import ThreatIntel.Proofs.Collection.Law
import ThreatIntel.Proofs.Collection.Listings
import ThreatIntel.Proofs.Collection.Next
import ThreatIntel.Proofs.Collection.Offsets
import ThreatIntel.Proofs.Collection.Passing
import ThreatIntel.Proofs.Collection.Requests
import ThreatIntel.Proofs.Collection.Steps
import ThreatIntel.Proofs.Collection.Termination
import ThreatIntel.Proofs.Command.Checks
import ThreatIntel.Proofs.Command.Clauses
import ThreatIntel.Proofs.Command.Folders
import ThreatIntel.Proofs.Command.Listing
import ThreatIntel.Proofs.Command.Rejections
import ThreatIntel.Proofs.Command.Staging
import ThreatIntel.Proofs.Command.Tasks
import ThreatIntel.Proofs.Exchange.Calls
import ThreatIntel.Proofs.Exchange.Locations
import ThreatIntel.Proofs.Exchange.Notices
import ThreatIntel.Proofs.Exchange.Operations
import ThreatIntel.Proofs.Exchange.Sites
import ThreatIntel.Proofs.Exchange.Statuses
import ThreatIntel.Proofs.Files
import ThreatIntel.Proofs.Json.Forms
import ThreatIntel.Proofs.Json.Keys
import ThreatIntel.Proofs.Json.Objects
import ThreatIntel.Proofs.Json.Ordered
import ThreatIntel.Proofs.Json.Pretty
import ThreatIntel.Proofs.Json.Proper
import ThreatIntel.Proofs.Json.Stable
import ThreatIntel.Proofs.Lists
import ThreatIntel.Proofs.Query.Built
import ThreatIntel.Proofs.Query.Calls
import ThreatIntel.Proofs.Query.Coercion
import ThreatIntel.Proofs.Query.Conformance
import ThreatIntel.Proofs.Query.Dates
import ThreatIntel.Proofs.Query.Determination
import ThreatIntel.Proofs.Query.Edits
import ThreatIntel.Proofs.Query.Epochs
import ThreatIntel.Proofs.Query.Names
import ThreatIntel.Proofs.Query.Reader
import ThreatIntel.Proofs.Query.Spellings
import ThreatIntel.Proofs.Query.Styles
import ThreatIntel.Proofs.Query.WellFormed
import ThreatIntel.Proofs.Record.Entities
import ThreatIntel.Proofs.Record.Rows
import ThreatIntel.Proofs.Resources
import ThreatIntel.Proofs.Settings.Clients
import ThreatIntel.Proofs.Settings.Overrides
import ThreatIntel.Proofs.Settings.Paths
import ThreatIntel.Proofs.Staging.Bytes
import ThreatIntel.Proofs.Staging.Folders
import ThreatIntel.Proofs.Staging.Outcomes
import ThreatIntel.Proofs.Text.Base64
import ThreatIntel.Proofs.Text.Items
import ThreatIntel.Proofs.Text.Lowered
import ThreatIntel.Proofs.Text.Marks
import ThreatIntel.Proofs.Text.Reading
import ThreatIntel.Proofs.Time.Bounded
import ThreatIntel.Proofs.Time.Calendar
import ThreatIntel.Proofs.Time.Canonical
import ThreatIntel.Proofs.Time.Counts
import ThreatIntel.Proofs.Time.Layouts
import ThreatIntel.Proofs.Time.Numbers
import ThreatIntel.Proofs.Time.Parts
import ThreatIntel.Proofs.Time.Phrases
import ThreatIntel.Proofs.Time.Refusals
import ThreatIntel.Proofs.Time.Timestamps
import ThreatIntel.Proofs.Time.Totality
import ThreatIntel.Proofs.Time.Units
import ThreatIntel.Proofs.Url.Bases
import ThreatIntel.Proofs.Url.Blanks
import ThreatIntel.Proofs.Url.Ends
import ThreatIntel.Proofs.Url.Form
import ThreatIntel.Proofs.Url.Joined
import ThreatIntel.Proofs.Url.Kinds
import ThreatIntel.Proofs.Url.Paths
import ThreatIntel.Query.Basic
import ThreatIntel.Query.Filter
import ThreatIntel.Query.Operator
import ThreatIntel.Query.Printer
import ThreatIntel.Query.Schema
import ThreatIntel.Query.ValueType
import ThreatIntel.Record.Basic
import ThreatIntel.Record.Entity
import ThreatIntel.Record.Remote
import ThreatIntel.Record.Schema
import ThreatIntel.Resource
import ThreatIntel.Settings.Basic
import ThreatIntel.Settings.Conversion
import ThreatIntel.Settings.Path
import ThreatIntel.Settings.Sources
import ThreatIntel.Staging
import ThreatIntel.Text.Base64
import ThreatIntel.Text.Blank
import ThreatIntel.Text.CaseTables
import ThreatIntel.Text.Columns
import ThreatIntel.Text.Cut
import ThreatIntel.Text.Decimal
import ThreatIntel.Text.Hexadecimal
import ThreatIntel.Text.Hidden
import ThreatIntel.Text.Literal
import ThreatIntel.Text.Lowercase
import ThreatIntel.Text.Mark
import ThreatIntel.Text.Quoted
import ThreatIntel.Time.Bounded
import ThreatIntel.Time.Calendar
import ThreatIntel.Time.Instant
import ThreatIntel.Time.Layout
import ThreatIntel.Time.MailDate
import ThreatIntel.Time.Reading
import ThreatIntel.Time.Relative
import ThreatIntel.Time.Scan
import ThreatIntel.Time.Timestamp
import ThreatIntel.Toml.Reader
import ThreatIntel.Toml.Scalar
import ThreatIntel.Toml.Table
import ThreatIntel.Toml.Text
import ThreatIntel.Url.Form
import ThreatIntel.Url.Host
import ThreatIntel.Url.Percent
import ThreatIntel.Url.Reader
