import Flotilla.Authority
import Flotilla.Backoff
import Flotilla.Bus
import Flotilla.Deployment
import Flotilla.Event
import Flotilla.Fleet
import Flotilla.GameVersion
import Flotilla.GameVersion.Order
import Flotilla.Gateway
import Flotilla.Http.Call
import Flotilla.Http.Handshake
import Flotilla.Http.Header
import Flotilla.Http.MediaType
import Flotilla.Http.Message
import Flotilla.Http.Percent
import Flotilla.Http.Refusal
import Flotilla.Http.Rejection
import Flotilla.Http.Route
import Flotilla.Http.Service
import Flotilla.Http.Uri
import Flotilla.Id
import Flotilla.Index
import Flotilla.Instant
import Flotilla.Json.Binary64
import Flotilla.Json.Decoder
import Flotilla.Json.Printer
import Flotilla.Json.Reader
import Flotilla.Json.Tree
import Flotilla.Json.Value
import Flotilla.Management.Channel
import Flotilla.Management.Connection
import Flotilla.Management.Endpoint
import Flotilla.Management.Frame
import Flotilla.Observatory
import Flotilla.Page
import Flotilla.Plan
import Flotilla.Registry
import Flotilla.Role
import Flotilla.Server
import Flotilla.Settings
import Flotilla.SocketAddress
import Flotilla.Span
import Flotilla.Status
import Flotilla.Subscription
import Flotilla.Text.Blank
import Flotilla.Text.Digits
import Flotilla.Text.Placeholder
import Flotilla.Text.Split
import Flotilla.Verdict
import Flotilla.Viewer.Envelope
import Flotilla.Viewer.Socket
import Flotilla.Proofs.Watch.Ledger
import Flotilla.Proofs.Watch.Forwarder
import Flotilla.Proofs.Watch.Run
import Flotilla.Proofs.Watch.Account
import Flotilla.Proofs.Watch.Fate
import Flotilla.Proofs.Watch.Progress
import Flotilla.Proofs.Watch.Selection
import Flotilla.Proofs.Watch.Freshness
import Flotilla.Proofs.Watch.Settling
import Flotilla.Proofs.Watch.Refresh
import Flotilla.Proofs.RoleChange.Office
import Flotilla.Proofs.RoleChange.Scene
import Flotilla.Proofs.RoleChange.News
import Flotilla.Proofs.RoleChange.Effect
import Flotilla.Proofs.RoleChange.Admission
import Flotilla.Proofs.Channel.Conduct
import Flotilla.Proofs.Channel.Telling
import Flotilla.Proofs.Channel.Journal
import Flotilla.Proofs.Channel.Station
import Flotilla.Proofs.Channel.Lockstep
import Flotilla.Proofs.Channel.Abreast
import Flotilla.Proofs.Channel.Course
import Flotilla.Proofs.Channel.Ending
import Flotilla.Proofs.Channel.Script
import Flotilla.Proofs.Channel.Promptness
import Flotilla.Proofs.Channel.Seeding
import Flotilla.Proofs.Connection.Conservation
import Flotilla.Proofs.Connection.Outcome
import Flotilla.Proofs.Backoff.Staircase
import Flotilla.Proofs.Fleet.Reaction
import Flotilla.Proofs.Fleet.Harbour
import Flotilla.Proofs.Fleet.Deeds
import Flotilla.Proofs.Fleet.Succession
import Flotilla.Proofs.Fleet.Invalidation
import Flotilla.Proofs.Fleet.Roster
import Flotilla.Proofs.Fleet.Closing
import Flotilla.Proofs.Role.Entries
import Flotilla.Proofs.Http.Footprint
import Flotilla.Proofs.Http.Routing
import Flotilla.Proofs.Http.Dismissal
import Flotilla.Proofs.GameVersion.Comparing
import Flotilla.Proofs.GameVersion.Preorder
import Flotilla.Proofs.Upgrade.Lookup
import Flotilla.Proofs.Upgrade.Gate
import Flotilla.Proofs.Upgrade.Shape
import Flotilla.Proofs.Upgrade.Independence
import Flotilla.Proofs.Upgrade.Mirror
import Flotilla.Proofs.Upgrade.Dates
import Flotilla.Proofs.Upgrade.Support
import Flotilla.Proofs.Upgrade.Spelling
import Flotilla.Proofs.Page.Partition
import Flotilla.Proofs.Page.Browsing
import Flotilla.Proofs.Http.Query
import Flotilla.Proofs.Status.History
import Flotilla.Proofs.Status.Logbook
import Flotilla.Proofs.Text.Numeral
import Flotilla.Proofs.Text.Pieces
import Flotilla.Proofs.Text.Margin
import Flotilla.Proofs.Text.Filling
import Flotilla.Proofs.GameVersion.Grammar
import Flotilla.Proofs.Json.Grammar
import Flotilla.Proofs.Json.Soundness
import Flotilla.Proofs.Json.Surface
import Flotilla.Proofs.Json.Arrangement
import Flotilla.Proofs.Json.Record
import Flotilla.Proofs.Json.Keeping
import Flotilla.Proofs.Json.Cells
import Flotilla.Proofs.Frame.Classification
import Flotilla.Proofs.Frame.Request
import Flotilla.Proofs.Wire.Identifier
import Flotilla.Proofs.Wire.Calendar
import Flotilla.Proofs.Wire.Instant
import Flotilla.Proofs.Wire.Event
import Flotilla.Proofs.Wire.Envelope
import Flotilla.Proofs.Backoff.Notation
import Flotilla.Proofs.Settings.Validation
import Flotilla.Proofs.Settings.Endpoints
import Flotilla.Proofs.Settings.Capacity
import Flotilla.Proofs.Viewing.Run
import Flotilla.Proofs.Viewing.Conversation
import Flotilla.Proofs.Viewing.Refresh
