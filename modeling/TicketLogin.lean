import TicketLogin.Address.Basic
import TicketLogin.Address.Escapes
import TicketLogin.Address.Host
import TicketLogin.Address.Ipv4
import TicketLogin.Address.Ipv6
import TicketLogin.Address.Pairs
import TicketLogin.Address.Path
import TicketLogin.Address.Reader
import TicketLogin.CommandLine.Arguments
import TicketLogin.CommandLine.Help
import TicketLogin.CommandLine.Run
import TicketLogin.Disk
import TicketLogin.Domain.Basic
import TicketLogin.Domain.Composites
import TicketLogin.Domain.Composition
import TicketLogin.Domain.Directions
import TicketLogin.Domain.Joining
import TicketLogin.Domain.Mapping
import TicketLogin.Domain.Marks
import TicketLogin.Domain.Punycode
import TicketLogin.Domain.Table
import TicketLogin.History
import TicketLogin.Http.Exchange
import TicketLogin.Http.Reference
import TicketLogin.Json.Number
import TicketLogin.Json.Quoted
import TicketLogin.Json.Reader
import TicketLogin.Json.Token
import TicketLogin.Json.Value
import TicketLogin.Json.Writer
import TicketLogin.Main
import TicketLogin.Number.Binary64
import TicketLogin.Number.Shortest
import TicketLogin.Page.Basic
import TicketLogin.Page.Event
import TicketLogin.Page.Pass
import TicketLogin.Proofs.Address.Endpoint
import TicketLogin.Proofs.Address.Following
import TicketLogin.Proofs.Address.Host
import TicketLogin.Proofs.Address.Marks
import TicketLogin.Proofs.Address.Pairs
import TicketLogin.Proofs.Address.ReadBack
import TicketLogin.Proofs.Address.Reading
import TicketLogin.Proofs.Address.Segments
import TicketLogin.Proofs.CommandLine.LifeCycle
import TicketLogin.Proofs.CommandLine.Location
import TicketLogin.Proofs.CommandLine.Login
import TicketLogin.Proofs.CommandLine.Masking
import TicketLogin.Proofs.CommandLine.Usable
import TicketLogin.Proofs.Disk
import TicketLogin.Proofs.History
import TicketLogin.Proofs.History.Moves
import TicketLogin.Proofs.Http.Classification
import TicketLogin.Proofs.Http.Exchange
import TicketLogin.Proofs.Json.Quoted
import TicketLogin.Proofs.Json.Record
import TicketLogin.Proofs.Page.Completion
import TicketLogin.Proofs.Page.Granted
import TicketLogin.Proofs.Page.Invariant
import TicketLogin.Proofs.Page.Notices
import TicketLogin.Proofs.Page.Operations
import TicketLogin.Proofs.Page.PhaseOrder
import TicketLogin.Proofs.Page.Refused
import TicketLogin.Proofs.Page.RepeatedChecks
import TicketLogin.Proofs.Page.Reported
import TicketLogin.Proofs.Page.Scene
import TicketLogin.Proofs.Page.Simulation
import TicketLogin.Proofs.Page.SingleFlight
import TicketLogin.Proofs.Page.SpentTicket
import TicketLogin.Proofs.Page.StoredSession
import TicketLogin.Proofs.Page.Unmounted
import TicketLogin.Proofs.Path
import TicketLogin.Proofs.Redemption
import TicketLogin.Proofs.Session.Clearing
import TicketLogin.Proofs.Session.HomeFolder
import TicketLogin.Proofs.Session.Items
import TicketLogin.Proofs.Session.Masking
import TicketLogin.Proofs.Session.Others
import TicketLogin.Proofs.Session.Persist
import TicketLogin.Proofs.Session.Refinement
import TicketLogin.Proofs.Session.RoundTrip
import TicketLogin.Proofs.Session.Store
import TicketLogin.Proofs.Session.Usable
import TicketLogin.Proofs.Session.Writing
import TicketLogin.Proofs.Settings.LoginAddress
import TicketLogin.Proofs.Settings.Rank
import TicketLogin.Proofs.Text.Boundary
import TicketLogin.Proofs.Text.Percent
import TicketLogin.Proofs.Text.Utf8
import TicketLogin.Proofs.Ticket
import TicketLogin.Redemption
import TicketLogin.Session.Basic
import TicketLogin.Session.Items
import TicketLogin.Session.Store
import TicketLogin.Session.Stored
import TicketLogin.Session.Writing
import TicketLogin.Settings.Basic
import TicketLogin.Settings.File
import TicketLogin.Text.Base64
import TicketLogin.Text.Blank
import TicketLogin.Text.Percent
import TicketLogin.Text.Utf8
import TicketLogin.Ticket.Basic
import TicketLogin.Toml.Item
import TicketLogin.Toml.Quoted
import TicketLogin.Toml.Reader
import TicketLogin.Toml.Scalar
