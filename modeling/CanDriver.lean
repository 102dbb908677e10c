import CanDriver.Cli.Arguments
import CanDriver.Cli.Command
import CanDriver.Cli.Dumping
import CanDriver.Cli.Listing
import CanDriver.Cli.Report
import CanDriver.Cli.Run
import CanDriver.Cli.Spec
import CanDriver.Config.Application
import CanDriver.Config.Basic
import CanDriver.Config.Document
import CanDriver.Control.Ancillary
import CanDriver.Control.Message
import CanDriver.Datum
import CanDriver.Delivery
import CanDriver.Errno
import CanDriver.ErrorCode
import CanDriver.Event
import CanDriver.Failure
import CanDriver.Frame.Basic
import CanDriver.Frame.Dlc
import CanDriver.Frame.Filter
import CanDriver.Frame.Text
import CanDriver.Frame.Wire
import CanDriver.Host.Basic
import CanDriver.Host.Call
import CanDriver.Interface.Basic
import CanDriver.Interface.Lifecycle
import CanDriver.Journal
import CanDriver.Kernel.Basic
import CanDriver.Kernel.Call
import CanDriver.Link.Basic
import CanDriver.Link.Request
import CanDriver.Log
import CanDriver.Main
import CanDriver.Reception
import CanDriver.Registry
import CanDriver.Scenario
import CanDriver.Session.Basic
import CanDriver.Session.Interleaving
import CanDriver.Session.Poll
import CanDriver.Session.Registration
import CanDriver.Session.Release
import CanDriver.Session.Worker
import CanDriver.Setup.Basic
import CanDriver.Setup.Step
import CanDriver.Text.Hex
import CanDriver.Text.Numeral
import CanDriver.Text.Plain
import CanDriver.Text.Quoted
import CanDriver.Text.Unprintable
import CanDriver.Time.Duration
import CanDriver.Time.Instant
import CanDriver.Toml.Document
import CanDriver.Toml.Moment
import CanDriver.Toml.Number
import CanDriver.Toml.Printer
import CanDriver.Toml.Quotation
import CanDriver.Toml.Scan
import CanDriver.Toml.Tree
import CanDriver.Toml.Value
import CanDriver.Transmission
import CanDriver.WaitSet
import CanDriver.Words
import CanDriver.Proofs.Polling.Delivery
import CanDriver.Proofs.Sockets.Conservation
import CanDriver.Proofs.Sockets.Coherence
import CanDriver.Proofs.Interleaving.Quiescence
import CanDriver.Proofs.Interleaving.Course
import CanDriver.Proofs.Interleaving.Wakeups
import CanDriver.Proofs.Polling.SingleShot
import CanDriver.Proofs.Sessions.Atomicity
import CanDriver.Proofs.Sessions.Emissions
import CanDriver.Proofs.Sessions.Stages
import CanDriver.Proofs.Sessions.Initialisation
import CanDriver.Proofs.Control.Reading
import CanDriver.Proofs.Text.Numerals
import CanDriver.Proofs.Frames.Layout
import CanDriver.Proofs.CommandLine.Notation
import CanDriver.Proofs.Documents.Values
import CanDriver.Proofs.Documents.RoundTrip
import CanDriver.Proofs.Settings.Retention
import CanDriver.Proofs.Sessions.Operations
import CanDriver.Proofs.Sessions.Settings
import CanDriver.Proofs.Sockets.Configuration
import CanDriver.Proofs.Sockets.Readiness
import CanDriver.Proofs.Frames.RoundTrip
import CanDriver.Proofs.Polling.OneDatagram
import CanDriver.Proofs.Sessions.Silence
import CanDriver.Proofs.Sessions.Stopping
import CanDriver.Proofs.Polling.Panics
import CanDriver.Proofs.Interleaving.Refusal
import CanDriver.Proofs.Sessions.Containment
import CanDriver.Proofs.Sessions.Success
import CanDriver.Proofs.Sessions.Poisoning
import CanDriver.Proofs.Control.Confinement
import CanDriver.Proofs.Handlers.Roster
import CanDriver.Proofs.Handlers.Notices
import CanDriver.Proofs.Polling.Datagrams
import CanDriver.Proofs.Text.Hexadecimal
import CanDriver.Proofs.CommandLine.Rendering
import CanDriver.Proofs.Settings.Section
import CanDriver.Proofs.Sockets.FirstFailure
import CanDriver.Proofs.CommandLine.Sending
import CanDriver.Proofs.Sockets.Membership
import CanDriver.Proofs.Time.Rounding
import CanDriver.Proofs.Polling.Timeouts
import CanDriver.Proofs.Frames.Classic
import CanDriver.Proofs.CommandLine.Filters
import CanDriver.Proofs.Text.Boundaries
import CanDriver.Proofs.Sessions.Naming
import CanDriver.Proofs.Sessions.Uniformity
import CanDriver.Proofs.CommandLine.Listening
import CanDriver.Proofs.Polling.Settling
import CanDriver.Proofs.CommandLine.Channel
import CanDriver.Proofs.CommandLine.Dumping
