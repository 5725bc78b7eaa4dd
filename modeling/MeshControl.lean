import MeshControl.Account.Error
import MeshControl.Account.Login
import MeshControl.Account.Operation
import MeshControl.Account.Rehearsal
import MeshControl.Account.Reply
import MeshControl.Account.Server
import MeshControl.Account.Session
import MeshControl.Account.TokenFile
import MeshControl.Address.Canonical
import MeshControl.Address.Ip
import MeshControl.Address.Reader
import MeshControl.Binary64
import MeshControl.CommandLine.Arguments
import MeshControl.CommandLine.Command
import MeshControl.CommandLine.Places
import MeshControl.CommandLine.Program
import MeshControl.CommandLine.Run
import MeshControl.Config.Basic
import MeshControl.Config.File
import MeshControl.Config.Layers
import MeshControl.Daemon.Access
import MeshControl.Daemon.Client
import MeshControl.Daemon.Error
import MeshControl.Daemon.Recovery
import MeshControl.Daemon.Reply
import MeshControl.Daemon.Secret
import MeshControl.Daemon.Service
import MeshControl.Daemon.Snapshot.Agreement
import MeshControl.Daemon.Snapshot.Basic
import MeshControl.Daemon.Snapshot.Follower
import MeshControl.Daemon.Snapshot.Report
import MeshControl.Daemon.Snapshot.Wire
import MeshControl.Daemon.Watch
import MeshControl.Dashboard.Client
import MeshControl.Dashboard.Entities
import MeshControl.Dashboard.Envelope
import MeshControl.Dashboard.Naming
import MeshControl.Dashboard.Operation
import MeshControl.Dashboard.Wire
import MeshControl.Dialogue
import MeshControl.Files.Call
import MeshControl.Files.Tree
import MeshControl.Host.Call
import MeshControl.Host.Confirmation
import MeshControl.Host.Machine
import MeshControl.Host.Programs
import MeshControl.Host.Wire
import MeshControl.Http.Message
import MeshControl.Http.Url
import MeshControl.Http.Url.Authority
import MeshControl.Http.Url.Basic
import MeshControl.Http.Url.Host
import MeshControl.Http.Url.Name
import MeshControl.Http.Url.NameTable
import MeshControl.Identity.Basic
import MeshControl.Identity.Generator
import MeshControl.Identity.Search
import MeshControl.Json.Decoder
import MeshControl.Json.Node
import MeshControl.Json.Printer
import MeshControl.Json.Value
import MeshControl.Main
import MeshControl.NameMap
import MeshControl.Proofs.Account.Attempts
import MeshControl.Proofs.Account.History
import MeshControl.Proofs.Account.Keepers
import MeshControl.Proofs.Account.Keeping
import MeshControl.Proofs.Account.Kinds
import MeshControl.Proofs.Account.Succession
import MeshControl.Proofs.Account.TokenFile
import MeshControl.Proofs.Account.TokenHistory
import MeshControl.Proofs.Address.Display
import MeshControl.Proofs.Address.Expanded
import MeshControl.Proofs.Address.Parts
import MeshControl.Proofs.Address.Placed
import MeshControl.Proofs.Address.Reading
import MeshControl.Proofs.CommandLine.Console
import MeshControl.Proofs.CommandLine.Membership
import MeshControl.Proofs.CommandLine.Questions
import MeshControl.Proofs.CommandLine.Refusal
import MeshControl.Proofs.CommandLine.Setting
import MeshControl.Proofs.CommandLine.Whitelist
import MeshControl.Proofs.Config.File
import MeshControl.Proofs.Config.Layers
import MeshControl.Proofs.Daemon.Agreement
import MeshControl.Proofs.Daemon.Attempt
import MeshControl.Proofs.Daemon.Following
import MeshControl.Proofs.Daemon.OnMachine
import MeshControl.Proofs.Daemon.Questions
import MeshControl.Proofs.Daemon.Rearranged
import MeshControl.Proofs.Daemon.Recovery
import MeshControl.Proofs.Daemon.Refusal
import MeshControl.Proofs.Daemon.Rejection
import MeshControl.Proofs.Daemon.Report
import MeshControl.Proofs.Daemon.Requests
import MeshControl.Proofs.Daemon.Restart
import MeshControl.Proofs.Daemon.Retry
import MeshControl.Proofs.Daemon.Signing
import MeshControl.Proofs.Daemon.Watching
import MeshControl.Proofs.Daemon.Wire
import MeshControl.Proofs.Dashboard.Lookups
import MeshControl.Proofs.Dashboard.Naming
import MeshControl.Proofs.Dashboard.OnMachine
import MeshControl.Proofs.Dashboard.Places
import MeshControl.Proofs.Dashboard.Rejection
import MeshControl.Proofs.Dashboard.Requests
import MeshControl.Proofs.Dashboard.Signing
import MeshControl.Proofs.Dashboard.Updates
import MeshControl.Proofs.Dashboard.Wire
import MeshControl.Proofs.Dialogue.Answered
import MeshControl.Proofs.Dialogue.Begins
import MeshControl.Proofs.Dialogue.Branch
import MeshControl.Proofs.Dialogue.Budget
import MeshControl.Proofs.Dialogue.Guard
import MeshControl.Proofs.Dialogue.Points
import MeshControl.Proofs.Except
import MeshControl.Proofs.Files.Faults
import MeshControl.Proofs.Files.Tree
import MeshControl.Proofs.Host.Approval
import MeshControl.Proofs.Host.Console
import MeshControl.Proofs.Host.Parts
import MeshControl.Proofs.Host.Sends
import MeshControl.Proofs.Host.Wire
import MeshControl.Proofs.Http.Path
import MeshControl.Proofs.Http.Query
import MeshControl.Proofs.Http.Reading
import MeshControl.Proofs.Identity.Prefixes
import MeshControl.Proofs.Identity.Regular
import MeshControl.Proofs.Identity.Schedule
import MeshControl.Proofs.Json.Faithful
import MeshControl.Proofs.Json.Fields
import MeshControl.Proofs.Json.Respelled
import MeshControl.Proofs.Json.Sorted
import MeshControl.Proofs.Json.Tokens
import MeshControl.Proofs.Json.Written
import MeshControl.Proofs.NameMap
import MeshControl.Proofs.Records
import MeshControl.Proofs.Sorting
import MeshControl.Proofs.Terminal.Columns
import MeshControl.Proofs.Terminal.Escapes
import MeshControl.Proofs.Text.Blank
import MeshControl.Proofs.Text.Casing
import MeshControl.Proofs.Text.Digits
import MeshControl.Proofs.Text.Percent
import MeshControl.Proofs.Text.Search
import MeshControl.Proofs.Text.Utf8
import MeshControl.Proofs.Wait.Agreement
import MeshControl.Proofs.Wait.History
import MeshControl.Proofs.Wait.Hosts
import MeshControl.Proofs.Wait.InTurn
import MeshControl.Proofs.Wait.Polls
import MeshControl.Proofs.Wait.Sends
import MeshControl.Proofs.Wait.Shown
import MeshControl.Script
import MeshControl.Terminal.Style
import MeshControl.Text.Blank
import MeshControl.Text.CasingTable
import MeshControl.Text.CodePoints
import MeshControl.Text.Composed
import MeshControl.Text.ComposedTable
import MeshControl.Text.Digits
import MeshControl.Text.Direction
import MeshControl.Text.DirectionTable
import MeshControl.Text.Joining
import MeshControl.Text.JoiningTable
import MeshControl.Text.LetterTable
import MeshControl.Text.Letters
import MeshControl.Text.MarkTable
import MeshControl.Text.Marks
import MeshControl.Text.Percent
import MeshControl.Text.Punycode
import MeshControl.Text.Quoted
import MeshControl.Text.Search
import MeshControl.Text.Utf8
import MeshControl.Text.VisibleTable
import MeshControl.Trace
import MeshControl.Wait.Condition
import MeshControl.Wait.Observer
import MeshControl.Wait.Polling
import MeshControl.Wait.Waiter
