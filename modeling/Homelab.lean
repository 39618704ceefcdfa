import Homelab.Address
import Homelab.Address.Reader
import Homelab.Allocation
import Homelab.Calendar
import Homelab.Cluster
import Homelab.CommandLine
import Homelab.CommandLine.Usage
import Homelab.Console
import Homelab.Console.CellWidth
import Homelab.DepthLimits
import Homelab.Document
import Homelab.Double
import Homelab.Double.Reader
import Homelab.Double.Sum
import Homelab.Draft
import Homelab.Draft.Allocation
import Homelab.Draft.Inventory
import Homelab.Draft.Request
import Homelab.Endpoint
import Homelab.Failure
import Homelab.HostAddress
import Homelab.Inventory
import Homelab.Inventory.Document
import Homelab.Inventory.File
import Homelab.Inventory.Invariant
import Homelab.Json.Reader
import Homelab.Json.Writer
import Homelab.Ledger
import Homelab.Main
import Homelab.Manifest
import Homelab.Markup.Construction
import Homelab.Markup.Cursor
import Homelab.Markup.Document
import Homelab.Markup.Node
import Homelab.Markup.Node.Reader
import Homelab.Markup.Plain
import Homelab.Markup.Scalar
import Homelab.Markup.Time
import Homelab.Markup.Token
import Homelab.Markup.Token.Bare
import Homelab.Markup.Token.Block
import Homelab.Markup.Token.Mark
import Homelab.Markup.Token.Quoted
import Homelab.Markup.Token.Reader
import Homelab.ModuleRun
import Homelab.Process
import Homelab.Proofs.Address.Characters
import Homelab.Proofs.Address.RoundTrip
import Homelab.Proofs.Address.Version4
import Homelab.Proofs.Allocation
import Homelab.Proofs.Allocation.AddressText
import Homelab.Proofs.Allocation.Network
import Homelab.Proofs.Allocation.Subnet
import Homelab.Proofs.CommandLine
import Homelab.Proofs.Double.RoundTrip
import Homelab.Proofs.Double.Rounding
import Homelab.Proofs.Double.Shortest
import Homelab.Proofs.HostAddress
import Homelab.Proofs.HostAddress.Remembered
import Homelab.Proofs.Inventory.Accepted
import Homelab.Proofs.Inventory.Dumped
import Homelab.Proofs.Inventory.Levels
import Homelab.Proofs.Inventory.Merged
import Homelab.Proofs.Inventory.Normal
import Homelab.Proofs.Inventory.Persisted
import Homelab.Proofs.Inventory.ReadBack
import Homelab.Proofs.Inventory.Redumped
import Homelab.Proofs.Inventory.Rewritten
import Homelab.Proofs.Inventory.Rules
import Homelab.Proofs.Inventory.Sorted
import Homelab.Proofs.Inventory.Stored
import Homelab.Proofs.Inventory.Templates
import Homelab.Proofs.Inventory.WellFormed
import Homelab.Proofs.Json.Inserted
import Homelab.Proofs.Json.Lines
import Homelab.Proofs.Json.Number
import Homelab.Proofs.Json.Reordered
import Homelab.Proofs.Json.RoundTrip
import Homelab.Proofs.Json.Shaped
import Homelab.Proofs.Json.Values
import Homelab.Proofs.Ledger.Books
import Homelab.Proofs.Ledger.Calls
import Homelab.Proofs.Ledger.Commit
import Homelab.Proofs.Ledger.Interleaved
import Homelab.Proofs.Ledger.Order
import Homelab.Proofs.Ledger.Sequence
import Homelab.Proofs.Ledger.Sound
import Homelab.Proofs.Ledger.Supply
import Homelab.Proofs.Ledger.Unchanged
import Homelab.Proofs.ModuleRun.Completed
import Homelab.Proofs.ModuleRun.Retry
import Homelab.Proofs.ModuleRun.Secrets
import Homelab.Proofs.ModuleRun.StateFile
import Homelab.Proofs.Reference.Allocated
import Homelab.Proofs.Reference.Beginning
import Homelab.Proofs.Reference.Groups
import Homelab.Proofs.Remote
import Homelab.Proofs.Remote.CommandLine
import Homelab.Proofs.Resolution.Again
import Homelab.Proofs.Resolution.AllServed
import Homelab.Proofs.Resolution.Greedy
import Homelab.Proofs.Resolution.HostAddress
import Homelab.Proofs.Resolution.Lookups
import Homelab.Proofs.Resolution.NewTokens
import Homelab.Proofs.Resolution.Release
import Homelab.Proofs.Resolution.Rerun
import Homelab.Proofs.Resolution.Resolved
import Homelab.Proofs.Resolution.Rewritten
import Homelab.Proofs.Resolution.SetAside
import Homelab.Proofs.Resolution.Spelling
import Homelab.Proofs.Resolution.Throughout
import Homelab.Proofs.Resolution.Untouched
import Homelab.Proofs.Resolution.Walked
import Homelab.Proofs.Schema
import Homelab.Proofs.Shell
import Homelab.Proofs.Site.Commands
import Homelab.Proofs.TemplateBuild
import Homelab.Proofs.TemplateBuild.Completed
import Homelab.Proofs.TemplateBuild.Course
import Homelab.Proofs.TemplateBuild.Failed
import Homelab.Proofs.TemplateBuild.Image
import Homelab.Proofs.TemplateBuild.Recorded
import Homelab.Proofs.TemplateBuild.Resolved
import Homelab.Proofs.TemplateBuild.SetAside
import Homelab.Proofs.TemplateBuild.Shared
import Homelab.Proofs.TemplateManifest
import Homelab.Proofs.Value.Path
import Homelab.Proofs.Vault
import Homelab.Reference
import Homelab.Rehearsal
import Homelab.Rehearsal.Script
import Homelab.Rehearsal.Script.Builtin
import Homelab.Rehearsal.Script.Condition
import Homelab.Rehearsal.Script.Disk
import Homelab.Rehearsal.Script.Escape
import Homelab.Rehearsal.Script.Expansion
import Homelab.Rehearsal.Script.Format
import Homelab.Rehearsal.Script.Formula
import Homelab.Rehearsal.Script.Leading
import Homelab.Rehearsal.Script.Pattern
import Homelab.Rehearsal.Script.Program
import Homelab.Rehearsal.Script.Quantity
import Homelab.Rehearsal.Script.Quoting
import Homelab.Rehearsal.Script.Reader
import Homelab.Rehearsal.Script.Run
import Homelab.Rehearsal.Script.Signal
import Homelab.Rehearsal.Script.State
import Homelab.Rehearsal.Script.Word
import Homelab.Rehearsal.Script.Written
import Homelab.Remote
import Homelab.Resolution
import Homelab.Resolution.Against
import Homelab.Resolution.Pass
import Homelab.Resolution.Rewrite
import Homelab.Schema
import Homelab.Settings
import Homelab.Settings.EnvFile
import Homelab.Shell
import Homelab.Shell.Local
import Homelab.Site
import Homelab.TemplateBuild
import Homelab.Text.Blank
import Homelab.Text.CaseClass
import Homelab.Text.Digit
import Homelab.Text.FilePath
import Homelab.Text.Integer
import Homelab.Text.LetterCase
import Homelab.Text.Lines
import Homelab.Text.Pieces
import Homelab.Text.Printable
import Homelab.Text.Quoted
import Homelab.Text.Utf8
import Homelab.Value
import Homelab.Value.Display
import Homelab.Value.Each
import Homelab.Value.Graph
import Homelab.Value.Path
import Homelab.Value.Written
import Homelab.Vault
import Homelab.Proofs.Shell.Local
