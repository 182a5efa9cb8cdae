import PluginAudit.Administration
import PluginAudit.Audit
import PluginAudit.Category
import PluginAudit.Check
import PluginAudit.Check.Collection
import PluginAudit.Check.Repository
import PluginAudit.Checks.EnqueuedAssets
import PluginAudit.Checks.FileType
import PluginAudit.Checks.Files
import PluginAudit.Checks.HeaderFields
import PluginAudit.Checks.License
import PluginAudit.Checks.LinterRules
import PluginAudit.Checks.Obfuscation
import PluginAudit.Checks.PluginReadme
import PluginAudit.Checks.Standard
import PluginAudit.Checks.Trademarks
import PluginAudit.Checks.UnfilteredUploads
import PluginAudit.CommandLine
import PluginAudit.CommandLine.Grammar
import PluginAudit.Config
import PluginAudit.Config.Discovery
import PluginAudit.Config.Warnings
import PluginAudit.Disk
import PluginAudit.Disk.Walk
import PluginAudit.Error
import PluginAudit.Findings
import PluginAudit.Host
import PluginAudit.Host.Call
import PluginAudit.Host.Environment
import PluginAudit.Host.Filters
import PluginAudit.Linter
import PluginAudit.Linter.Phpcs
import PluginAudit.Linter.Script
import PluginAudit.Main
import PluginAudit.Path
import PluginAudit.Pattern
import PluginAudit.Pattern.Automaton
import PluginAudit.Pattern.Literals
import PluginAudit.Pattern.Regex
import PluginAudit.Pattern.Regex.Reader
import PluginAudit.Pattern.Span
import PluginAudit.Plugin.Context
import PluginAudit.Plugin.Header
import PluginAudit.Plugin.Installed
import PluginAudit.Preparation
import PluginAudit.Preparation.DemoPosts
import PluginAudit.Preparation.Held
import PluginAudit.Preparation.MinimalTheme
import PluginAudit.Preparation.SinglePlugin
import PluginAudit.Preparation.Universal
import PluginAudit.Program
import PluginAudit.Readme
import PluginAudit.Rehearsal
import PluginAudit.Report.Color
import PluginAudit.Report.Json
import PluginAudit.Report.Listing
import PluginAudit.Report.Records
import PluginAudit.Report.Style
import PluginAudit.Report.Summary
import PluginAudit.Report.Text
import PluginAudit.Run
import PluginAudit.Run.Arguments
import PluginAudit.Run.Call
import PluginAudit.Run.Request
import PluginAudit.Run.Selection
import PluginAudit.Run.Shared
import PluginAudit.RuntimeEnvironment
import PluginAudit.Session
import PluginAudit.SortedList
import PluginAudit.Text.Character
import PluginAudit.Text.Json
import PluginAudit.Text.Json.Reader
import PluginAudit.Text.Percent
import PluginAudit.Text.Quoted
import PluginAudit.Text.Slicing
import PluginAudit.Text.Unicode.Casing
import PluginAudit.Text.Unicode.Category
import PluginAudit.Text.Unicode.Letters
import PluginAudit.Text.Unicode.Ranges
import PluginAudit.Text.Unicode.Visible
import PluginAudit.Text.Utf8
import PluginAudit.Text.Version
import PluginAudit.Toml
import PluginAudit.Toml.Reader
import PluginAudit.Toml.Scalar
import PluginAudit.World
import PluginAudit.Proofs.Effect
import PluginAudit.Proofs.Host.Lawful
import PluginAudit.Proofs.Host.State
import PluginAudit.Proofs.RuntimeEnvironment
import PluginAudit.Proofs.Preparation.Reversal
import PluginAudit.Proofs.Audit
import PluginAudit.Proofs.Run.History
import PluginAudit.Proofs.Rehearsal
import PluginAudit.Proofs.Run.Restoration
import PluginAudit.Proofs.Run.Lifecycle
import PluginAudit.Proofs.Host.Filters
import PluginAudit.Proofs.Run.Isolation
import PluginAudit.Proofs.Disk
import PluginAudit.Proofs.Preparation.Sparing
import PluginAudit.Proofs.Run.Remains
import PluginAudit.Proofs.Run.Selection
import PluginAudit.Proofs.Disk.Directory
import PluginAudit.Proofs.Disk.Agreement
import PluginAudit.Proofs.Host.Tables
import PluginAudit.Proofs.RuntimeEnvironment.DropIn
import PluginAudit.Proofs.RuntimeEnvironment.Storage
import PluginAudit.Proofs.RuntimeEnvironment.RoundTrip
import PluginAudit.Proofs.Run.Sparing
import PluginAudit.Proofs.Administration
import PluginAudit.Proofs.SiteStorage
import PluginAudit.Proofs.Run.Snapshot
import PluginAudit.Proofs.Run.Wishes
import PluginAudit.Proofs.Pattern.Search
import PluginAudit.Proofs.Pattern.Alternation
import PluginAudit.Proofs.Pattern.Agreement
import PluginAudit.Proofs.Readme.Heading
import PluginAudit.Proofs.Readme.Document
import PluginAudit.Proofs.Readme.RoundTrip
import PluginAudit.Proofs.Readme.Markdown
import PluginAudit.Proofs.Findings
import PluginAudit.Proofs.Checks.EnqueuedAssets
import PluginAudit.Proofs.Run.Visits
import PluginAudit.Proofs.Text.Case
import PluginAudit.Proofs.Plugin.Header
import PluginAudit.Proofs.Preparation.Ownership
import PluginAudit.Proofs.Host.Unordered
import PluginAudit.Proofs.Host.Interchange
import PluginAudit.Proofs.Residue
import PluginAudit.Proofs.Run.Residue
import PluginAudit.Proofs.Run.Agreement
import PluginAudit.Proofs.Checks.Standard
import PluginAudit.Proofs.Administration.Stages
import PluginAudit.Proofs.Administration.Clients
import PluginAudit.Proofs.Administration.Alone
import PluginAudit.Proofs.Checks.Trademarks
import PluginAudit.Proofs.Text.Utf8
import PluginAudit.Proofs.Plugin.Window
import PluginAudit.Proofs.Checks.Profiles
import PluginAudit.Proofs.Report.Listing
import PluginAudit.Proofs.Text.Boundaries
import PluginAudit.Proofs.Pattern.Bytes
import PluginAudit.Proofs.Pattern.Position
import PluginAudit.Proofs.Plugin.Values
import PluginAudit.Proofs.Pattern.Language
import PluginAudit.Proofs.Pattern.Version
import PluginAudit.Proofs.Readme.Invariants
import PluginAudit.Proofs.Audit.Naming
import PluginAudit.Proofs.Text.Json.Equality
import PluginAudit.Proofs.Text.Json.Writing
import PluginAudit.Proofs.Preparation.Keys
import PluginAudit.Proofs.Checks.Pages
import PluginAudit.Proofs.Checks.Sizes
import PluginAudit.Proofs.Checks.Ownership
import PluginAudit.Proofs.Checks.Scope
import PluginAudit.Proofs.Path
import PluginAudit.Proofs.Plugin.Context
import PluginAudit.Proofs.Findings.Files
import PluginAudit.Proofs.Report.Text
import PluginAudit.Proofs.Disk.Tree
import PluginAudit.Proofs.Disk.Walk
import PluginAudit.Proofs.Disk.Walker
import PluginAudit.Proofs.Check.Repository
import PluginAudit.Proofs.Check.Collection
import PluginAudit.Proofs.Text.Order
import PluginAudit.Proofs.Plugin.Installed
import PluginAudit.Proofs.Disk.Following
import PluginAudit.Proofs.Disk.Stepping
import PluginAudit.Proofs.Disk.Links
import PluginAudit.Proofs.Disk.Linked
import PluginAudit.Proofs.Host.Filters.Kinds
import PluginAudit.Proofs.Host.Filters.History
import PluginAudit.Proofs.Path.Ancestors
import PluginAudit.Proofs.Config.Discovery
import PluginAudit.Proofs.Run.Arguments
import PluginAudit.Proofs.Checks.Slugs
import PluginAudit.Proofs.Checks.License
import PluginAudit.Proofs.Checks.Addresses
