import ContentFilter.Allow.Exceptions
import ContentFilter.Allow.Pause
import ContentFilter.Allow.Trust
import ContentFilter.Browser.Interception
import ContentFilter.Browser.Messages
import ContentFilter.Browser.Navigation
import ContentFilter.CommandLine.Commands
import ContentFilter.CommandLine.Memory
import ContentFilter.CommandLine.Options
import ContentFilter.CommandLine.Run
import ContentFilter.Config.Basic
import ContentFilter.Config.Bus
import ContentFilter.Config.Fault
import ContentFilter.Config.Settings
import ContentFilter.Data.BitSet
import ContentFilter.Data.Distinct
import ContentFilter.Data.KeyMap
import ContentFilter.Domain.Host
import ContentFilter.Domain.International
import ContentFilter.Domain.NameMapping
import ContentFilter.Domain.PublicSuffix
import ContentFilter.Engine.Basic
import ContentFilter.Engine.Custom
import ContentFilter.Engine.Fault
import ContentFilter.Engine.MainEngine
import ContentFilter.Engine.Registry
import ContentFilter.Engine.Session
import ContentFilter.Engine.Snapshot
import ContentFilter.Engine.Source
import ContentFilter.Failure
import ContentFilter.Filter.Cosmetic
import ContentFilter.Filter.Error
import ContentFilter.Filter.Glob
import ContentFilter.Filter.Line
import ContentFilter.Filter.Network
import ContentFilter.Filter.Options
import ContentFilter.Filter.Record
import ContentFilter.Hash
import ContentFilter.Json.Access
import ContentFilter.Json.Basic
import ContentFilter.Json.Decode
import ContentFilter.Json.Fault
import ContentFilter.Json.Mismatch
import ContentFilter.Json.Parser
import ContentFilter.Json.Printer
import ContentFilter.Json.Reader
import ContentFilter.Json.Shape
import ContentFilter.Json.Token
import ContentFilter.Json.Untyped
import ContentFilter.Main
import ContentFilter.Matching.FilterList
import ContentFilter.Matching.Precedence
import ContentFilter.Matching.Query
import ContentFilter.Proofs.Allow.Alarms
import ContentFilter.Proofs.Allow.Ambiguity
import ContentFilter.Proofs.Allow.Exceptions
import ContentFilter.Proofs.Allow.HostExceptions
import ContentFilter.Proofs.Allow.ManagedTrust
import ContentFilter.Proofs.Allow.Negation
import ContentFilter.Proofs.Allow.PauseKey
import ContentFilter.Proofs.Allow.PausedPages
import ContentFilter.Proofs.Allow.Reconcile
import ContentFilter.Proofs.Browser.Allowances
import ContentFilter.Proofs.Browser.Disorder
import ContentFilter.Proofs.Browser.Overlap
import ContentFilter.Proofs.Config.Bus
import ContentFilter.Proofs.Config.BusRun
import ContentFilter.Proofs.Config.ListName
import ContentFilter.Proofs.Data.BitNames
import ContentFilter.Proofs.Data.Distinct
import ContentFilter.Proofs.Data.KeyMap
import ContentFilter.Proofs.Data.Thinned
import ContentFilter.Proofs.Data.Traverse
import ContentFilter.Proofs.Domain.Descent
import ContentFilter.Proofs.Domain.Hostname
import ContentFilter.Proofs.Domain.Lineage
import ContentFilter.Proofs.Domain.Registrable
import ContentFilter.Proofs.Domain.Subdomains
import ContentFilter.Proofs.Engine.Custom
import ContentFilter.Proofs.Engine.Damage
import ContentFilter.Proofs.Engine.Interruption
import ContentFilter.Proofs.Engine.ListFiles
import ContentFilter.Proofs.Engine.PickedElements
import ContentFilter.Proofs.Engine.Publication
import ContentFilter.Proofs.Engine.Registry
import ContentFilter.Proofs.Engine.Reload
import ContentFilter.Proofs.Engine.ReloadRun
import ContentFilter.Proofs.Engine.Restart
import ContentFilter.Proofs.Engine.Restore
import ContentFilter.Proofs.Engine.Setup
import ContentFilter.Proofs.Engine.Snapshot
import ContentFilter.Proofs.Engine.Union
import ContentFilter.Proofs.Engine.Upkeep
import ContentFilter.Proofs.Filter.AddressPrefix
import ContentFilter.Proofs.Filter.Arguments
import ContentFilter.Proofs.Filter.Body
import ContentFilter.Proofs.Filter.CallText
import ContentFilter.Proofs.Filter.Cosmetic
import ContentFilter.Proofs.Filter.Glob
import ContentFilter.Proofs.Filter.HostFilter
import ContentFilter.Proofs.Filter.LeadingStar
import ContentFilter.Proofs.Filter.Lines
import ContentFilter.Proofs.Filter.Options
import ContentFilter.Proofs.Filter.Parsed
import ContentFilter.Proofs.Filter.Picked
import ContentFilter.Proofs.Filter.Reading
import ContentFilter.Proofs.Filter.Record
import ContentFilter.Proofs.Filter.Restrictions
import ContentFilter.Proofs.Filter.RightAnchor
import ContentFilter.Proofs.Filter.ScriptletLine
import ContentFilter.Proofs.Filter.Splitting
import ContentFilter.Proofs.Hash.Crc32
import ContentFilter.Proofs.Interleaving
import ContentFilter.Proofs.Json.Decode
import ContentFilter.Proofs.Json.RoundTrip
import ContentFilter.Proofs.Json.Scanner
import ContentFilter.Proofs.Matching.Answers
import ContentFilter.Proofs.Matching.CosmeticIndex
import ContentFilter.Proofs.Matching.CosmeticOrder
import ContentFilter.Proofs.Matching.CosmeticScan
import ContentFilter.Proofs.Matching.CutFault
import ContentFilter.Proofs.Matching.Duplicates
import ContentFilter.Proofs.Matching.ExceptionForms
import ContentFilter.Proofs.Matching.FilterList
import ContentFilter.Proofs.Matching.LetterCase
import ContentFilter.Proofs.Matching.NetworkIndex
import ContentFilter.Proofs.Matching.PageRules
import ContentFilter.Proofs.Matching.Precedence
import ContentFilter.Proofs.Matching.Redirect
import ContentFilter.Proofs.Matching.RedirectNames
import ContentFilter.Proofs.Matching.Response
import ContentFilter.Proofs.Matching.ScriptletNames
import ContentFilter.Proofs.Matching.SelectorLists
import ContentFilter.Proofs.Matching.StyleBlocks
import ContentFilter.Proofs.Matching.StyleSheet
import ContentFilter.Proofs.Matching.TwoPasses
import ContentFilter.Proofs.Rule.ConstantHost
import ContentFilter.Proofs.Rule.Convert
import ContentFilter.Proofs.Rule.CustomFilters
import ContentFilter.Proofs.Rule.ExceptionsRace
import ContentFilter.Proofs.Rule.ExceptionsStep
import ContentFilter.Proofs.Rule.Exemptions
import ContentFilter.Proofs.Rule.Filing
import ContentFilter.Proofs.Rule.FixesInForce
import ContentFilter.Proofs.Rule.HostOrder
import ContentFilter.Proofs.Rule.Incremental
import ContentFilter.Proofs.Rule.Keeper
import ContentFilter.Proofs.Rule.Replace
import ContentFilter.Proofs.Rule.ShippedRulesets
import ContentFilter.Proofs.Rule.SyncHost
import ContentFilter.Proofs.Rule.SyncRun
import ContentFilter.Proofs.Rule.SyncStep
import ContentFilter.Proofs.Rule.Turnover
import ContentFilter.Proofs.Service.Course
import ContentFilter.Proofs.Service.Start
import ContentFilter.Proofs.Service.System
import ContentFilter.Proofs.Service.Turns
import ContentFilter.Proofs.Task
import ContentFilter.Proofs.Text.Basic
import ContentFilter.Proofs.Text.Lower
import ContentFilter.Proofs.Text.Utf8
import ContentFilter.Proofs.Url.Assembly
import ContentFilter.Regex.Basic
import ContentFilter.Regex.Parser
import ContentFilter.Report
import ContentFilter.Request
import ContentFilter.Resource
import ContentFilter.Rule.Basic
import ContentFilter.Rule.Configured
import ContentFilter.Rule.Convert
import ContentFilter.Rule.Family
import ContentFilter.Rule.Fixes
import ContentFilter.Rule.Host
import ContentFilter.Rule.Mismatch
import ContentFilter.Rule.Replace
import ContentFilter.Rule.Sync
import ContentFilter.Service
import ContentFilter.Task
import ContentFilter.Text.Basic
import ContentFilter.Text.Decimal
import ContentFilter.Text.Punycode
import ContentFilter.Text.Utf8
import ContentFilter.Unicode.Break
import ContentFilter.Unicode.Case
import ContentFilter.Unicode.Category
import ContentFilter.Unicode.Class
import ContentFilter.Unicode.Combining
import ContentFilter.Unicode.Direction
import ContentFilter.Unicode.Property
import ContentFilter.Unicode.Script
import ContentFilter.Unicode.Span
import ContentFilter.Url.Absolute
import ContentFilter.Url.Host
import ContentFilter.Url.Location
import ContentFilter.Url.Path
import ContentFilter.Url.Percent
