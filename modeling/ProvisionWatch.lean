import ProvisionWatch.AllowList
import ProvisionWatch.Api.Collaborators
import ProvisionWatch.Api.Presence
import ProvisionWatch.Api.Reply
import ProvisionWatch.Api.Request
import ProvisionWatch.Api.Watcher
import ProvisionWatch.Classification
import ProvisionWatch.Clock
import ProvisionWatch.CommandLine.Arguments
import ProvisionWatch.CommandLine.Run
import ProvisionWatch.CommandLine.View
import ProvisionWatch.Condition
import ProvisionWatch.Config
import ProvisionWatch.Deployment.Basic
import ProvisionWatch.Deployment.Codec
import ProvisionWatch.Event.Basic
import ProvisionWatch.Event.Codec
import ProvisionWatch.Json.Basic
import ProvisionWatch.Json.Choice
import ProvisionWatch.Json.Codec
import ProvisionWatch.Json.Cursor
import ProvisionWatch.Json.Decoder
import ProvisionWatch.Json.Flaw
import ProvisionWatch.Json.Form
import ProvisionWatch.Json.Reader
import ProvisionWatch.Json.Scalar
import ProvisionWatch.Json.Writer
import ProvisionWatch.Main
import ProvisionWatch.Manager.Basic
import ProvisionWatch.Manager.Counting
import ProvisionWatch.Manager.Step
import ProvisionWatch.Metadata
import ProvisionWatch.Metrics
import ProvisionWatch.MonitorError
import ProvisionWatch.Number.Double
import ProvisionWatch.Number.Shortest
import ProvisionWatch.Pattern.Basic
import ProvisionWatch.Pattern.Bracket
import ProvisionWatch.Pattern.Escape
import ProvisionWatch.Pattern.Flags
import ProvisionWatch.Pattern.Footprint
import ProvisionWatch.Pattern.Reader
import ProvisionWatch.Pattern.Simplify
import ProvisionWatch.Phase
import ProvisionWatch.Probe
import ProvisionWatch.Quota
import ProvisionWatch.Rehearsal.Actions
import ProvisionWatch.Rehearsal.Basic
import ProvisionWatch.Rehearsal.Cluster
import ProvisionWatch.Rehearsal.Settling
import ProvisionWatch.Scope
import ProvisionWatch.Session.Basic
import ProvisionWatch.Session.Inbox
import ProvisionWatch.Session.Opening
import ProvisionWatch.Session.Run
import ProvisionWatch.Sink
import ProvisionWatch.Snapshot
import ProvisionWatch.Subscription.Basic
import ProvisionWatch.Subscription.Delivery
import ProvisionWatch.Subscription.Inputs
import ProvisionWatch.Subscription.Timer
import ProvisionWatch.Target
import ProvisionWatch.Text.Blank
import ProvisionWatch.Text.Decimal
import ProvisionWatch.Text.FormEncoded
import ProvisionWatch.Text.Hexadecimal
import ProvisionWatch.Text.Letters
import ProvisionWatch.Text.Quoted
import ProvisionWatch.Text.Split
import ProvisionWatch.Text.Utf8
import ProvisionWatch.Time.Calendar
import ProvisionWatch.Time.Codec
import ProvisionWatch.Time.Instant
import ProvisionWatch.Time.Rfc3339
import ProvisionWatch.Time.Span
import ProvisionWatch.Unicode.Age
import ProvisionWatch.Unicode.Boundary
import ProvisionWatch.Unicode.CaseFolding
import ProvisionWatch.Unicode.Category
import ProvisionWatch.Unicode.CharSet
import ProvisionWatch.Unicode.Named
import ProvisionWatch.Unicode.Property
import ProvisionWatch.Unicode.Script
import ProvisionWatch.Unicode.ScriptExtension
import ProvisionWatch.Update.Basic
import ProvisionWatch.Update.Codec
import ProvisionWatch.Watch
import ProvisionWatch.Window
import ProvisionWatch.Proofs.Manager.Acts
import ProvisionWatch.Proofs.Manager.Attribution
import ProvisionWatch.Proofs.Manager.Bystanders
import ProvisionWatch.Proofs.Manager.Changes
import ProvisionWatch.Proofs.Manager.Footprint
import ProvisionWatch.Proofs.Manager.InStep
import ProvisionWatch.Proofs.Manager.Independence
import ProvisionWatch.Proofs.Manager.Lane
import ProvisionWatch.Proofs.Manager.LaneChanges
import ProvisionWatch.Proofs.Manager.LaneSteps
import ProvisionWatch.Proofs.Manager.LastWords
import ProvisionWatch.Proofs.Manager.Ledger
import ProvisionWatch.Proofs.Manager.Overlap
import ProvisionWatch.Proofs.Manager.PointRead
import ProvisionWatch.Proofs.Manager.Refusals
import ProvisionWatch.Proofs.Manager.SinkAnswers
import ProvisionWatch.Proofs.Manager.Stopping
import ProvisionWatch.Proofs.Manager.Streams
import ProvisionWatch.Proofs.Manager.Turns
import ProvisionWatch.Proofs.Manager.Context
import ProvisionWatch.Proofs.Manager.Arbitration
import ProvisionWatch.Proofs.Manager.Counts
import ProvisionWatch.Proofs.Manager.Performing
import ProvisionWatch.Proofs.Manager.Stalls
import ProvisionWatch.Proofs.Manager.Accounting
import ProvisionWatch.Proofs.Quota.Balance
import ProvisionWatch.Proofs.Session.Endings
import ProvisionWatch.Proofs.Session.EventSide
import ProvisionWatch.Proofs.Session.InStep
import ProvisionWatch.Proofs.Session.Alike
import ProvisionWatch.Proofs.Session.ForeignEvents
import ProvisionWatch.Proofs.Session.Core
import ProvisionWatch.Proofs.Session.Context
import ProvisionWatch.Proofs.Session.Unstalled
import ProvisionWatch.Proofs.Session.Stalls
import ProvisionWatch.Proofs.Api.Following
import ProvisionWatch.Proofs.Subscription.Cutoff
import ProvisionWatch.Proofs.Subscription.Coalescing
import ProvisionWatch.Proofs.Subscription.Evidence
import ProvisionWatch.Proofs.Subscription.Ageing
import ProvisionWatch.Proofs.Subscription.Announcing
import ProvisionWatch.Proofs.Window.Survival
import ProvisionWatch.Proofs.Deployment.RoundTrip
import ProvisionWatch.Proofs.Time.Calendar
import ProvisionWatch.Proofs.Time.ReadBack
import ProvisionWatch.Proofs.Json.Members
import ProvisionWatch.Proofs.Update.RoundTrip
import ProvisionWatch.Proofs.Pattern.Rows
import ProvisionWatch.Proofs.Pattern.Sight
import ProvisionWatch.Proofs.Pattern.SightInClasses
import ProvisionWatch.Proofs.Pattern.SightInGroups
import ProvisionWatch.Proofs.Pattern.Reading
import ProvisionWatch.Proofs.AllowList.Anchoring
import ProvisionWatch.Proofs.Classification.Progression
import ProvisionWatch.Proofs.Text.Occurring
import ProvisionWatch.Proofs.Watch.Marks
import ProvisionWatch.Proofs.Manager.ExpiredVersions
import ProvisionWatch.Proofs.Session.FirstWords
import ProvisionWatch.Proofs.Manager.FirstWords
import ProvisionWatch.Proofs.Session.Resync
import ProvisionWatch.Proofs.Manager.Resync
import ProvisionWatch.Proofs.Classification.Reports
import ProvisionWatch.Proofs.Classification.Priority
import ProvisionWatch.Proofs.Classification.Relevance
import ProvisionWatch.Proofs.Classification.Estimates
import ProvisionWatch.Proofs.Subscription.Deadline
import ProvisionWatch.Proofs.Classification.Failures
import ProvisionWatch.Proofs.Api.Labels
import ProvisionWatch.Proofs.Quota.Turnover
import ProvisionWatch.Proofs.Event.Chronology
import ProvisionWatch.Proofs.Subscription.Seeding
import ProvisionWatch.Proofs.Manager.RecordedKinds
import ProvisionWatch.Proofs.Scope.Overlap
import ProvisionWatch.Proofs.Text.Stripping
import ProvisionWatch.Proofs.Text.Numerals
import ProvisionWatch.Proofs.Target.Grammar
import ProvisionWatch.Proofs.Target.Canonical
import ProvisionWatch.Proofs.Condition.Merging
import ProvisionWatch.Proofs.Api.Watching
import ProvisionWatch.Proofs.CommandLine.Commands
import ProvisionWatch.Proofs.Rehearsal.Runs
import ProvisionWatch.Proofs.Number.ShortestDigits
