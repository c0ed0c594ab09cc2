import Dialogue.Action
import Dialogue.Catalog
import Dialogue.CommandLine
import Dialogue.Condition
import Dialogue.Console
import Dialogue.Context
import Dialogue.Context.Record
import Dialogue.Conversation.Basic
import Dialogue.Conversation.Command
import Dialogue.Conversation.Floor
import Dialogue.Document.Basic
import Dialogue.Document.Fields
import Dialogue.Document.Scalar
import Dialogue.Double.Basic
import Dialogue.Double.Layout
import Dialogue.Double.Shortest
import Dialogue.Engine
import Dialogue.Engine.Record
import Dialogue.Error
import Dialogue.Files
import Dialogue.Instant
import Dialogue.Interaction
import Dialogue.Main
import Dialogue.Path
import Dialogue.Pattern.Basic
import Dialogue.Pattern.Class
import Dialogue.Pattern.Reader
import Dialogue.Presenter
import Dialogue.Proofs.Addresses
import Dialogue.Proofs.Admission
import Dialogue.Proofs.Agenda
import Dialogue.Proofs.Answers
import Dialogue.Proofs.Attempts
import Dialogue.Proofs.Cancellation
import Dialogue.Proofs.Ceiling
import Dialogue.Proofs.Comparison
import Dialogue.Proofs.Completion
import Dialogue.Proofs.ConditionGrammar
import Dialogue.Proofs.ConditionText
import Dialogue.Proofs.ContextText
import Dialogue.Proofs.Delivery
import Dialogue.Proofs.Description
import Dialogue.Proofs.Entries
import Dialogue.Proofs.Episodes
import Dialogue.Proofs.Fields
import Dialogue.Proofs.Flattening
import Dialogue.Proofs.GoingBack
import Dialogue.Proofs.Inquiries
import Dialogue.Proofs.InstantText
import Dialogue.Proofs.Interchange
import Dialogue.Proofs.Interpolation
import Dialogue.Proofs.LatestFailure
import Dialogue.Proofs.Leases
import Dialogue.Proofs.ListingOrder
import Dialogue.Proofs.Lowercasing
import Dialogue.Proofs.Numbering
import Dialogue.Proofs.Numerals
import Dialogue.Proofs.Onboarding
import Dialogue.Proofs.Pausing
import Dialogue.Proofs.PercentCoding
import Dialogue.Proofs.RecentVisits
import Dialogue.Proofs.Registration
import Dialogue.Proofs.Resumption
import Dialogue.Proofs.Retry
import Dialogue.Proofs.Rollback
import Dialogue.Proofs.Rounding
import Dialogue.Proofs.Sanitizing
import Dialogue.Proofs.Searching
import Dialogue.Proofs.Serializable
import Dialogue.Proofs.Session
import Dialogue.Proofs.Shortest
import Dialogue.Proofs.Simulation
import Dialogue.Proofs.Soundness
import Dialogue.Proofs.Spelling
import Dialogue.Proofs.TakingTurns
import Dialogue.Proofs.Traffic
import Dialogue.Proofs.Transcript
import Dialogue.Proofs.Trimming
import Dialogue.Proofs.Turn
import Dialogue.Proofs.ValueText
import Dialogue.Proofs.Visits
import Dialogue.Proofs.Walk
import Dialogue.Proofs.WellFormed
import Dialogue.Proofs.WorkflowRereading
import Dialogue.Proofs.WorkflowText
import Dialogue.Rule
import Dialogue.Session.Archive
import Dialogue.Session.Database
import Dialogue.Session.Lease
import Dialogue.Session.Memory
import Dialogue.Session.Store
import Dialogue.Session.Table
import Dialogue.Settings
import Dialogue.Settings.EnvironmentFile
import Dialogue.Tally
import Dialogue.Taxpayer.Action
import Dialogue.Taxpayer.Basic
import Dialogue.Taxpayer.Directory
import Dialogue.Taxpayer.Gateway
import Dialogue.Template
import Dialogue.Text.Blank
import Dialogue.Text.Casing
import Dialogue.Text.Category
import Dialogue.Text.Escaped
import Dialogue.Text.Folding
import Dialogue.Text.Lowercase
import Dialogue.Text.Names
import Dialogue.Text.Percent
import Dialogue.Text.Property
import Dialogue.Text.Ranges
import Dialogue.Text.Script
import Dialogue.Text.Split
import Dialogue.Url
import Dialogue.Url.Reader
import Dialogue.Value.Basic
import Dialogue.Value.Numeral
import Dialogue.Value.Path
import Dialogue.Value.Reader
import Dialogue.Value.Text
import Dialogue.Workflow.Basic
import Dialogue.Workflow.Build
import Dialogue.Workflow.Directory
import Dialogue.Workflow.Document
import Dialogue.Workflow.Record
import Dialogue.Workflow.Registry
import Dialogue.Yaml.Cursor
import Dialogue.Yaml.Reader
import Dialogue.Yaml.ScalarText
import Dialogue.Yaml.Token
