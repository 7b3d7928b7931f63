import Automation.Action.Basic
import Automation.Action.Standard
import Automation.Catalog
import Automation.Change
import Automation.Clock
import Automation.Condition
import Automation.Context.Basic
import Automation.Context.Contact
import Automation.Context.Event
import Automation.Context.History
import Automation.Context.Reading
import Automation.Context.Tags
import Automation.Failure
import Automation.Fault
import Automation.Instant
import Automation.Instant.Reading
import Automation.Json.Bytes
import Automation.Json.Reader
import Automation.Json.Writer
import Automation.Log.Draft
import Automation.Log.Line
import Automation.Log.Message
import Automation.Log.Pattern
import Automation.Log.Record
import Automation.Log.Setup
import Automation.Number.Binary64
import Automation.Number.Exact
import Automation.Number.IntegerField
import Automation.Number.Layout
import Automation.Number.Numeral
import Automation.Number.Shortest
import Automation.Number.Significant
import Automation.Number.Word
import Automation.Proofs.Context.Asking
import Automation.Proofs.Context.Commuting
import Automation.Proofs.Context.Distinct
import Automation.Proofs.Context.Effect
import Automation.Proofs.Context.Entries
import Automation.Proofs.Context.Event
import Automation.Proofs.Context.Finite
import Automation.Proofs.Context.Firsts
import Automation.Proofs.Context.Footprint
import Automation.Proofs.Context.FullName
import Automation.Proofs.Context.Merging
import Automation.Proofs.Context.Naming
import Automation.Proofs.Context.Notes
import Automation.Proofs.Context.Posted
import Automation.Proofs.Context.Refusing
import Automation.Proofs.Context.Repeating
import Automation.Proofs.Context.Rereading
import Automation.Proofs.Context.Revision
import Automation.Proofs.Context.TagSet
import Automation.Proofs.Context.Threshold
import Automation.Proofs.Context.Typed
import Automation.Proofs.Context.Writing
import Automation.Proofs.Faulty
import Automation.Proofs.List
import Automation.Proofs.Number.Order
import Automation.Proofs.Number.Range
import Automation.Proofs.Run.Announcing
import Automation.Proofs.Run.Arrival
import Automation.Proofs.Run.Carry
import Automation.Proofs.Run.Course
import Automation.Proofs.Run.Finite
import Automation.Proofs.Run.Invariant
import Automation.Proofs.Run.Outcome
import Automation.Proofs.Run.Policy
import Automation.Proofs.Run.Prefix
import Automation.Proofs.Run.Reachable
import Automation.Proofs.Run.Replying
import Automation.Proofs.Run.Reporting
import Automation.Proofs.Run.Reviewed
import Automation.Proofs.Run.Shape
import Automation.Proofs.Run.Stored
import Automation.Proofs.Run.Story
import Automation.Proofs.Run.Telling
import Automation.Proofs.Run.Warning
import Automation.Proofs.Schema.Reading
import Automation.Proofs.Service.Agreement
import Automation.Proofs.Service.Fresh
import Automation.Proofs.Service.Production
import Automation.Proofs.Service.Queue
import Automation.Proofs.Service.Reviewing
import Automation.Proofs.Template.Address
import Automation.Proofs.Template.Replacing
import Automation.Proofs.Template.Substitution
import Automation.Proofs.Text.Trimmed
import Automation.Proofs.Traced
import Automation.Proofs.Value.Given
import Automation.Proofs.Value.Lookup
import Automation.Proofs.Value.Number
import Automation.Proofs.Value.Plain
import Automation.Proofs.Value.Same
import Automation.Proofs.Workflow.Amount
import Automation.Proofs.Workflow.Answering
import Automation.Proofs.Workflow.Edges
import Automation.Proofs.Workflow.Grammar
import Automation.Proofs.Workflow.Issues
import Automation.Proofs.Workflow.Unread
import Automation.Queue.Account
import Automation.Queue.Directory
import Automation.Queue.Envelope
import Automation.Queue.Identifier
import Automation.Queue.Task
import Automation.Run.Engine
import Automation.Run.Result
import Automation.Run.Step
import Automation.Schema.Checked
import Automation.Schema.Field
import Automation.Schema.Problem
import Automation.Service.Endpoint
import Automation.Service.Exchange
import Automation.Service.Path
import Automation.Service.Request
import Automation.Service.Target
import Automation.Settings
import Automation.Template
import Automation.Text.Blank
import Automation.Text.Case
import Automation.Text.Cased
import Automation.Text.DecimalDigit
import Automation.Text.Lines
import Automation.Text.Printable
import Automation.Text.Quoted
import Automation.Value.Basic
import Automation.Value.Identity
import Automation.Value.Number
import Automation.Value.Special
import Automation.Value.Text
import Automation.Workflow.Definition
import Automation.Workflow.Issue
import Automation.Workflow.Node
import Automation.Workflow.Review
import Automation.Workflow.Rule
import Automation.Workflow.Trigger
