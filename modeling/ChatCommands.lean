import ChatCommands.Decimal.Numeral
import ChatCommands.Text.Blank
import ChatCommands.Text.Case
import ChatCommands.Text.Digit
import ChatCommands.Text.Quoted
import ChatCommands.Document.Reader
import ChatCommands.Console
import ChatCommands.Command.Dispatch
import ChatCommands.Command.Reentry
import ChatCommands.Definition.Kind
import ChatCommands.Definition.Record
import ChatCommands.LogSetup
import ChatCommands.Main
import ChatCommands.Naming
import ChatCommands.Registry.Include
import ChatCommands.Sample.Demo
import ChatCommands.Subscriptions
import ChatCommands.Value.Unset
import ChatCommands.Command.Valid
import ChatCommands.Locale.Source
import ChatCommands.Template.Format
import ChatCommands.Value.Part
import ChatCommands.Locale.Question
import ChatCommands.Proofs.Fault.Trigger
import ChatCommands.Proofs.Template.Positional
import ChatCommands.Proofs.Permission.Gate
import ChatCommands.Proofs.Dispatch.Tree
import ChatCommands.Proofs.Dispatch.Path
import ChatCommands.Proofs.Dispatch.Stage
import ChatCommands.Proofs.Dispatch.Calls
import ChatCommands.Proofs.Dispatch.Mediation
import ChatCommands.Proofs.Dispatch.Ending
import ChatCommands.Proofs.Locale.Replies
import ChatCommands.Proofs.Permission.Decision
import ChatCommands.Proofs.Argument.Reading
import ChatCommands.Proofs.Dispatch.Totality
import ChatCommands.Proofs.Dispatch.Commitment
import ChatCommands.Proofs.Dispatch.Views
import ChatCommands.Proofs.Registry.Validity
import ChatCommands.Proofs.Registry.Growth
import ChatCommands.Proofs.Registry.History
import ChatCommands.Proofs.Registry.Selection
import ChatCommands.Proofs.Package.Changes
import ChatCommands.Proofs.Definition.Serial
import ChatCommands.Proofs.Package.Identity
import ChatCommands.Proofs.Registry.Inclusion
import ChatCommands.Proofs.Dispatch.Revision
import ChatCommands.Proofs.Permission.Grant
import ChatCommands.Proofs.Dispatch.Authority
import ChatCommands.Proofs.Dispatch.Scope
import ChatCommands.Proofs.Dispatch.Shortcut
import ChatCommands.Proofs.Dispatch.Depth
import ChatCommands.Proofs.Dispatch.Raised
import ChatCommands.Proofs.Text.Words
import ChatCommands.Proofs.Registry.Intake
import ChatCommands.Proofs.Registry.Shadowing
import ChatCommands.Proofs.Package.Listing
import ChatCommands.Proofs.Registry.Extent
import ChatCommands.Proofs.Dispatch.Standpoint
import ChatCommands.Proofs.Argument.Decomposition
import ChatCommands.Proofs.Dispatch.Position
import ChatCommands.Proofs.Decimal.Rank
import ChatCommands.Proofs.Decimal.Reading
import ChatCommands.Proofs.Decimal.RoundTrip
import ChatCommands.Proofs.Argument.Idempotence
import ChatCommands.Proofs.Value.Equality
import ChatCommands.Proofs.Subscriptions.Membership
import ChatCommands.Proofs.Subscriptions.Accounting
import ChatCommands.Proofs.Permission.Difference
import ChatCommands.Proofs.Permission.Report
import ChatCommands.Proofs.Value.Entries
import ChatCommands.Proofs.Document.Keys
import ChatCommands.Proofs.Locale.Lookup
import ChatCommands.Proofs.Locale.Merge
import ChatCommands.Proofs.Locale.Misses
import ChatCommands.Proofs.Locale.Rebasing
import ChatCommands.Proofs.Registry.Roots
import ChatCommands.Proofs.Command.Shape
import ChatCommands.Proofs.Argument.Literal
import ChatCommands.Proofs.Argument.Mention
import ChatCommands.Subscriptions.Steps
import ChatCommands.Proofs.Subscriptions.Atomicity
import ChatCommands.Proofs.Log.Repetition
import ChatCommands.Proofs.Argument.Alternatives
import ChatCommands.Proofs.Fault.Replacement
