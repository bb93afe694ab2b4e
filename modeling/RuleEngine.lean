import RuleEngine.Document.Errors
import RuleEngine.Document.Rules
import RuleEngine.Document.Templates
import RuleEngine.Document.Types
import RuleEngine.Document.Units
import RuleEngine.Script.Statement
import RuleEngine.Proofs.Memory.Agreement
import RuleEngine.Proofs.RuleUnit.Sources
import RuleEngine.Proofs.World.Firing
import RuleEngine.Proofs.World.Subscriptions
import RuleEngine.Proofs.World.Registration
import RuleEngine.Proofs.World.Calls
import RuleEngine.Proofs.Memory.Ageing
import RuleEngine.Proofs.World.Handles
import RuleEngine.Proofs.Memory.Records
import RuleEngine.Proofs.Session.Numbering
import RuleEngine.Proofs.World.Journal
import RuleEngine.Proofs.World.Partitions
import RuleEngine.Proofs.World.Feeds
import RuleEngine.Proofs.Resolution.Identities
import RuleEngine.Proofs.Rule.BuildErrors
import RuleEngine.Proofs.Workshop.Orders
import RuleEngine.Proofs.Workshop.Deferral
import RuleEngine.Proofs.Workshop.Tokens
import RuleEngine.Proofs.Resolution.Acceptance
import RuleEngine.Proofs.Resolution.Failures
import RuleEngine.Proofs.Rule.Provenance
import RuleEngine.Proofs.Rule.Consistency
import RuleEngine.Proofs.Naming.Reading
import RuleEngine.Proofs.Ty.Unknown
import RuleEngine.Proofs.Value.Hashing
import RuleEngine.Proofs.Session.Typing
import RuleEngine.Proofs.Value.Order
import RuleEngine.Proofs.Template.Changes
import RuleEngine.Proofs.Resolution.Words
import RuleEngine.Proofs.Rule.Words
import RuleEngine.Proofs.Document.Types
import RuleEngine.Proofs.Value.Display
import RuleEngine.Proofs.Template.Layout
