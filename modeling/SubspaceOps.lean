import SubspaceOps.Binary64.Basic
import SubspaceOps.Binary64.Reader
import SubspaceOps.Binary64.Shortest
import SubspaceOps.Capability
import SubspaceOps.Catalogue
import SubspaceOps.Catalogue.Governance
import SubspaceOps.Catalogue.Graphs
import SubspaceOps.Catalogue.Research
import SubspaceOps.Catalogue.Society
import SubspaceOps.ClockTracker
import SubspaceOps.Declaration.Basic
import SubspaceOps.Declaration.Checked
import SubspaceOps.Declaration.Generation
import SubspaceOps.Declaration.Issue
import SubspaceOps.Declaration.Loading
import SubspaceOps.Declaration.Reader
import SubspaceOps.Digest.Sha2
import SubspaceOps.Digest.Sha256
import SubspaceOps.Digest.Sha512
import SubspaceOps.Ed25519.Curve
import SubspaceOps.Ed25519.Signature
import SubspaceOps.Envelope.Basic
import SubspaceOps.Envelope.Canonical
import SubspaceOps.Envelope.Interchange
import SubspaceOps.Envelope.Signing
import SubspaceOps.Journal
import SubspaceOps.Json.Basic
import SubspaceOps.Json.Reader
import SubspaceOps.Json.Writer
import SubspaceOps.Lifecycle.AllowedOperations
import SubspaceOps.Lifecycle.Creation
import SubspaceOps.Lifecycle.Joining
import SubspaceOps.Lifecycle.Operations
import SubspaceOps.Lifecycle.RequiredTags
import SubspaceOps.OperationModule
import SubspaceOps.Record.Basic
import SubspaceOps.Record.Draft
import SubspaceOps.Record.Field
import SubspaceOps.Record.Setter
import SubspaceOps.Record.Start
import SubspaceOps.Registry.Basic
import SubspaceOps.Registry.Loading
import SubspaceOps.Registry.Skeleton
import SubspaceOps.Rejection
import SubspaceOps.RewardRules
import SubspaceOps.Routing
import SubspaceOps.SubspaceId
import SubspaceOps.Table
import SubspaceOps.Text.Blank
import SubspaceOps.Text.CodeRanges
import SubspaceOps.Text.CombiningClass
import SubspaceOps.Text.Composition
import SubspaceOps.Text.DecimalDigit
import SubspaceOps.Text.Decomposition
import SubspaceOps.Text.Hangul
import SubspaceOps.Text.Hex
import SubspaceOps.Text.Identifier
import SubspaceOps.Text.LineEnd
import SubspaceOps.Text.NormalForm
import SubspaceOps.Text.Numeral
import SubspaceOps.Text.Quoted
import SubspaceOps.Text.Split
import SubspaceOps.Text.Unprintable
import SubspaceOps.Timestamp
import SubspaceOps.Vocabulary
import SubspaceOps.Proofs.Catalogue
import SubspaceOps.Proofs.Registry.Consistency
import SubspaceOps.Proofs.Envelope.Canonical
import SubspaceOps.Proofs.Envelope.Interchange
import SubspaceOps.Proofs.Envelope.LookUps
import SubspaceOps.Proofs.Envelope.Signing
import SubspaceOps.Proofs.Capability.Text
import SubspaceOps.Proofs.Routing.Judgement
import SubspaceOps.Proofs.Routing.Ownership
import SubspaceOps.Proofs.Lifecycle.Creation
import SubspaceOps.Proofs.Record.Assignments
import SubspaceOps.Proofs.Record.Run
import SubspaceOps.Proofs.Record.ReadBack
import SubspaceOps.Proofs.Declaration.Acceptance
import SubspaceOps.Proofs.Record.PairsText
import SubspaceOps.Proofs.Record.ParentTag
import SubspaceOps.Proofs.Record.PayloadAgreement
import SubspaceOps.Proofs.Json.RoundTrip
import SubspaceOps.Proofs.Json.SelfDelimiting
import SubspaceOps.Proofs.Lifecycle.AllowedOperations
import SubspaceOps.Proofs.Lifecycle.CreationRoundTrip
import SubspaceOps.Proofs.Registry.Order
import SubspaceOps.Proofs.Registry.Extension
import SubspaceOps.Proofs.Journal.Line
import SubspaceOps.Proofs.Record.Validity
import SubspaceOps.Proofs.ClockTracker.LastWrite
import SubspaceOps.Proofs.Routing.TagOrder
import SubspaceOps.Proofs.Declaration.WorkingModule
import SubspaceOps.Proofs.Record.Setters
import SubspaceOps.Proofs.ClockTracker.Refusal
import SubspaceOps.Proofs.Registry.Atomicity
import SubspaceOps.Proofs.Capability.Grammar
import SubspaceOps.Proofs.Record.CapabilityTag
import SubspaceOps.Proofs.Capability.RoundTrip
import SubspaceOps.Proofs.Record.LookedUp
import SubspaceOps.Proofs.Envelope.Checking
import SubspaceOps.Proofs.Text.Numeral
import SubspaceOps.Proofs.Steps
import SubspaceOps.Proofs.RewardRules
import SubspaceOps.Proofs.Lifecycle.DeclaredOperations
import SubspaceOps.Proofs.Lifecycle.Joining
import SubspaceOps.Proofs.Lifecycle.Completeness
import SubspaceOps.Proofs.Lifecycle.SharedIdentity
import SubspaceOps.Proofs.Record.FailingSetter
import SubspaceOps.Proofs.Journal.Disclosure
