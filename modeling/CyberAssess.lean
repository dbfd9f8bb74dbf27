import CyberAssess.Support.SingleFlight
import CyberAssess.Support.Table
import CyberAssess.Support.Transition
import CyberAssess.Support.Text
import CyberAssess.Support.Checked
import CyberAssess.Support.Json
import CyberAssess.Support.HashChain
import CyberAssess.Audit.Log
import CyberAssess.Guarantees.AuditChain
import CyberAssess.Support.Collections
import CyberAssess.Scan.Requests
import CyberAssess.Scan.ManifestBuilder
import CyberAssess.Scan.PathSandbox
import CyberAssess.Support.JsonAssociations
import CyberAssess.Database.ApprovalSessions
import CyberAssess.Guarantees.ApprovalOnce
import CyberAssess.Guarantees.ExpiryClock
import CyberAssess.Guarantees.FuzzAccounting
import CyberAssess.Guarantees.CoverageTruth
import CyberAssess.Guarantees.SecretMaterial
import CyberAssess.Guarantees.PathContainment
import CyberAssess.Guarantees.ManifestOrder
import CyberAssess.Execution.Dispatch
import CyberAssess.Execution.Settlement
import CyberAssess.Scan.Gateway
import CyberAssess.Guarantees.RunMachine
import CyberAssess.Guarantees.SafeAbort
import CyberAssess.Guarantees.FinishAgreement
import CyberAssess.Guarantees.CapabilityFinish
import CyberAssess.Service.PosixLaunch
import CyberAssess.Guarantees.IdentityAgreement
import CyberAssess.Support.IsoFormat
import CyberAssess.Execution.ProofPayload
import CyberAssess.Guarantees.ProofStorage
import CyberAssess.Guarantees.SettlementRepeat
import CyberAssess.Support.Transaction
import CyberAssess.Support.PercentFormat
import CyberAssess.Queue.CredentialHandoff
import CyberAssess.Guarantees.HandoffBinding
import CyberAssess.Database.Dialect
import CyberAssess.Guarantees.DialectTranslation
import CyberAssess.Database.Statements
import CyberAssess.Guarantees.StatementAgreement
import CyberAssess.Service.SettleConnection
import CyberAssess.Guarantees.SettleRollback
import CyberAssess.Guarantees.Pairing
import CyberAssess.Guarantees.SingleUse
import CyberAssess.Guarantees.Revocation
import CyberAssess.Database.Parents
import CyberAssess.Service.Coordinator
import CyberAssess.Service.ReaperPass
import CyberAssess.Guarantees.Cancellation
import CyberAssess.Guarantees.LiveAuthority
import CyberAssess.Guarantees.OwnershipMachine
import CyberAssess.Guarantees.RecoveryLease
import CyberAssess.Guarantees.ScanLifecycle
import CyberAssess.Service.Settle
import CyberAssess.Service.TerminalReplay
import CyberAssess.Guarantees.TerminalReplay
import CyberAssess.Guarantees.SettlementReplay
import CyberAssess.Guarantees.ReplayAgreement
import CyberAssess.Support.Utf8
import CyberAssess.Service.Supervisor
import CyberAssess.Guarantees.ExitOutcome
import CyberAssess.Service.CancelExecution
import CyberAssess.Service.Interleaved
import CyberAssess.Guarantees.Confirmation
import CyberAssess.Access.Scopes
import CyberAssess.Access.Tokens
import CyberAssess.Guarantees.KeyRotation
import CyberAssess.Access.Principals
import CyberAssess.Guarantees.Containment
import CyberAssess.Support.IpAddress
import CyberAssess.Scan.Address
import CyberAssess.Guarantees.PinnedDestination
import CyberAssess.Support.Interaction
import CyberAssess.Support.JsonStrings
import CyberAssess.Support.JsonValues
import CyberAssess.Queue.Binding
import CyberAssess.Queue.Failure
import CyberAssess.Queue.Redis
import CyberAssess.Queue.Durable
import CyberAssess.Queue.Consumer
import CyberAssess.Queue.Operator
import CyberAssess.Queue.System
import CyberAssess.Guarantees.WireAgreement
import CyberAssess.Guarantees.PoisonBound
import CyberAssess.Guarantees.FailureEvidence
import CyberAssess.Guarantees.SinglePublication
import CyberAssess.Guarantees.BindingCodec
import CyberAssess.Scan.RateLimiter
import CyberAssess.Scan.TokenBucket
import CyberAssess.Guarantees.CircuitTrips
import CyberAssess.Guarantees.RateBound
import CyberAssess.Findings.Correlator
import CyberAssess.Findings.Grading
import CyberAssess.Guarantees.Correlation
import CyberAssess.Guarantees.GradeOrder
import CyberAssess.Guarantees.SlaClock
import CyberAssess.Guarantees.AddressPolicy
import CyberAssess.Support.JsonCanonical
import CyberAssess.Guarantees.SealBinding
import CyberAssess.Guarantees.QuarantineCodec
import CyberAssess.Queue.Manager
import CyberAssess.Guarantees.BoundedExecution
import CyberAssess.Support.Base64
import CyberAssess.Support.FloatText
import CyberAssess.Execution.ProofCodec
import CyberAssess.Guarantees.ProofCanonical
import CyberAssess.Guarantees.ObservationFlight
import CyberAssess.Service.ObservationService
import CyberAssess.Findings.Triage
import CyberAssess.Guarantees.TriageSurvival
import CyberAssess.Adapters.Subfinder
import CyberAssess.Guarantees.SubfinderLoss
import CyberAssess.Engines.AstTaint
import CyberAssess.Guarantees.TaintFlow
import CyberAssess.Engines.K8sAuditor
import CyberAssess.Guarantees.ManifestCompleteness
import CyberAssess.Findings.Redaction
import CyberAssess.Engines.SecretScanner
import CyberAssess.Guarantees.SecretMasking
import CyberAssess.Engines.DockerfileAuditor
import CyberAssess.Guarantees.DockerSemantics
import CyberAssess.Exporters.HtmlReport
import CyberAssess.Guarantees.ReportInjection
import CyberAssess.Support.TaskJournal
import CyberAssess.Support.Each
import CyberAssess.Support.HexDigest
import CyberAssess.Migration.Registry
import CyberAssess.Migration.Ledger
import CyberAssess.Migration.Attempts
import CyberAssess.Migration.Coordinator
import CyberAssess.Migration.Shapes
import CyberAssess.Guarantees.MigrationOrder
import CyberAssess.Guarantees.MigrationBlock
import CyberAssess.Guarantees.MigrationCompletion
import CyberAssess.Support.Breadth
import CyberAssess.Engines.Crawler
import CyberAssess.Guarantees.CrawlBounds
import CyberAssess.Guarantees.CrawlDistance
import CyberAssess.Guarantees.TreeTrust
import CyberAssess.Installers.Payload
import CyberAssess.Guarantees.PayloadContainment
import CyberAssess.Installers.Archive
import CyberAssess.Guarantees.PayloadRoundTrip
