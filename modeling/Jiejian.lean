import Jiejian.Jobs.Inversion
import Jiejian.Library.Lease
import Jiejian.Jobs.Safety
import Jiejian.Jobs.Agreement
import Jiejian.Jobs.EventLog
import Jiejian.Jobs.LeasedSafety
import Jiejian.Library.ByteString
import Jiejian.Records.History
import Jiejian.Records.Frames
import Jiejian.Records.Journal
import Jiejian.Records.Chains
import Jiejian.Records.Restoration
import Jiejian.Records.Truncation
import Jiejian.Records.Models
import Jiejian.Records.TransactionStore
import Jiejian.Records.Calls
import Jiejian.Records.Changes
import Jiejian.Records.VersionChain
import Jiejian.Records.StoreHistory
import Jiejian.Library.Document
import Jiejian.Library.Sorting
import Jiejian.Protocol.Codec
import Jiejian.Protocol.Conditions
import Jiejian.Protocol.Cases
import Jiejian.Protocol.Actions
import Jiejian.Protocol.Scenarios
import Jiejian.Protocol.Requests
import Jiejian.Preparation.Models
import Jiejian.Preparation.Identities
import Jiejian.Preparation.Requirements
import Jiejian.Checks.Plan
import Jiejian.Checks.CaseFacts
import Jiejian.Checks.ProjectPlan
import Jiejian.Checks.CaseBook
import Jiejian.Preparation.Colors
import Jiejian.Preparation.Merging
import Jiejian.Preparation.Allocation
import Jiejian.Preparation.Slots
import Jiejian.Preparation.Planning
import Jiejian.Verification.Decisions
import Jiejian.Protocol.Runtime
import Jiejian.Repair.Standards
import Jiejian.Repair.Contracts
import Jiejian.Repair.Remaining
import Jiejian.Library.Schema
import Jiejian.Protocol.Pairs
import Jiejian.Protocol.Separation
import Jiejian.Repair.Questions
import Jiejian.Execution.Journal
import Jiejian.Execution.Progress
import Jiejian.Execution.Runs
import Jiejian.Execution.JournalSafety
import Jiejian.Execution.AfterCrash
import Jiejian.Recordings.Models
import Jiejian.Recordings.Captures
import Jiejian.Recordings.Targets
import Jiejian.Recordings.System
import Jiejian.Recordings.Agreement
import Jiejian.Recordings.Handling
import Jiejian.Recordings.Safety
import Jiejian.Recordings.Consistency
import Jiejian.Verification.Continuity
import Jiejian.Verification.Observations
import Jiejian.Verification.Effects
import Jiejian.Protocol.Relationships
import Jiejian.Verification.Overlap
import Jiejian.Verification.BusinessFacts
import Jiejian.Coverage.Candidates
import Jiejian.Coverage.Plan
import Jiejian.Coverage.Targets
import Jiejian.Coverage.Planner
import Jiejian.Coverage.Conflicts
import Jiejian.Library.Grouping
import Jiejian.Records.Collections
import Jiejian.Records.SqliteCapture
import Jiejian.Records.SqliteSource
import Jiejian.Records.SqliteViews
import Jiejian.Records.SqliteHistory
import Jiejian.Records.StoreViews
import Jiejian.Execution.CreatedObjects
import Jiejian.Execution.ObjectViews
import Jiejian.Boundaries.Proposals
import Jiejian.Boundaries.Scenarios
import Jiejian.Boundaries.Candidates
import Jiejian.Boundaries.CandidateService
import Jiejian.Boundaries.Selections
import Jiejian.Boundaries.StandingChoices
import Jiejian.Boundaries.ApprovedChoices
import Jiejian.Library.Walks
import Jiejian.Verification.Ancestry
import Jiejian.Verification.GrantWindows
import Jiejian.Jobs.Cancellation
import Jiejian.Library.Topological
import Jiejian.Traces.Models
import Jiejian.Coverage.Differential
import Jiejian.Traces.Ordering
import Jiejian.Verification.Repetitions
import Jiejian.Coverage.Twins
import Jiejian.Execution.Removals
import Jiejian.Execution.RemovalSafety
import Jiejian.Verification.RecordEvidence
import Jiejian.Preparation.Conflicts
import Jiejian.Preparation.Assurances
import Jiejian.Checks.Projection
import Jiejian.Web.JsonPaths
import Jiejian.Web.JsonReaders
import Jiejian.Library.Placeholders
import Jiejian.Library.Places
import Jiejian.Web.Templates
import Jiejian.Web.Rendering
import Jiejian.Checks.BatchRequests
import Jiejian.Checks.BatchSending
import Jiejian.Library.Segments
import Jiejian.Web.Faithfulness
import Jiejian.Boundaries.Scope
import Jiejian.Boundaries.ScopeDecisions
import Jiejian.Boundaries.Reviews
import Jiejian.Boundaries.ReviewClosure
import Jiejian.Boundaries.ReviewPayload
import Jiejian.Boundaries.ReviewInvalidation
import Jiejian.Library.Builtins
import Jiejian.Observers.EffectProjector
import Jiejian.Observers.Lookback
import Jiejian.Library.Arrangements
import Jiejian.Library.DepthFirst
import Jiejian.Permissions.Contract
import Jiejian.Permissions.Plan
import Jiejian.Permissions.Acceptance
import Jiejian.Permissions.Orders
import Jiejian.Checks.FlowSteps
import Jiejian.Library.Stateful
import Jiejian.Execution.CheckRuntime
import Jiejian.Execution.Executors
import Jiejian.Execution.FlowCalls
import Jiejian.Execution.CaseCalls
import Jiejian.Execution.TargetSafety
import Jiejian.Library.PercentEncoding
import Jiejian.Library.FormEncoding
import Jiejian.Library.Substrings
import Jiejian.Preparation.RecordedRequests
import Jiejian.Web.PathPieces
import Jiejian.Preparation.RecordedRendering
import Jiejian.Preparation.RecordedReplay
import Jiejian.Library.JsonText
import Jiejian.Library.Urls
import Jiejian.Web.Redaction
import Jiejian.Web.Responses
import Jiejian.Web.ResponseFailures
import Jiejian.Web.ResponseSettlement
import Jiejian.Library.Closures
import Jiejian.Breakpoints.CausalGraph
import Jiejian.Breakpoints.Causality
import Jiejian.Breakpoints.Locator
import Jiejian.Breakpoints.Evidence
import Jiejian.Breakpoints.Located
import Jiejian.Breakpoints.Answers
import Jiejian.Library.StrictJson
import Jiejian.Protocol.Wire
import Jiejian.Jobs.Publication
import Jiejian.Jobs.PublicationSafety
import Jiejian.Jobs.PublicationRecovery
