import Pantheon.Base.BinarySearch
import Pantheon.Base.Comparison
import Pantheon.Base.Directory
import Pantheon.Base.Framing
import Pantheon.Base.Program
import Pantheon.Base.Ownership
import Pantheon.Base.History
import Pantheon.Base.Json
import Pantheon.Base.Reorder
import Pantheon.Base.SortedAssoc
import Pantheon.Base.Table
import Pantheon.Base.Writer
import Pantheon.Config.Digest
import Pantheon.Config.Canonical
import Pantheon.Config.Parse
import Pantheon.Config.Grammar
import Pantheon.Config.RoundTrip
import Pantheon.Config.Decode
import Pantheon.Config.Components
import Pantheon.Config.Model
import Pantheon.Config.Compile
import Pantheon.Config.Declared
import Pantheon.Config.Order
import Pantheon.Cas.LocalFs
import Pantheon.Cas.Staging
import Pantheon.Cas.Integrity
import Pantheon.Planning.Spec
import Pantheon.Planning.Validate
import Pantheon.Planning.Direct
import Pantheon.Execution.Lifecycle
import Pantheon.Store.Schema
import Pantheon.Store.Command
import Pantheon.Store.Workspace
import Pantheon.Artifact.Changeset
import Pantheon.Planning.Scope
import Pantheon.Planning.Glob
import Pantheon.Planning.Goals
import Pantheon.Planning.Registry
import Pantheon.Context.Guidance
import Pantheon.Execution.Binding
import Pantheon.Context.Plan
import Pantheon.Context.Drop
import Pantheon.Execution.Documents
import Pantheon.Context.Identity
import Pantheon.Execution.Candidate
import Pantheon.Execution.Routing
import Pantheon.Execution.Determined
import Pantheon.Execution.Candidates
import Pantheon.Execution.Sandbox
import Pantheon.Execution.Container
import Pantheon.Execution.Resolvable
import Pantheon.Execution.Selection
import Pantheon.Artifact.Revision
import Pantheon.Artifact.Spelling
import Pantheon.Store.Execution
import Pantheon.Store.AgentControl
import Pantheon.Store.Artifacts
import Pantheon.Store.Context
import Pantheon.Store.Planning
import Pantheon.Store.Sandbox
import Pantheon.Store.Scheduling
import Pantheon.Store.Machine
import Pantheon.Store.Frozen
import Pantheon.Store.Activation
import Pantheon.Store.Moves
import Pantheon.Store.Attempts
import Pantheon.Store.Cancellation
import Pantheon.Store.Contact
import Pantheon.Store.Requests
import Pantheon.Store.Submission
import Pantheon.Store.Coverage
import Pantheon.Store.Eligibility
import Pantheon.Store.Journal
import Pantheon.Store.Forward
import Pantheon.Store.Intent
import Pantheon.Store.Ledger
import Pantheon.Store.Materialization
import Pantheon.Store.Operator
import Pantheon.Store.WorkspaceMoves
import Pantheon.Store.Seals
import Pantheon.Store.Production
import Pantheon.Store.Revisions
import Pantheon.Store.Runs
import Pantheon.Store.SandboxMoves
import Pantheon.Store.Service
import Pantheon.Engine.Site
import Pantheon.Engine.Accounting
import Pantheon.Engine.Sealing
import Pantheon.Engine.Capture
import Pantheon.Engine.Configuration
import Pantheon.Engine.Planning
import Pantheon.Engine.Containment
import Pantheon.Engine.Ports
import Pantheon.Engine.Context
import Pantheon.Engine.Operator
import Pantheon.Engine.Sandbox
import Pantheon.Engine.Run
import Pantheon.Engine.Passes
import Pantheon.Engine.Routing
import Pantheon.Engine.PurePorts
import Pantheon.Engine.Provenance
import Pantheon.Engine.Provision
import Pantheon.Engine.Publication
import Pantheon.Engine.Readiness
import Pantheon.Engine.Recovery
import Pantheon.Engine.Workspace
import Pantheon.Cli.Events
