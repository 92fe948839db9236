/-
  The authoritative schema (`pantheon-store/src/migrations.rs`).
  One row type for each table, then the constraints of the migrations: `check` is the row's own
  CHECK clauses, `clash` its unique indexes, `refers` its foreign keys. A text column that a
  check closes to a list of words is an inductive type; digest columns have the digest type,
  which is their length check. Timestamps that nothing reads are left out.
-/
import Pantheon.Base.Writer
import Pantheon.Config.Components
import Pantheon.Execution.Lifecycle
import Pantheon.Planning.Spec

namespace Pantheon

open Relational

/-! ## Rows -/

structure SystemState where
  restoreGeneration : String
  deriving Repr, DecidableEq

structure JournalEpoch where
  nextSequence : Int
  isCurrent : Bool
  deriving Repr, DecidableEq

/-- A journal event; `command` is the causing command's epoch and id, or none. -/
structure JournalEvent where
  journalEpoch : String
  sequence : Int
  eventType : String
  recordedAt : Int
  command : Option (String × String)
  deriving Repr, DecidableEq

structure CommandRow (D : Type) where
  requestHash : D
  journalEpoch : String
  sequence : Int
  recordedAt : Int
  deriving Repr, DecidableEq

structure ConfigurationComponent where
  domain : ComponentDomain
  canonicalJson : String
  deriving Repr, DecidableEq

structure ConfigurationRevision (D : Type) where
  contentDigest : D
  compilerVersion : String
  sourceSetDigest : D
  components : ComponentDigests D
  deriving Repr, DecidableEq

structure ActiveConfiguration where
  revision : Int
  activationSequence : Option Int
  deriving Repr, DecidableEq

structure Goal where
  phase : GoalPhase
  currentRevision : Int
  revision : Int
  terminalTarget : Option GoalPhase
  deriving Repr, DecidableEq

structure GoalRevision (D : Type) where
  contentDigest : D
  canonicalJson : String
  deriving Repr, DecidableEq

structure TaskGraph where
  revision : Int
  deriving Repr, DecidableEq

structure StoredTaskSpec (D : Type) where
  goalId : String
  goalRevision : Int
  canonicalJson : String
  acceptanceDigest : D
  evaluatorRegistryDigest : D
  configurationActivationSequence : Int
  deriving Repr, DecidableEq

structure Task (D : Type) where
  goalId : String
  createdGraphRevision : Int
  phase : TaskPhase
  revision : Int
  terminalTarget : Option TaskPhase
  terminalReasonJson : Option String
  activeRunId : Option String
  specDigest : D
  deriving Repr, DecidableEq

/-- An edge of the only kind there is, `requires_success`. -/
structure TaskGraphEdge where
  goalId : String
  upstreamTaskId : String
  downstreamTaskId : String
  createdGraphRevision : Int
  removedGraphRevision : Option Int
  deriving Repr, DecidableEq

structure PlanningOperation (D : Type) where
  goalId : String
  goalRevision : Int
  expectedGraphRevision : Int
  triggerKind : String
  planningInputDigest : D
  plannerImplementation : String
  plannerVersion : String
  configurationActivationSequence : Int
  state : PlanningState
  revision : Int
  deriving Repr, DecidableEq

structure PlanningRecord (D : Type) where
  proposalDigest : D
  canonicalProposal : String
  normalizationProvenance : String
  deriving Repr, DecidableEq

structure Workspace where
  taskId : String
  repository : String
  sourcePath : String
  requestedBase : String
  resolvedBase : String
  phase : WorkspacePhase
  materialization : Presence
  revision : Int
  deriving Repr, DecidableEq

structure SchedulerState where
  dispatchMode : DispatchMode
  nextServiceSequence : Int
  revision : Int
  deriving Repr, DecidableEq

structure GoalSchedulingState where
  lastServedSequence : Option Int
  revision : Int
  deriving Repr, DecidableEq

structure TaskSchedulingState where
  eligibleSince : Option Int
  nextAttemptAt : Option Int
  lastFailureCode : Option String
  lastFailureDetailJson : Option String
  revision : Int
  deriving Repr, DecidableEq

structure StoredBinding (D : Type) where
  taskId : String
  configurationActivationSequence : Int
  configurationContentDigest : D
  canonicalJson : String
  deriving Repr, DecidableEq

structure StoredSnapshot (D : Type) where
  configurationActivationSequence : Int
  contextPolicyDigest : D
  taskSpecDigest : D
  goalId : String
  goalRevision : Int
  graphRevision : Int
  agentName : String
  agentVersion : Int
  workspaceId : String
  workspaceResolvedBase : String
  canonicalJson : String
  agentSoulDigest : Option D
  agentBehaviorDigest : Option D
  deriving Repr, DecidableEq

structure Run (D : Type) where
  taskId : String
  bindingDigest : D
  contextSourceSnapshotDigest : D
  deriving Repr, DecidableEq

structure RunStatus (D : Type) where
  taskId : String
  phase : RunPhase
  terminalTarget : Option RunPhase
  revision : Int
  activeSlot : Option String
  currentAttemptId : Option String
  candidateDigest : Option D
  deriving Repr, DecidableEq

structure Blob where
  size : Int
  deriving Repr, DecidableEq

structure Artifact where
  artifactKind : String
  canonicalJson : String
  deriving Repr, DecidableEq

structure WorkspaceRevision (D : Type) where
  workspaceId : String
  repository : String
  resolvedBase : String
  stateDigest : D
  canonicalJson : String
  deriving Repr, DecidableEq

structure ContextPlanRow (D : Type) where
  sourceSnapshotDigest : D
  builderVersion : String
  canonicalJson : String
  deriving Repr, DecidableEq

structure RunContextPlan (D : Type) where
  contextSourceSnapshotDigest : D
  contextPlanDigest : D
  deriving Repr, DecidableEq

structure Attempt where
  runId : String
  ordinal : Int
  launchKey : String
  deriving Repr, DecidableEq

structure AttemptStatus where
  runId : String
  observedExecution : Observation
  terminal : Bool
  revision : Int
  launchContactState : LaunchContactState
  launchContactInitiatedAt : Option Int
  launchContactEpoch : Option String
  startedAt : Option Int
  finishedAt : Option Int
  deriving Repr, DecidableEq

structure AgentControlSession (D : Type) where
  attemptId : String
  restoreGeneration : String
  credentialRevision : Int
  credentialHash : D
  credentialRekeyedAt : Option Int
  state : SessionState
  revokedAt : Option Int
  revocationReason : Option String
  deriving Repr, DecidableEq

structure AgentRequest (D : Type) where
  requestHash : D
  operation : AgentOperation
  state : AgentRequestState
  resultRef : Option String
  problemCode : Option String
  deriving Repr, DecidableEq

structure ProductionRecord (D : Type) where
  taskId : String
  attemptId : String
  workspaceRevisionId : String
  artifactDigest : D
  deriving Repr, DecidableEq

structure Candidate where
  taskId : String
  runId : String
  canonicalJson : String
  deriving Repr, DecidableEq

structure CandidateOutputRow (D : Type) where
  artifactDigest : D
  productionRunId : String
  deriving Repr, DecidableEq

structure SandboxInstance (D : Type) where
  runId : String
  sandboxPlanDigest : D
  environmentIdentity : String
  phase : SandboxPhase
  observedPresence : Presence
  revision : Int
  deriving Repr, DecidableEq

structure SandboxProbeEvidence (D : Type) where
  sandboxId : String
  runId : String
  probeName : String
  expected : String
  observed : String
  passed : Bool
  backendDescriptor : String
  backendVersion : String
  platform : String
  architecture : String
  probeImplementationVersion : String
  environmentIdentity : String
  sandboxPlanDigest : D
  launchDecision : LaunchDecision
  deriving Repr, DecidableEq

structure SandboxProbeRow (D : Type) extends SandboxProbeEvidence D where
  recordedAt : Int
  deriving Repr, DecidableEq

/-! ## Tables -/

inductive TableName where
  | systemState
  | journalEpochs
  | eventJournal
  | commands
  | configurationComponents
  | configurationRevisions
  | activeConfiguration
  | goals
  | goalRevisions
  | taskGraphs
  | taskSpecs
  | tasks
  | taskGraphEdges
  | planningOperations
  | planningRecords
  | workspaces
  | schedulerState
  | goalSchedulingState
  | taskSchedulingState
  | executionBindings
  | contextSourceSnapshots
  | runs
  | runStatus
  | blobs
  | artifacts
  | artifactMembers
  | workspaceRevisions
  | contextPlans
  | runContextPlans
  | attempts
  | attemptStatus
  | agentControlSessions
  | agentRequests
  | productionRecords
  | candidates
  | candidateOutputs
  | sandboxInstances
  | sandboxProbeResults
  deriving Repr, DecidableEq

/-- The primary key of each table; a singleton table has one key. -/
abbrev Key (D : Type) : TableName → Type
  | .systemState | .activeConfiguration | .schedulerState => Unit
  | .journalEpochs | .eventJournal | .goals | .taskGraphs | .tasks | .planningOperations
  | .planningRecords | .workspaces | .goalSchedulingState | .taskSchedulingState | .runs
  | .runStatus | .workspaceRevisions | .runContextPlans | .attempts | .attemptStatus
  | .agentControlSessions | .sandboxInstances => String
  | .commands | .agentRequests | .productionRecords => String × String
  | .configurationComponents | .taskSpecs | .executionBindings | .contextSourceSnapshots
  | .blobs | .artifacts | .contextPlans | .candidates => D
  | .configurationRevisions => Int
  | .goalRevisions => String × Int
  | .taskGraphEdges | .sandboxProbeResults => Nat
  | .artifactMembers => D × D
  | .candidateOutputs => D × String

abbrev Row (D : Type) : TableName → Type
  | .systemState => SystemState
  | .journalEpochs => JournalEpoch
  | .eventJournal => JournalEvent
  | .commands => CommandRow D
  | .configurationComponents => ConfigurationComponent
  | .configurationRevisions => ConfigurationRevision D
  | .activeConfiguration => ActiveConfiguration
  | .goals => Goal
  | .goalRevisions => GoalRevision D
  | .taskGraphs => TaskGraph
  | .taskSpecs => StoredTaskSpec D
  | .tasks => Task D
  | .taskGraphEdges => TaskGraphEdge
  | .planningOperations => PlanningOperation D
  | .planningRecords => PlanningRecord D
  | .workspaces => Workspace
  | .schedulerState => SchedulerState
  | .goalSchedulingState => GoalSchedulingState
  | .taskSchedulingState => TaskSchedulingState
  | .executionBindings => StoredBinding D
  | .contextSourceSnapshots => StoredSnapshot D
  | .runs => Run D
  | .runStatus => RunStatus D
  | .blobs => Blob
  | .artifacts => Artifact
  | .artifactMembers => Unit
  | .workspaceRevisions => WorkspaceRevision D
  | .contextPlans => ContextPlanRow D
  | .runContextPlans => RunContextPlan D
  | .attempts => Attempt
  | .attemptStatus => AttemptStatus
  | .agentControlSessions => AgentControlSession D
  | .agentRequests => AgentRequest D
  | .productionRecords => ProductionRecord D
  | .candidates => Candidate
  | .candidateOutputs => CandidateOutputRow D
  | .sandboxInstances => SandboxInstance D
  | .sandboxProbeResults => SandboxProbeRow D

/-- The tables as functions, which is what a foreign key looks at. -/
abbrev Tables (D : Type) : Type := ∀ i, Table (Key D i) (Row D i)

variable {D : Type} [DecidableEq D]

instance decidableEqKey (i : TableName) : DecidableEq (Key D i) := by
  cases i <;> infer_instance

/-! ## Checks -/

/-- `length(text) BETWEEN low AND high`. -/
def lengthBetween (text : String) (low high : Nat) : Prop :=
  low ≤ text.length ∧ text.length ≤ high

instance (text : String) (low high : Nat) : Decidable (lengthBetween text low high) :=
  inferInstanceAs (Decidable (_ ∧ _))

/-- Terminal-intent coherence of a Goal. -/
def Goal.coherent (g : Goal) : Bool :=
  match g.phase with
  | .Planning | .Active | .Evaluating => g.terminalTarget == none
  | .Finalizing => [some .Succeeded, some .Failed, some .Cancelled].contains g.terminalTarget
  | .Succeeded | .Failed | .Cancelled => g.terminalTarget == some g.phase

/-- Terminal-intent coherence of a Task. -/
def Task.coherent (t : Task D) : Bool :=
  match t.phase with
  | .Pending | .Ready | .Active | .Waiting | .Evaluating => t.terminalTarget == none
  | .Finalizing =>
    [some .Succeeded, some .Failed, some .Cancelled, some .Superseded].contains t.terminalTarget
  | .Succeeded | .Failed | .Cancelled | .Superseded => t.terminalTarget == some t.phase

/-- A Workspace is never reported further than what is known to exist. -/
def Workspace.Coherent (w : Workspace) : Prop :=
  (w.phase = .Ready → w.materialization = .Present) ∧
    (w.phase = .Requested → w.materialization = .Absent) ∧
    (w.phase = .Released → w.materialization = .Absent)

instance (w : Workspace) : Decidable w.Coherent := inferInstanceAs (Decidable (_ ∧ _ ∧ _))

/-- A Finalizing Run has a target, a Completed one a Candidate, and the global slot is held
    exactly while the Run is not terminal. -/
def RunStatus.Coherent (r : RunStatus D) : Prop :=
  (r.phase = .Finalizing → r.terminalTarget ≠ none) ∧
    (r.phase = .Completed → r.candidateDigest ≠ none) ∧
    r.activeSlot = if r.phase.isNonterminal then some "global" else none

instance (r : RunStatus D) : Decidable r.Coherent := inferInstanceAs (Decidable (_ ∧ _ ∧ _))

def AttemptStatus.Coherent (a : AttemptStatus) : Prop :=
  (a.launchContactState = .NotContacted ↔ a.launchContactInitiatedAt = none) ∧
    (a.launchContactState = .NotContacted ↔ a.launchContactEpoch = none) ∧
    (a.terminal = false → a.finishedAt = none)

instance (a : AttemptStatus) : Decidable a.Coherent := inferInstanceAs (Decidable (_ ∧ _ ∧ _))

def SandboxInstance.Coherent (s : SandboxInstance D) : Prop :=
  (s.phase = .Ready → s.observedPresence = .Present) ∧
    (s.phase = .Requested → s.observedPresence = .Absent) ∧
    (s.phase = .Released → s.observedPresence = .Absent)

instance (s : SandboxInstance D) : Decidable s.Coherent := inferInstanceAs (Decidable (_ ∧ _ ∧ _))

/-- The CHECK clauses of each table. -/
def check : ∀ i, Key D i → Row D i → Bool
  | .systemState, _, r => decide (r.restoreGeneration.length = 32)
  | .journalEpochs, k, r => decide (k.length = 32 ∧ 1 ≤ r.nextSequence)
  | .eventJournal, k, r =>
    decide (k.length = 32 ∧ 1 ≤ r.sequence ∧ lengthBetween r.eventType 1 128)
  | .commands, k, _ => decide (k.1.length = 32 ∧ lengthBetween k.2 1 128)
  | .configurationRevisions, k, _ => decide (1 ≤ k)
  | .activeConfiguration, _, r => decide (0 < r.revision)
  | .goals, _, r => decide (1 ≤ r.currentRevision ∧ 0 < r.revision ∧ r.coherent)
  | .goalRevisions, k, _ => decide (1 ≤ k.2)
  | .taskGraphs, _, r => decide (0 ≤ r.revision)
  | .tasks, _, r =>
    decide (0 < r.revision ∧ r.coherent ∧ (r.phase.requiresNoRun → r.activeRunId = none) ∧
      (r.phase = .Active → r.activeRunId ≠ none))
  | .taskGraphEdges, _, r =>
    decide (r.upstreamTaskId ≠ r.downstreamTaskId ∧
      r.removedGraphRevision.all (r.createdGraphRevision < ·))
  | .planningOperations, _, r =>
    decide (0 ≤ r.expectedGraphRevision ∧ r.triggerKind = "initial" ∧ 0 < r.revision)
  | .workspaces, _, r =>
    decide (lengthBetween r.repository 1 512 ∧ 0 < r.sourcePath.length ∧
      lengthBetween r.requestedBase 1 255 ∧
      (r.resolvedBase.length = 40 ∨ r.resolvedBase.length = 64) ∧ 0 < r.revision ∧ r.Coherent)
  | .schedulerState, _, r => decide (1 ≤ r.nextServiceSequence ∧ 0 < r.revision)
  | .goalSchedulingState, _, r => decide (r.lastServedSequence.all (1 ≤ ·) ∧ 0 < r.revision)
  | .taskSchedulingState, _, r => decide (0 < r.revision)
  | .runStatus, _, r => decide (0 < r.revision ∧ r.Coherent)
  | .blobs, _, r => decide (0 ≤ r.size)
  | .artifacts, _, r => decide (lengthBetween r.artifactKind 1 128)
  | .workspaceRevisions, k, r =>
    decide (k.length = 32 ∧ lengthBetween r.repository 1 512 ∧
      (r.resolvedBase.length = 40 ∨ r.resolvedBase.length = 64))
  | .contextPlans, _, r => decide (lengthBetween r.builderVersion 1 128)
  | .attempts, k, r => decide (lengthBetween k 1 128 ∧ 1 ≤ r.ordinal ∧ r.launchKey.length = 64)
  | .attemptStatus, _, r => decide (0 < r.revision ∧ r.Coherent)
  | .agentControlSessions, k, r =>
    decide (lengthBetween k 1 128 ∧ r.restoreGeneration.length = 32 ∧ 1 ≤ r.credentialRevision ∧
      (r.state = .ACTIVE ↔ r.revokedAt = none))
  | .agentRequests, k, r =>
    decide (lengthBetween k.1 1 128 ∧ lengthBetween k.2 1 128 ∧
      r.resultRef.all (fun t => decide (lengthBetween t 1 128)) ∧
      r.problemCode.all (fun t => decide (lengthBetween t 1 64)) ∧
      (r.state = .Succeeded ↔ r.resultRef ≠ none) ∧ (r.state = .Failed ↔ r.problemCode ≠ none))
  | .productionRecords, k, _ => decide (lengthBetween k.2 1 128)
  | .candidateOutputs, k, _ => decide (lengthBetween k.2 1 128)
  | .sandboxInstances, k, r =>
    decide (lengthBetween k 1 128 ∧ 0 < r.environmentIdentity.length ∧ 0 < r.revision ∧
      r.Coherent)
  | .configurationComponents, _, _ | .taskSpecs, _, _ | .planningRecords, _, _
  | .executionBindings, _, _ | .contextSourceSnapshots, _, _ | .runs, _, _
  | .artifactMembers, _, _ | .runContextPlans, _, _ | .candidates, _, _
  | .sandboxProbeResults, _, _ => true

/-! ## Unique indexes -/

/-- Two rows that one of the unique indexes forbids together. -/
def clash : ∀ i, Key D i × Row D i → Key D i × Row D i → Bool
  | .journalEpochs, p, q => decide (p.2.isCurrent = true ∧ q.2.isCurrent = true)
  | .eventJournal, p, q =>
    decide (p.2.journalEpoch = q.2.journalEpoch ∧ p.2.sequence = q.2.sequence)
  | .workspaces, p, q =>
    decide (p.2.taskId = q.2.taskId ∧ p.2.phase ≠ .Released ∧ q.2.phase ≠ .Released)
  | .runStatus, p, q =>
    decide ((p.2.taskId = q.2.taskId ∧ p.2.phase.isNonterminal = true ∧
      q.2.phase.isNonterminal = true) ∨
      (p.2.activeSlot = q.2.activeSlot ∧ p.2.activeSlot ≠ none ∧ q.2.activeSlot ≠ none))
  | .workspaceRevisions, p, q =>
    decide (p.2.workspaceId = q.2.workspaceId ∧ p.2.stateDigest = q.2.stateDigest)
  | .attempts, p, q => decide (p.2.launchKey = q.2.launchKey)
  | .attemptStatus, p, q =>
    decide (p.2.runId = q.2.runId ∧ p.2.terminal = false ∧ q.2.terminal = false)
  | .agentControlSessions, p, q => decide (p.2.attemptId = q.2.attemptId)
  | .candidates, p, q => decide (p.2.runId = q.2.runId)
  | .sandboxInstances, p, q =>
    decide (p.2.runId = q.2.runId ∧ p.2.phase ≠ .Released ∧ q.2.phase ≠ .Released)
  | _, _, _ => false

theorem clash_comm (i : TableName) (p q : Key D i × Row D i) :
    clash i p q = clash i q p := by
  cases i <;> simp only [clash, decide_eq_decide] <;> grind

/-! ## Foreign keys -/

/-- The referenced row exists. -/
def Tables.has (t : Tables D) (i : TableName) (k : Key D i) : Bool := ((t i).find k).isSome

/-- A Run with this holder: the composite key `(id, task_id)`. -/
def Tables.hasRunOf (t : Tables D) (run task : String) : Bool :=
  ((t .runs).find run).any fun r => r.taskId == task

/-- An Attempt with this holder: the composite key `(id, run_id)`. -/
def Tables.hasAttemptOf (t : Tables D) (attempt run : String) : Bool :=
  ((t .attempts).find attempt).any fun a => a.runId == run

/-- The foreign keys of each table. -/
def refers : ∀ i, Tables D → Key D i → Row D i → Bool
  | .eventJournal, t, _, r => t.has .journalEpochs r.journalEpoch
  | .configurationRevisions, t, _, r =>
    r.components.toList.all fun d => t.has .configurationComponents d
  | .activeConfiguration, t, _, r =>
    r.activationSequence.all fun sequence => t.has .configurationRevisions sequence
  | .goalRevisions, t, k, _ => t.has .goals k.1
  | .taskGraphs, t, k, _ => t.has .goals k
  | .taskSpecs, t, _, r => t.has .goals r.goalId && t.has .goalRevisions (r.goalId, r.goalRevision)
  | .tasks, t, _, r => t.has .goals r.goalId && t.has .taskSpecs r.specDigest
  | .taskGraphEdges, t, _, r =>
    t.has .taskGraphs r.goalId && t.has .tasks r.upstreamTaskId && t.has .tasks r.downstreamTaskId
  | .planningOperations, t, _, r =>
    t.has .goals r.goalId && t.has .goalRevisions (r.goalId, r.goalRevision)
  | .planningRecords, t, k, _ => t.has .planningOperations k
  | .workspaces, t, _, r => t.has .tasks r.taskId
  | .goalSchedulingState, t, k, _ => t.has .goals k
  | .taskSchedulingState, t, k, _ => t.has .tasks k
  | .executionBindings, t, _, r => t.has .tasks r.taskId
  | .contextSourceSnapshots, t, _, r => t.has .goals r.goalId && t.has .workspaces r.workspaceId
  | .runs, t, _, r =>
    t.has .tasks r.taskId && t.has .executionBindings r.bindingDigest &&
      t.has .contextSourceSnapshots r.contextSourceSnapshotDigest
  | .runStatus, t, k, r =>
    t.hasRunOf k r.taskId && r.currentAttemptId.all fun a => t.hasAttemptOf a k
  | .artifactMembers, t, k, _ => t.has .artifacts k.1 && t.has .blobs k.2
  | .workspaceRevisions, t, _, r => t.has .workspaces r.workspaceId
  | .contextPlans, t, _, r => t.has .contextSourceSnapshots r.sourceSnapshotDigest
  | .runContextPlans, t, k, r =>
    (((t .runs).find k).any fun run =>
      run.contextSourceSnapshotDigest == r.contextSourceSnapshotDigest) &&
    ((t .contextPlans).find r.contextPlanDigest).any fun plan =>
      plan.sourceSnapshotDigest == r.contextSourceSnapshotDigest
  | .attempts, t, _, r => t.has .runs r.runId
  | .attemptStatus, t, k, r => t.hasAttemptOf k r.runId
  | .agentControlSessions, t, _, r => t.has .attempts r.attemptId
  | .agentRequests, t, k, _ => t.has .attempts k.1
  | .productionRecords, t, k, r =>
    t.hasRunOf k.1 r.taskId && t.hasAttemptOf r.attemptId k.1 &&
      t.has .workspaceRevisions r.workspaceRevisionId && t.has .artifacts r.artifactDigest
  | .candidates, t, _, r => t.hasRunOf r.runId r.taskId
  | .candidateOutputs, t, k, r =>
    t.has .candidates k.1 && t.has .artifacts r.artifactDigest &&
      ((t .productionRecords).find (r.productionRunId, k.2)).any fun p =>
        p.artifactDigest == r.artifactDigest
  | _, _, _, _ => true

/-- The schema of the authoritative store. -/
abbrev schema (D : Type) [DecidableEq D] : Schema TableName where
  Key := Key D
  Row := Row D
  decKey := decidableEqKey
  check := check
  clash := clash
  clash_comm := clash_comm
  refers := refers

/-- A state of the authoritative store. -/
abbrev Db (D : Type) [DecidableEq D] : Type := State (schema D)

end Pantheon
