/-
  Task Workspaces in the store (`pantheon-store/src/workspace.rs`, `seal.rs`).
  A Workspace moves Requested, Materializing, Ready, Frozen; a failed materialization is Error,
  from which it may be tried again. `begin`, `complete` and `fail` refuse a Workspace that has
  been mutable. Freezing and sealing require the claimed Run's authority, which
  `validateSealAuthority` re-reads inside the transaction.
-/
import Pantheon.Store.Command

namespace Pantheon

open Relational

variable {D : Type} [DecidableEq D]

structure WorkspaceRecord where
  id : String
  taskId : String
  repository : String
  sourcePath : String
  requestedBase : RequestedBase
  resolvedBase : ResolvedBase
  phase : WorkspacePhase
  materialization : Presence
  revision : Int
  deriving DecidableEq

structure WorkspaceBinding where
  taskId : String
  repository : String
  sourcePath : String
  requestedBase : RequestedBase
  resolvedBase : ResolvedBase
  deriving DecidableEq

/-- The claim a seal is made under: the responsible Run and the revision it was read at. -/
structure SealAuthority where
  runId : String
  expectedRunRevision : Int
  deriving Repr, DecidableEq

/-! ## Reading -/

/-- A stored row as a record, or the error of an unusable base. -/
def decodeWorkspace (id : String) (w : Workspace) : Except String WorkspaceRecord :=
  match RequestedBase.parse w.requestedBase with
  | .error e => .error s!"workspace {id} has an unusable requested base: {e}"
  | .ok requestedBase =>
    match ResolvedBase.parse w.resolvedBase with
    | .error e => .error s!"workspace {id} has an unusable resolved base: {e}"
    | .ok resolvedBase =>
      .ok {
        id, requestedBase, resolvedBase
        taskId := w.taskId
        repository := w.repository
        sourcePath := w.sourcePath
        phase := w.phase
        materialization := w.materialization
        revision := w.revision }

/-- `read_in_transaction`. -/
def readInTransaction {A : Access TableName} (id : String) : Write D A WorkspaceRecord := do
  let row ← fetch .workspaces id
    (.InvariantViolated s!"workspace {id} disappeared inside its own transaction")
  requireOk (decodeWorkspace id row) .InvariantViolated

/-- The current Workspace of a Task. -/
def currentWorkspace (taskId : String) (d : Db D) : Option (String × Workspace) :=
  (d.rows .workspaces).find? fun p => p.2.taskId == taskId && p.2.phase != .Released

/-- `Store::workspace_for_task`. -/
def workspaceForTask (taskId : String) (d : Db D) : Except StoreError (Option WorkspaceRecord) :=
  match currentWorkspace taskId d with
  | none => .ok none
  | some p =>
    match decodeWorkspace p.1 p.2 with
    | .ok record => .ok (some record)
    | .error detail => .error (.InvariantViolated detail)

/-- `Store::workspace_record`. -/
def workspaceRecord (id : String) (d : Db D) : Except StoreError (Option WorkspaceRecord) :=
  match d.find .workspaces id with
  | none => .ok none
  | some row =>
    match decodeWorkspace id row with
    | .ok record => .ok (some record)
    | .error detail => .error (.InvariantViolated detail)

/-! ## Materialization -/

/-- `Store::open_workspace`, the mutation. -/
def openWorkspace (workspaceId : String) (binding : WorkspaceBinding) :
    Write D ⟨[.workspaces], []⟩ WorkspaceRecord := do
  let task ← fetch .tasks binding.taskId (.WorkspaceHolderIneligible binding.taskId "Absent")
  Writer.ensure (task.phase = .Ready)
    (.WorkspaceHolderIneligible binding.taskId task.phase.asStr)
  let existing ← Writer.read (currentWorkspace binding.taskId)
  Writer.ensure (existing = none)
    (.WorkspaceAlreadyCurrent binding.taskId (existing.elim "" Prod.fst))
  insert .workspaces workspaceId
    { taskId := binding.taskId
      repository := binding.repository
      sourcePath := binding.sourcePath
      requestedBase := binding.requestedBase.text
      resolvedBase := binding.resolvedBase.text
      phase := .Requested
      materialization := .Absent
      revision := 1 }
  return {
    id := workspaceId
    taskId := binding.taskId
    repository := binding.repository
    sourcePath := binding.sourcePath
    requestedBase := binding.requestedBase
    resolvedBase := binding.resolvedBase
    phase := .Requested
    materialization := .Absent
    revision := 1 }

/-- What a transition assigns. -/
def Workspace.moved (phase : WorkspacePhase) (materialization : Presence) (w : Workspace) :
    Workspace := { w with phase, materialization }

def workspaceAccess : Access TableName := ⟨[], [.workspaces]⟩

/-- `transition`. -/
def transition (id : String) (expected : Int) (phase : WorkspacePhase)
    (materialization : Presence) : Write D workspaceAccess WorkspaceRecord := do
  let revision ← updateRevisioned .workspaces id expected (Workspace.moved phase materialization)
  let record ← readInTransaction id
  return { record with revision }

/-- `workspace_phase_and_base`. -/
def workspacePhaseAndBase (id : String) (expected : Int) :
    Write D ⟨[], []⟩ (WorkspacePhase × ResolvedBase) := do
  let row ← fetch .workspaces id (.RevisionConflict "workspaces" id expected none)
  Writer.ensure (row.revision = expected)
    (.RevisionConflict "workspaces" id expected (some row.revision))
  let base ← requireOk (ResolvedBase.parse row.resolvedBase)
    fun e => .InvariantViolated s!"workspace {id} has an unusable resolved base: {e}"
  return (row.phase, base)

/-- `Store::begin_workspace_materialization`, the mutation. -/
def beginWorkspaceMaterialization (id : String) (expected : Int) :
    Write D workspaceAccess WorkspaceRecord := do
  let current ← (workspacePhaseAndBase id expected).widen (by decide) (by decide)
  Writer.ensure (current.1.hasBeenMutable = false) (.WorkspaceNotRematerializable id current.1)
  transition id expected .Materializing .Unknown

/-- `Store::complete_workspace_materialization`, the mutation. -/
def completeWorkspaceMaterialization (id : String) (expected : Int)
    (verifiedBase : ResolvedBase) : Write D workspaceAccess WorkspaceRecord := do
  let current ← (workspacePhaseAndBase id expected).widen (by decide) (by decide)
  Writer.ensure (current.1 = .Materializing)
    (.InvariantViolated s!"workspace {id} is {current.1.asStr} and cannot become Ready")
  Writer.ensure (current.2 = verifiedBase)
    (.WorkspaceBaseMismatch id current.2.text verifiedBase.text)
  transition id expected .Ready .Present

/-- `Store::fail_workspace_materialization`, the mutation. -/
def failWorkspaceMaterialization (id : String) (expected : Int) (observed : Presence) :
    Write D workspaceAccess WorkspaceRecord := do
  Writer.ensure (observed ≠ .Present) (.InvariantViolated
    s!"workspace {id} cannot record Present materialization on a failure path")
  let current ← (workspacePhaseAndBase id expected).widen (by decide) (by decide)
  Writer.ensure (current.1.hasBeenMutable = false) (.WorkspaceNotRematerializable id current.1)
  transition id expected .Error observed

/-! ## Seal authority -/

/-- `CODE_CHANGESET_KIND`. -/
def codeChangesetKind : String := "code.changeset"

/-- The `0x…` form of a digest. -/
def hexDigest [DigestScheme D] (digest : D) : String :=
  String.ofList ('0' :: 'x' :: toHex (DigestScheme.asBytes digest))

/-- The Run's half of `validate_seal_authority`. -/
def sealRunAuthority [DigestScheme D] (authority : SealAuthority) (taskId workspaceId : String)
    (task : Task D) : Write D ⟨[], []⟩ Unit := do
  let run ← fetch .runs authority.runId
    (.SealAuthorityInvalid workspaceId s!"run {authority.runId} does not exist")
  Writer.ensure (run.taskId = taskId) (.SealAuthorityInvalid workspaceId
    s!"run {authority.runId} belongs to task {run.taskId}, not {taskId}")
  let status ← fetch .runStatus authority.runId
    (.InvariantViolated s!"run {authority.runId} has no status row")
  Writer.ensure (status.phase.isNonterminal = true) (.SealAuthorityInvalid workspaceId
    s!"run {authority.runId} is terminal ({status.phase.asStr})")
  Writer.ensure (status.revision = authority.expectedRunRevision) (.SealAuthorityInvalid workspaceId
    s!"run {authority.runId} moved: authority was read at revision {authority.expectedRunRevision}, found {status.revision}")
  let snapshot ← fetch .contextSourceSnapshots run.contextSourceSnapshotDigest (.InvariantViolated
    s!"run {authority.runId} names source snapshot {hexDigest run.contextSourceSnapshotDigest} which is not stored")
  Writer.ensure (snapshot.taskSpecDigest = task.specDigest) (.SealAuthorityInvalid workspaceId
    s!"run {authority.runId} froze task-spec digest {hexDigest snapshot.taskSpecDigest} but task {taskId} stores a different one")
  Writer.ensure (snapshot.workspaceId = workspaceId) (.SealAuthorityInvalid workspaceId
    s!"run {authority.runId} is bound to workspace {snapshot.workspaceId}, not {workspaceId}")
  let workspace ← fetch .workspaces workspaceId
    (.InvariantViolated s!"workspace {workspaceId} disappeared inside its own transaction")
  Writer.ensure (workspace.resolvedBase = snapshot.workspaceResolvedBase)
    (.SealAuthorityInvalid workspaceId
      s!"run {authority.runId} is bound to base {debugText snapshot.workspaceResolvedBase} but workspace {workspaceId} resolved to {debugText workspace.resolvedBase}")

/-- The frozen specification permits a changeset on the slot. -/
def sealSlot [DigestScheme D] (outputSlot workspaceId : String) (task : Task D) :
    Write D ⟨[], []⟩ Unit := do
  let stored ← fetch .taskSpecs task.specDigest
    (.InvariantViolated "the task's stored specification is not present")
  let spec ← requireOk
    ((TaskSpec.fromCanonicalJson stored.canonicalJson : Except DecodeError (TaskSpec D)).mapError
      DecodeError.display)
    fun detail => .InvariantViolated
      s!"the task's stored specification cannot be decoded: {detail}"
  let slot ← Writer.require (spec.outputs.find? fun o => o.name == outputSlot)
    (.SealAuthorityInvalid workspaceId s!"no such output slot {debugText outputSlot}")
  Writer.ensure (slot.kind = codeChangesetKind) (.SealAuthorityInvalid workspaceId
    s!"output slot {debugText outputSlot} permits {slot.kind}, not {codeChangesetKind}")

/-- `validate_seal_authority`. -/
def validateSealAuthority [DigestScheme D] (authority : SealAuthority)
    (taskId outputSlot workspaceId : String) : Write D ⟨[], []⟩ Unit := do
  let task ← fetch .tasks taskId
    (.SealAuthorityInvalid workspaceId s!"task {taskId} no longer exists")
  Writer.ensure (task.phase = .Active) (.SealAuthorityInvalid workspaceId
    s!"task {taskId} is {task.phase.asStr}, not Active under a responsible Run")
  let current := task.activeRunId.getD "none"
  Writer.ensure (task.activeRunId = some authority.runId) (.SealAuthorityInvalid workspaceId
    s!"run {authority.runId} is not task {taskId}'s current responsible run ({current})")
  sealRunAuthority authority taskId workspaceId task
  sealSlot outputSlot workspaceId task

/-- `Store::freeze_workspace`, the mutation. -/
def freezeWorkspace [DigestScheme D] (authority : SealAuthority)
    (taskId outputSlot workspaceId : String) (expected : Int) :
    Write D workspaceAccess WorkspaceRecord := do
  let row ← fetch .workspaces workspaceId (.RevisionConflict "workspaces" workspaceId expected none)
  Writer.ensure (row.taskId = taskId) (.SealAuthorityInvalid workspaceId
    s!"the workspace is owned by {row.taskId}, not {taskId}")
  Writer.ensure (row.phase = .Ready ∧ row.materialization = .Present)
    (.WorkspaceNotFreezable workspaceId row.phase row.materialization)
  (validateSealAuthority authority taskId outputSlot workspaceId).widen (by decide) (by decide)
  transition workspaceId expected .Frozen .Present

/-- `Store::validate_seal_authority_command`, the mutation: it writes nothing of its own. -/
def validateSealAuthorityCommand [DigestScheme D] (authority : SealAuthority)
    (taskId outputSlot workspaceId : String) (expected : Int) :
    Write D ⟨[], []⟩ WorkspaceRecord := do
  let record ← readInTransaction workspaceId
  Writer.ensure (record.revision = expected)
    (.RevisionConflict "workspaces" workspaceId expected (some record.revision))
  Writer.ensure (record.taskId = taskId) (.SealAuthorityInvalid workspaceId
    s!"the workspace is owned by {record.taskId}, not {taskId}")
  Writer.ensure (record.phase = .Frozen ∧ record.materialization = .Present)
    (.WorkspaceNotFreezable workspaceId record.phase record.materialization)
  validateSealAuthority authority taskId outputSlot workspaceId
  return record

/-- `Store::record_capture_failure`, the mutation: it writes nothing of its own. -/
def recordCaptureFailure (workspaceId : String) (expected : Int) :
    Write D ⟨[], []⟩ WorkspaceRecord := do
  let row ← readInTransaction workspaceId
  Writer.ensure (row.revision = expected)
    (.RevisionConflict "workspaces" workspaceId expected (some row.revision))
  Writer.ensure (row.phase = .Frozen) (.InvariantViolated
    s!"capture failure may only be recorded against a frozen workspace, and {workspaceId} is {row.phase.asStr}")
  return row

/-! ## What the transitions do -/

variable {id taskId outputSlot workspaceId : String} {r : WorkspaceRecord} {d d' : Db D}
  {expected : Int} {authority : SealAuthority}

theorem readInTransaction_commits {A : Access TableName}
    (h : (readInTransaction id : Write D A _).Commits d r d') : d' = d := by
  obtain ⟨w, -, hread⟩ := fetch_then h
  cases hd : decodeWorkspace id w with
  | error detail =>
    rw [hd] at hread
    exact absurd hread Writer.commits_fail
  | ok record =>
    rw [hd] at hread
    exact (Writer.commits_pure.mp hread).2

theorem transition_commits {phase : WorkspacePhase} {materialization : Presence}
    (h : (transition id expected phase materialization).Commits d r d') :
    ∃ old, Updated .workspaces id expected (Workspace.moved phase materialization) d d' old := by
  obtain ⟨d₁, old, hu, hrest⟩ := update_then h
  obtain ⟨record, d₂, hread, hend⟩ := Writer.commits_bind.mp hrest
  obtain rfl := readInTransaction_commits hread
  obtain ⟨-, rfl⟩ := Writer.commits_pure.mp hend
  exact ⟨old, hu⟩

theorem workspacePhaseAndBase_commits {r : WorkspacePhase × ResolvedBase}
    (h : (workspacePhaseAndBase id expected).Commits d r d') :
    ∃ w, d.find .workspaces id = some w ∧ w.phase = r.1 := by
  obtain ⟨w, hw, h₁⟩ := fetch_then h
  obtain ⟨-, h₂⟩ := Writer.ensure_then h₁
  obtain ⟨_, -, h₃⟩ := requireOk_then h₂
  obtain ⟨rfl, -⟩ := Writer.commits_pure.mp h₃
  exact ⟨w, hw, rfl⟩

/-! ## What the seal authority requires -/

/-- The claimed Run is responsible: the Task is Active under it. -/
structure Responsible (authority : SealAuthority) (taskId : String) (d : Db D) : Prop where
  task : ∃ t, d.find .tasks taskId = some t ∧ t.phase = .Active ∧
    t.activeRunId = some authority.runId

theorem validateSealAuthority_commits [DigestScheme D] {u : Unit}
    (h : (validateSealAuthority authority taskId outputSlot workspaceId).Commits d u d') :
    Responsible authority taskId d := by
  obtain ⟨t, ht, h₁⟩ := fetch_then h
  obtain ⟨hactive, h₂⟩ := Writer.ensure_then h₁
  obtain ⟨hrun, -⟩ := Writer.ensure_then h₂
  exact ⟨t, ht, hactive, hrun⟩

theorem freezeWorkspace_commits [DigestScheme D]
    (h : (freezeWorkspace authority taskId outputSlot workspaceId expected).Commits d r d') :
    Responsible authority taskId d := by
  obtain ⟨w, hw, h₁⟩ := fetch_then h
  obtain ⟨-, h₂⟩ := Writer.ensure_then h₁
  obtain ⟨-, h₃⟩ := Writer.ensure_then h₂
  obtain ⟨_, hauthority, -⟩ := Writer.guard_then h₃
  exact validateSealAuthority_commits hauthority

theorem validateSealAuthorityCommand_commits [DigestScheme D]
    (h : (validateSealAuthorityCommand authority taskId outputSlot workspaceId expected).Commits
      d r d') : Responsible authority taskId d := by
  obtain ⟨record, d₁, hread, h₁⟩ := Writer.commits_bind.mp h
  obtain rfl := readInTransaction_commits hread
  obtain ⟨-, h₂⟩ := Writer.ensure_then h₁
  obtain ⟨-, h₃⟩ := Writer.ensure_then h₂
  obtain ⟨-, h₄⟩ := Writer.ensure_then h₃
  obtain ⟨_, d₂, hauthority, -⟩ := Writer.commits_bind.mp h₄
  exact validateSealAuthority_commits hauthority

end Pantheon
