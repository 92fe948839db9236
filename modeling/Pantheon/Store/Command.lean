/-
  Errors, revisioned updates and the idempotent command envelope
  (`pantheon-store/src/error.rs`, `transaction.rs`, `command.rs`).
  `updateRevisioned` is the one compare-and-set every lifecycle transition goes through.
  `execute` admits a command once per identity: a repeated command answers from the ledger
  without running its mutation, and an executed one leaves exactly one event and one ledger row.
-/
import Pantheon.Store.Schema

namespace Pantheon

open Relational

/-- Refusals of store operations. Errors of opening and migrating a database are left out. -/
inductive StoreError where
  | Sqlite (violation : Violation)
  | RevisionConflict (table id : String) (expected : Int) (actual : Option Int)
  | InvariantViolated (detail : String)
  | StaleCommandEpoch (supplied current : String)
  | CommandConflict (commandId : String)
  | GoalNotCancellable (goalId : String) (phase : GoalPhase) (terminalTarget : Option GoalPhase)
  | WorkspaceHolderIneligible (taskId phase : String)
  | WorkspaceAlreadyCurrent (taskId workspaceId : String)
  | WorkspaceNotRematerializable (workspaceId : String) (phase : WorkspacePhase)
  | DispatchPaused
  | DispatchSlotUnavailable (heldByRun heldForTask : String)
  | TaskNotDispatchable (taskId phase : String) (activeRunId : Option String)
  | GoalNotDispatchable (goalId : String) (phase : GoalPhase)
  | WorkspaceBaseMismatch (workspaceId bound verified : String)
  | WorkspaceNotFreezable (workspaceId : String) (phase : WorkspacePhase) (materialization : Presence)
  | ContentIdentityConflict (table id detail : String)
  | SealAuthorityInvalid (workspaceId detail : String)
  | SqliteNull (column : String)
  | SqliteNoRow
  | RunNotFound (runId : String)
  | ContextSourceMismatch (runId frozen proposed : String)
  | RunContextPlanConflict (runId attachedPlan proposedPlan : String)
  | AttemptNotLaunchReady (runId detail : String)
  | AgentControlRekeyForbidden (attemptId detail : String)
  | LaunchContactStaleAuthority (attemptId detail : String)
  | AgentControlUnauthorized (attemptId reason : String)
  | AgentRequestConflict (attemptId requestId : String)
  | CandidateExists (runId candidateDigest : String)
  | CandidateInvalid (detail : String)
  | CandidateProvenanceInvalid (detail : String)
  | SubmissionStaleAuthority (attemptId detail : String)
  | SandboxHolderIneligible (runId phase : String)
  | SandboxAlreadyCurrent (runId sandboxId : String)
  deriving Repr, DecidableEq

/-- What SQLite says of a refused statement; its message also names the columns. -/
def violationText : Violation → String
  | .primaryKey | .unique => "UNIQUE constraint failed"
  | .check => "CHECK constraint failed"
  | .foreignKey => "FOREIGN KEY constraint failed"

/-- The message of a store error. -/
def StoreError.display : StoreError → String
  | .Sqlite violation => s!"sqlite error: {violationText violation}"
  | .SqliteNull column => s!"sqlite error: Invalid column type Null at index: 0, name: {column}"
  | .SqliteNoRow => "sqlite error: Query returned no rows"
  | .RevisionConflict table id expected (some actual) =>
    s!"stale revision for {table} row {id}: expected {expected}, found {actual}"
  | .RevisionConflict table id expected none =>
    s!"no {table} row {id} to mutate at expected revision {expected}"
  | .InvariantViolated detail => s!"store invariant violated: {detail}"
  | .StaleCommandEpoch supplied current =>
    s!"stale command epoch {supplied}: the current restore generation is {current}"
  | .CommandConflict commandId =>
    s!"command {commandId} was already used in this epoch with a different request hash"
  | .GoalNotCancellable goalId phase (some target) =>
    s!"goal {goalId} is {phase.asStr} toward {target.asStr} and cannot be cancelled"
  | .GoalNotCancellable goalId phase none =>
    s!"goal {goalId} is {phase.asStr} and cannot be cancelled"
  | .WorkspaceHolderIneligible taskId phase =>
    s!"task {taskId} is {phase} and may not acquire a workspace"
  | .WorkspaceAlreadyCurrent taskId workspaceId =>
    s!"task {taskId} already owns current workspace {workspaceId}"
  | .WorkspaceNotRematerializable workspaceId phase =>
    s!"workspace {workspaceId} is {phase.asStr} and has already been mutable, so it cannot be rematerialized"
  | .DispatchPaused => "dispatch is durably paused; new Run intents are fenced until resume"
  | .DispatchSlotUnavailable heldByRun heldForTask =>
    s!"the single execution slot is held by run {heldByRun} (task {heldForTask})"
  | .TaskNotDispatchable taskId phase (some run) =>
    s!"task {taskId} is {phase} with responsible run {run} and cannot dispatch"
  | .TaskNotDispatchable taskId phase none => s!"task {taskId} is {phase} and cannot dispatch"
  | .GoalNotDispatchable goalId phase =>
    s!"goal {goalId} is {phase.asStr}; its Tasks are not dispatchable"
  | .WorkspaceBaseMismatch workspaceId bound verified =>
    s!"workspace {workspaceId} is bound to base {bound} but materialization established {verified}"
  | .WorkspaceNotFreezable workspaceId phase materialization =>
    s!"workspace {workspaceId} is {phase.asStr} (materialization {materialization.asStr}) and cannot be frozen for capture"
  | .ContentIdentityConflict table id detail =>
    s!"{table} row {id} already holds different content: {detail}"
  | .SealAuthorityInvalid workspaceId detail =>
    s!"sealing workspace {workspaceId} lost its authority: {detail}"
  | .RunNotFound runId => s!"run {runId} does not exist"
  | .ContextSourceMismatch runId frozen proposed =>
    s!"run {runId} froze source snapshot {frozen}; a plan built from {proposed} cannot attach to it"
  | .RunContextPlanConflict runId attachedPlan proposedPlan =>
    s!"run {runId} already has plan {attachedPlan} attached; the different plan {proposedPlan} cannot replace it"
  | .AttemptNotLaunchReady runId detail =>
    s!"run {runId} is not LaunchReady for Attempt creation: {detail}"
  | .AgentControlRekeyForbidden attemptId detail =>
    s!"the pre-contact rekey of attempt {attemptId} is forbidden: {detail}"
  | .LaunchContactStaleAuthority attemptId detail =>
    s!"launch contact for attempt {attemptId} lost current authority: {detail}"
  | .AgentControlUnauthorized attemptId reason =>
    s!"agent control request for attempt {attemptId} failed closed: {reason}"
  | .AgentRequestConflict attemptId requestId =>
    s!"agent request {requestId} of attempt {attemptId} was already used with a different canonical request hash"
  | .CandidateExists runId candidateDigest =>
    s!"run {runId} already carries candidate {candidateDigest}; a Run submits at most one Candidate"
  | .CandidateInvalid detail => s!"candidate submission is invalid: {detail}"
  | .CandidateProvenanceInvalid detail =>
    s!"candidate submission lacks current-lineage production provenance: {detail}"
  | .SubmissionStaleAuthority attemptId detail =>
    s!"candidate submission for attempt {attemptId} lost current authority: {detail}"
  | .SandboxHolderIneligible runId phase =>
    s!"run {runId} is {phase} and may not acquire a sandbox"
  | .SandboxAlreadyCurrent runId sandboxId =>
    s!"run {runId} already owns current sandbox {sandboxId}"

/-- A transaction body of the store with access rights `A`. -/
abbrev Write (D : Type) [DecidableEq D] (A : Access TableName) (α : Type) : Type :=
  Writer (schema D) StoreError A α

variable {D : Type} [DecidableEq D] {A : Access TableName} {α : Type}

/-- Inserts a row. -/
def insert (i : TableName) (k : Key D i) (r : Row D i) (hi : i ∈ A.inserts := by decide) :
    Write D A Unit := Writer.insert .Sqlite i k r hi

/-- The row under a key. -/
def find (i : TableName) (k : Key D i) : Write D A (Option (Row D i)) :=
  Writer.read fun d => d.find i k

/-- The row under a key, or an error. -/
def fetch (i : TableName) (k : Key D i) (missing : StoreError) : Write D A (Row D i) := do
  let row ← find i k
  Writer.require row missing

/-- `INSERT … ON CONFLICT (key) DO NOTHING`. -/
def insertIfAbsent (i : TableName) (k : Key D i) (r : Row D i) (hi : i ∈ A.inserts := by decide) :
    Write D A Unit := do
  let row ← find i k
  match row with
  | some _ => pure ()
  | none => insert i k r hi

/-- Requires a computed value. -/
def requireOk (e : Except String α) (f : String → StoreError) :
    Write D A α :=
  match e with
  | .ok a => pure a
  | .error detail => Writer.fail (f detail)

/-- `UPDATE … WHERE key` without a revision: nothing happens where there is no row. -/
def amend (i : TableName) (k : Key D i) (assign : Row D i → Row D i)
    (hi : i ∈ A.updates := by decide) : Write D A Unit := do
  let row ← find i k
  match row with
  | some r => Writer.replace .Sqlite i k (assign r) hi
  | none => pure ()

section Steps

variable {β : Type} {d d' : Db D} {b : β} {i : TableName} {k : Key D i}

theorem commits_insert {r : Row D i} {hi : i ∈ A.inserts} {u : Unit} :
    (insert i k r hi : Write D A Unit).Commits d u d' ↔ d.insert i k r = .ok d' :=
  Writer.commits_insert

theorem insert_then {r : Row D i} {hi : i ∈ A.inserts} {f : Unit → Write D A β}
    (h : (insert i k r hi >>= f).Commits d b d') :
    ∃ d₁, d.insert i k r = .ok d₁ ∧ (f ()).Commits d₁ b d' := Writer.insert_then h

theorem find_then {f : Option (Row D i) → Write D A β} (h : (find i k >>= f).Commits d b d') :
    (f (d.find i k)).Commits d b d' := Writer.read_then h

theorem fetch_then {e : StoreError} {f : Row D i → Write D A β}
    (h : (fetch i k e >>= f).Commits d b d') :
    ∃ r, d.find i k = some r ∧ (f r).Commits d b d' := by
  obtain ⟨r, d₁, hq, hf⟩ := Writer.commits_bind.mp h
  obtain ⟨hr, rfl⟩ := Writer.commits_require.mp (find_then hq)
  exact ⟨r, hr, hf⟩

theorem fetch_of {e : StoreError} {r : Row D i} (h : d.find i k = some r) :
    (fetch i k e : Write D A (Row D i)).Commits d r d :=
  Writer.then_of (Writer.read_of h) rfl

theorem amend_commits {assign : Row D i → Row D i} {hi : i ∈ A.updates} {u : Unit}
    (h : (amend i k assign hi : Write D A Unit).Commits d u d') :
    (∀ k', d'.find i k' = if k = k' then (d.find i k).map assign else d.find i k') ∧
      ∀ j, j ≠ i → d'.table j = d.table j := by
  have hrow := find_then h
  cases hfind : d.find i k with
  | some r =>
    rw [hfind] at hrow
    have hrep := Writer.commits_replace.mp hrow
    exact ⟨(State.replace_ok hrep (by simp [hfind])).2.2.2.2, State.replace_frame hrep⟩
  | none =>
    rw [hfind] at hrow
    obtain ⟨-, rfl⟩ := Writer.commits_pure.mp hrow
    refine ⟨fun k' => ?_, fun _ _ => rfl⟩
    split
    · rename_i heq
      exact heq ▸ hfind
    · rfl

theorem requireOk_then {e : Except String α} {f : String → StoreError} {g : α → Write D A β}
    (h : (requireOk e f >>= g).Commits d b d') : ∃ a, e = .ok a ∧ (g a).Commits d b d' := by
  cases e with
  | error detail => exact absurd (Writer.commits_bind.mp h) (by simp [requireOk])
  | ok a =>
    obtain ⟨_, d₁, hq, hg⟩ := Writer.commits_bind.mp h
    obtain ⟨rfl, rfl⟩ := Writer.commits_pure.mp hq
    exact ⟨_, rfl, hg⟩

theorem requireOk_of {e : Except String α} {f : String → StoreError} {a : α} (h : e = .ok a) :
    (requireOk e f : Write D A α).Commits d a d := by
  rw [h]
  rfl

/-- After an insert that tolerates an existing row, every other table is as it was, and the
    row is there: the new one, or the one that was. -/
theorem insertIfAbsent_then {r : Row D i} {hi : i ∈ A.inserts} {f : Unit → Write D A β}
    (h : (insertIfAbsent i k r hi >>= f).Commits d b d') :
    ∃ d₁, (∀ j, j ≠ i → d₁.table j = d.table j) ∧
      (∀ k', d₁.find i k' = if k = k' then some ((d.find i k).getD r) else d.find i k') ∧
      (f ()).Commits d₁ b d' := by
  obtain ⟨_, d₁, hq, hf⟩ := Writer.commits_bind.mp h
  have hrow := find_then hq
  cases hfind : d.find i k with
  | some old =>
    rw [hfind] at hrow
    obtain ⟨-, rfl⟩ := Writer.commits_pure.mp hrow
    refine ⟨d₁, fun _ _ => rfl, fun k' => ?_, hf⟩
    split
    · rename_i heq
      simp [← heq, hfind]
    · rfl
  | none =>
    rw [hfind] at hrow
    obtain ⟨-, -, -, -, -, hafter, hother⟩ := State.insert_ok (commits_insert.mp hrow)
    exact ⟨d₁, hother, fun k' => by simp [hafter], hf⟩

end Steps

/-! ## Revisioned updates -/

/-- A table with a `revision` column, its name and the text of its keys. -/
class Revisioned (D : Type) (i : TableName) where
  table : String
  keyText : Key D i → String
  revision : Row D i → Int
  setRevision : Int → Row D i → Row D i
  revision_setRevision : ∀ n r, revision (setRevision n r) = n

instance : Revisioned D .activeConfiguration :=
  ⟨"active_configuration", fun _ => "singleton", (·.revision), fun n r => { r with revision := n },
    fun _ _ => rfl⟩

instance : Revisioned D .goals :=
  ⟨"goals", id, (·.revision), fun n r => { r with revision := n }, fun _ _ => rfl⟩

instance : Revisioned D .taskGraphs :=
  ⟨"task_graphs", id, (·.revision), fun n r => { r with revision := n }, fun _ _ => rfl⟩

instance : Revisioned D .tasks :=
  ⟨"tasks", id, (·.revision), fun n r => { r with revision := n }, fun _ _ => rfl⟩

instance : Revisioned D .planningOperations :=
  ⟨"planning_operations", id, (·.revision), fun n r => { r with revision := n }, fun _ _ => rfl⟩

instance : Revisioned D .workspaces :=
  ⟨"workspaces", id, (·.revision), fun n r => { r with revision := n }, fun _ _ => rfl⟩

instance : Revisioned D .schedulerState :=
  ⟨"scheduler_state", fun _ => "singleton", (·.revision), fun n r => { r with revision := n },
    fun _ _ => rfl⟩

instance : Revisioned D .goalSchedulingState :=
  ⟨"goal_scheduling_state", id, (·.revision), fun n r => { r with revision := n }, fun _ _ => rfl⟩

instance : Revisioned D .taskSchedulingState :=
  ⟨"task_scheduling_state", id, (·.revision), fun n r => { r with revision := n }, fun _ _ => rfl⟩

instance : Revisioned D .runStatus :=
  ⟨"run_status", id, (·.revision), fun n r => { r with revision := n }, fun _ _ => rfl⟩

instance : Revisioned D .attemptStatus :=
  ⟨"attempt_status", id, (·.revision), fun n r => { r with revision := n }, fun _ _ => rfl⟩

instance : Revisioned D .sandboxInstances :=
  ⟨"sandbox_instances", id, (·.revision), fun n r => { r with revision := n }, fun _ _ => rfl⟩

/-- `Writer::update_revisioned`: writes the row only at the expected revision, and moves the
    revision by one. -/
def updateRevisioned (i : TableName) [Revisioned D i] (k : Key D i) (expected : Int)
    (assign : Row D i → Row D i) (hi : i ∈ A.updates := by decide) : Write D A Int := do
  let row ← find i k
  match row with
  | some r => do
    Writer.ensure (Revisioned.revision r = expected)
      (.RevisionConflict (Revisioned.table D i) (Revisioned.keyText k) expected
        (some (Revisioned.revision r)))
    Writer.replace .Sqlite i k (Revisioned.setRevision (expected + 1) (assign r)) hi
    return expected + 1
  | none =>
    Writer.fail (.RevisionConflict (Revisioned.table D i) (Revisioned.keyText k) expected none)

/-- A revisioned update that went through: the row was at the expected revision, and exactly
    this row changed. -/
structure Updated (i : TableName) [Revisioned D i] (k : Key D i) (expected : Int)
    (assign : Row D i → Row D i) (d d' : Db D) (old : Row D i) : Prop where
  before : d.find i k = some old
  at_revision : Revisioned.revision old = expected
  after : ∀ k', d'.find i k' =
    if k = k' then some (Revisioned.setRevision (expected + 1) (assign old)) else d.find i k'
  others : ∀ j, j ≠ i → d'.table j = d.table j

theorem commits_updateRevisioned {i : TableName} [Revisioned D i] {k : Key D i} {expected : Int}
    {assign : Row D i → Row D i} {hi : i ∈ A.updates} {n : Int} {d d' : Db D}
    (h : (updateRevisioned i k expected assign hi : Write D A Int).Commits d n d') :
    n = expected + 1 ∧ ∃ old, Updated i k expected assign d d' old := by
  replace h := find_then h
  cases hfind : d.find i k with
  | none =>
    rw [hfind] at h
    exact absurd h Writer.commits_fail
  | some old =>
    rw [hfind] at h
    obtain ⟨hrev, h⟩ := Writer.ensure_then h
    simp only [Writer.commits_bind, Writer.commits_replace, Writer.commits_pure] at h
    obtain ⟨_, d₂, hrep, rfl, rfl⟩ := h
    have hok := State.replace_ok hrep (by simp [hfind])
    exact ⟨rfl, old, hfind, hrev, hok.2.2.2.2, State.replace_frame hrep⟩

theorem update_then {i : TableName} [Revisioned D i] {k : Key D i} {expected : Int}
    {assign : Row D i → Row D i} {hi : i ∈ A.updates} {β : Type} {b : β} {d d' : Db D}
    {f : Int → Write D A β} (h : (updateRevisioned i k expected assign hi >>= f).Commits d b d') :
    ∃ d₁ old, Updated i k expected assign d d₁ old ∧ (f (expected + 1)).Commits d₁ b d' := by
  obtain ⟨n, d₁, hu, h⟩ := Writer.commits_bind.mp h
  obtain ⟨rfl, old, hu⟩ := commits_updateRevisioned hu
  exact ⟨d₁, old, hu, h⟩

/-! ## The command envelope -/

/-- What one transaction draws from outside: the clock as the mutation reads it and as the
    event append reads it, the random event identity, and a random row identity. -/
structure Ambient where
  now : Int
  recordedAt : Int
  eventId : String
  rowId : String
  deriving Repr, DecidableEq

structure Command (D : Type) where
  epoch : String
  id : String
  requestHash : D
  eventType : String
  deriving Repr, DecidableEq

structure JournalCursor where
  epoch : String
  sequence : Int
  deriving Repr, DecidableEq

inductive Committed (α : Type) where
  | Executed (value : α) (cursor : JournalCursor)
  | Replayed (cursor : JournalCursor) (recordedAt : Int)
  deriving Repr, DecidableEq

/-- The rights the journal and the ledger need. -/
def journalAccess : Access TableName := ⟨[.eventJournal, .commands], [.journalEpochs]⟩

/-- A mutation's rights together with the journal's. -/
def journaled (A : Access TableName) : Access TableName :=
  ⟨.eventJournal :: .commands :: A.inserts, .journalEpochs :: A.updates⟩

/-- `fence_epoch`. -/
def fenceEpoch (supplied : String) : Write D A Unit := do
  let system ← fetch .systemState ()
    (.InvariantViolated "system_state has no installation identity row")
  Writer.ensure (supplied = system.restoreGeneration)
    (.StaleCommandEpoch supplied system.restoreGeneration)

/-- `Store::restore_generation`. -/
def currentRestoreGeneration (d : Db D) : Except StoreError String :=
  match d.find .systemState () with
  | some system => .ok system.restoreGeneration
  | none => .error .SqliteNoRow

/-- The current journal history: at most one row is current. -/
def currentEpoch (d : Db D) : Option (String × JournalEpoch) :=
  (d.rows .journalEpochs).find? fun p => p.2.isCurrent

/-- `allocate_sequence`. -/
def allocateSequence (hu : .journalEpochs ∈ A.updates := by decide) : Write D A JournalCursor := do
  let current ← Writer.read currentEpoch
  let row ← Writer.require current (.InvariantViolated "no current journal epoch exists")
  Writer.replace .Sqlite .journalEpochs row.1 { row.2 with nextSequence := row.2.nextSequence + 1 }
    hu
  return ⟨row.1, row.2.nextSequence⟩

/-- A refused event append: an occupied slot is a broken invariant. -/
def appendRefusal (cursor : JournalCursor) : Violation → StoreError
  | .unique => .InvariantViolated
      s!"journal slot ({cursor.epoch}, {cursor.sequence}) is already occupied"
  | other => .Sqlite other

/-- `append_event`. -/
def appendEvent (ambient : Ambient) (command : Command D) (cursor : JournalCursor) :
    Write D journalAccess Unit :=
  Writer.insert (appendRefusal cursor) .eventJournal ambient.eventId
    ⟨cursor.epoch, cursor.sequence, command.eventType, ambient.recordedAt,
      some (command.epoch, command.id)⟩ (by decide)

/-- `record_command`. -/
def recordCommand (ambient : Ambient) (command : Command D) (cursor : JournalCursor) :
    Write D journalAccess Unit :=
  insert .commands (command.epoch, command.id)
    ⟨command.requestHash, cursor.epoch, cursor.sequence, ambient.recordedAt⟩

/-- The event and the ledger row of an executed command. -/
def record (ambient : Ambient) (command : Command D) : Write D journalAccess JournalCursor := do
  let cursor ← allocateSequence
  appendEvent ambient command cursor
  recordCommand ambient command cursor
  return cursor

/-- The rights of an event append. -/
def eventAccess : Access TableName := ⟨[.eventJournal], [.journalEpochs]⟩

/-- `append_internal_event`: an event no command caused. -/
def appendInternalEvent (ambient : Ambient) (eventType : String) :
    Write D eventAccess JournalCursor := do
  let cursor ← allocateSequence
  insert .eventJournal ambient.eventId
    ⟨cursor.epoch, cursor.sequence, eventType, ambient.recordedAt, none⟩
  return cursor

/-- `execute`. -/
def execute (ambient : Ambient) (command : Command D) (mutation : Write D A α) :
    Write D (journaled A) (Committed α) := do
  fenceEpoch command.epoch
  let entry ← find .commands (command.epoch, command.id)
  match entry with
  | some row => do
    Writer.ensure (row.requestHash = command.requestHash) (.CommandConflict command.id)
    return .Replayed ⟨row.journalEpoch, row.sequence⟩ row.recordedAt
  | none => do
    let value ← mutation.widen (by simp +contextual [journaled]) (by simp +contextual [journaled])
    let cursor ← (record ambient command).widen (by simp +contextual [journaled, journalAccess])
      (by simp +contextual [journaled, journalAccess])
    return .Executed value cursor

/-- A slot of the journal was taken: the current epoch's next number, and it moved by one. -/
def Allocated (cursor : JournalCursor) (d d' : Db D) : Prop :=
  ∃ row, currentEpoch d = some (cursor.epoch, row) ∧ row.nextSequence = cursor.sequence ∧
    ∀ k, d'.find .journalEpochs k = if cursor.epoch = k then
      some { row with nextSequence := row.nextSequence + 1 } else d.find .journalEpochs k

/-- The trace an executed command leaves: one event in the slot that was next, one ledger row. -/
structure Recorded (ambient : Ambient) (command : Command D) (cursor : JournalCursor)
    (d d' : Db D) : Prop where
  within : Within journalAccess d d'
  slot : Allocated cursor d d'
  event : d'.rows .eventJournal = d.rows .eventJournal ++ [(ambient.eventId,
    ⟨cursor.epoch, cursor.sequence, command.eventType, ambient.recordedAt,
      some (command.epoch, command.id)⟩)]
  ledger : ∀ k, d'.find .commands k = if (command.epoch, command.id) = k then
    some ⟨command.requestHash, cursor.epoch, cursor.sequence, ambient.recordedAt⟩
    else d.find .commands k

/-- The numbers 1, 2, …, n, which a counter hands out. -/
def numbered (n : Nat) : List Int := (List.range n).map fun i : Nat => (i : Int) + 1

theorem numbered_succ (n : Nat) : numbered (n + 1) = numbered n ++ [(n : Int) + 1] := by
  simp [numbered, List.range_succ]

theorem currentEpoch_found {d : Db D} {epoch : String} {row : JournalEpoch}
    (h : currentEpoch d = some (epoch, row)) :
    d.find .journalEpochs epoch = some row ∧ row.isCurrent = true :=
  ⟨State.mem_rows.mp (List.mem_of_find?_eq_some h), by simpa using List.find?_some h⟩

theorem commits_allocateSequence {hu : .journalEpochs ∈ A.updates} {cursor : JournalCursor}
    {d d' : Db D} (h : (allocateSequence hu : Write D A _).Commits d cursor d') :
    Allocated cursor d d' ∧ ∀ i, i ≠ .journalEpochs → d'.table i = d.table i := by
  simp only [allocateSequence, Writer.commits_bind, Writer.commits_read, Writer.commits_require,
    Writer.commits_replace, Writer.commits_pure] at h
  obtain ⟨_, _, ⟨rfl, rfl⟩, ⟨epoch, row⟩, _, ⟨hcur, rfl⟩, _, _, hrep, rfl, rfl⟩ := h
  have hfound := (currentEpoch_found hcur).1
  exact ⟨⟨row, hcur, rfl, (State.replace_ok hrep (by simp [hfound])).2.2.2.2⟩,
    State.replace_frame hrep⟩

theorem commits_record {ambient : Ambient} {command : Command D} {cursor : JournalCursor}
    {d d' : Db D} (h : (record ambient command).Commits d cursor d') :
    Recorded ambient command cursor d d' := by
  have hw := h.within
  simp only [record, Writer.commits_bind, Writer.commits_pure] at h
  obtain ⟨c, d₁, halloc, _, d₂, hevent, _, d₃, hledger, rfl, rfl⟩ := h
  obtain ⟨⟨row, hcur, hseq, hepochs⟩, hframe⟩ := commits_allocateSequence halloc
  obtain ⟨-, -, -, -, hrows, -, hother⟩ := State.insert_ok (Writer.commits_insert.mp hevent)
  obtain ⟨-, -, -, -, -, hfind, hother'⟩ := State.insert_ok (commits_insert.mp hledger)
  refine ⟨hw, ⟨row, hcur, hseq, fun k => ?_⟩, ?_, ?_⟩
  · rw [State.find_congr (hother' _ (by decide)), State.find_congr (hother _ (by decide)), hepochs]
  · rw [State.rows, hother' _ (by decide)]
    change d₂.rows _ = _
    rw [hrows, State.rows, hframe _ (by decide)]
    rfl
  · intro k
    rw [hfind, State.find, State.find, hother _ (by decide), hframe _ (by decide)]

/-- Every committed command either answered from the ledger and changed nothing, or ran its
    mutation and left its trace. -/
theorem commits_execute {ambient : Ambient} {command : Command D} {mutation : Write D A α}
    {r : Committed α} {d d' : Db D} (h : (execute ambient command mutation).Commits d r d') :
    (∃ row, d.find .commands (command.epoch, command.id) = some row ∧
      row.requestHash = command.requestHash ∧
      r = .Replayed ⟨row.journalEpoch, row.sequence⟩ row.recordedAt ∧ d' = d) ∨
    (d.find .commands (command.epoch, command.id) = none ∧ ∃ value cursor d₁,
      r = .Executed value cursor ∧ mutation.Commits d value d₁ ∧
      Recorded ambient command cursor d₁ d') := by
  obtain ⟨_, d₁, hfence, hrest⟩ := Writer.commits_bind.mp h
  obtain ⟨_, -, hepoch⟩ := fetch_then hfence
  obtain ⟨-, rfl⟩ := Writer.commits_ensure.mp hepoch
  clear h
  have h := find_then hrest
  cases hentry : d₁.find .commands (command.epoch, command.id) with
  | some row =>
    left
    rw [hentry] at h
    obtain ⟨hhash, h⟩ := Writer.ensure_then h
    obtain ⟨rfl, rfl⟩ := Writer.commits_pure.mp h
    exact ⟨row, rfl, hhash, rfl, rfl⟩
  | none =>
    right
    rw [hentry] at h
    simp only [Writer.commits_bind, Writer.commits_pure] at h
    obtain ⟨value, d₂, hm, cursor, d₃, hrec, rfl, rfl⟩ := h
    exact ⟨rfl, value, cursor, d₂, rfl, hm, commits_record hrec⟩

end Pantheon
