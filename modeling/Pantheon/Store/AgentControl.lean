/-
  Agent Control in the store (`pantheon-store/src/agent_control.rs`): the session fence, the
  request ledger under (attempt, request), and Candidate submission (T6).
  A submission reads Attempt, Run, Task, Goal, specification and provenance in its own
  transaction. `applyCandidateSubmission_commits`: one that is not a replay found the Run
  Active for this Attempt, the Task Active for this Run and the Goal open, and moved the Run
  to Finalizing with target Completed and the Task to Evaluating.
-/
import Pantheon.Execution.Candidate
import Pantheon.Store.Execution

namespace Pantheon

open Relational

variable {D : Type} [DecidableEq D]

/-! ## The session fence -/

/-- The Attempt a worker names and the verifier of the bearer it holds. -/
structure AgentCredential (D : Type) where
  attemptId : String
  verifier : D
  deriving Repr, DecidableEq

/-- `authenticate_agent_session` over `judge_session`: the generation is compared before the
    state, and both before the verifier. -/
def authenticateAgentSession (credential : AgentCredential D) : Write D ⟨[], []⟩ Unit := do
  let unauthorized := StoreError.AgentControlUnauthorized credential.attemptId
  let found ← Writer.read (sessionOf credential.attemptId)
  let session ← Writer.require found
    (unauthorized "no AgentControlSession exists for the Attempt")
  let system ← fetch .systemState () (.SqliteNull "restore_generation")
  Writer.ensure (session.2.restoreGeneration = system.restoreGeneration)
    (unauthorized "the session belongs to an older RestoreGeneration")
  Writer.ensure (session.2.state = .ACTIVE) (unauthorized "the session is REVOKED")
  Writer.ensure (session.2.credentialHash = credential.verifier)
    (unauthorized "the presented bearer does not match the session verifier")

/-! ## The request ledger -/

/-- The interpreted state of a request. -/
inductive RequestState where
  | Started
  | Succeeded (resultRef : String)
  | Failed (problemCode : String)
  deriving Repr, DecidableEq

/-- `request_state_from`. -/
def requestStateFrom (row : AgentRequest D) : Except String RequestState :=
  match row.state, row.resultRef, row.problemCode with
  | .Started, _, _ => .ok .Started
  | .Succeeded, some resultRef, _ => .ok (.Succeeded resultRef)
  | .Succeeded, none, _ => .error "a SUCCEEDED agent request stores no result ref (SUCCEEDED)"
  | .Failed, _, some problemCode => .ok (.Failed problemCode)
  | .Failed, _, none => .error "a FAILED agent request stores no problem code (FAILED)"

/-- The recorded state under a request identity; another hash under it is a conflict. -/
def recordedRequest (attemptId requestId : String) (requestHash : D) :
    Write D ⟨[], []⟩ (Option RequestState) := do
  let row ← find .agentRequests (attemptId, requestId)
  match row with
  | none => return none
  | some request => do
    let state ← requireOk (requestStateFrom request) .InvariantViolated
    Writer.ensure (request.requestHash = requestHash) (.AgentRequestConflict attemptId requestId)
    return some state

inductive AgentRequestOpened where
  | Started
  | Reconciled (state : RequestState)
  deriving Repr, DecidableEq

/-- `Store::open_agent_request`. -/
def openAgentRequest (credential : AgentCredential D) (operation : AgentOperation)
    (requestId : String) (requestHash : D) :
    Write D ⟨[.agentRequests], []⟩ AgentRequestOpened := do
  (authenticateAgentSession credential).widen (by decide) (by decide)
  let recorded ← (recordedRequest credential.attemptId requestId requestHash).widen
    (by decide) (by decide)
  match recorded with
  | some state => return .Reconciled state
  | none => do
    insert .agentRequests (credential.attemptId, requestId)
      ⟨requestHash, operation, .Started, none, none⟩
    return .Started

def AgentRequest.succeeded (resultRef : String) (r : AgentRequest D) : AgentRequest D :=
  { r with state := .Succeeded, resultRef := some resultRef, problemCode := none }

/-- `Store::complete_agent_request`. -/
def completeAgentRequest (credential : AgentCredential D) (requestId resultRef : String) :
    Write D ⟨[], [.agentRequests]⟩ Unit := do
  (authenticateAgentSession credential).widen (by decide) (by decide)
  let row ← find .agentRequests (credential.attemptId, requestId)
  match row.map AgentRequest.state with
  | some .Started =>
    amend .agentRequests (credential.attemptId, requestId) (AgentRequest.succeeded resultRef)
  | some .Succeeded => pure ()
  | some .Failed => Writer.fail (.InvariantViolated
      s!"agent request {requestId} is FAILED; success cannot overwrite it")
  | none => Writer.fail (.InvariantViolated
      s!"agent request {requestId} has no row to complete")

/-- `Store::fail_agent_request`. -/
def failAgentRequest (credential : AgentCredential D) (requestId problemCode : String) :
    Write D ⟨[], [.agentRequests]⟩ Unit := do
  (authenticateAgentSession credential).widen (by decide) (by decide)
  amend .agentRequests (credential.attemptId, requestId) fun r =>
    if r.state = .Started then
      { r with state := .Failed, problemCode := some problemCode, resultRef := none }
    else r

/-! ## Candidate submission -/

structure CandidateSubmission (D : Type) where
  credential : AgentCredential D
  requestId : String
  requestHash : D
  candidate : CandidateResult D
  expectedTaskRevision : Int

structure CandidateCommitted where
  candidateDigest : String
  taskRevision : Int
  runRevision : Int
  deriving Repr, DecidableEq

structure SubmissionOutcome where
  committed : CandidateCommitted
  reconciled : Bool
  deriving Repr, DecidableEq

/-- What the authenticated Attempt leads to. -/
structure SubmissionLineage (D : Type) where
  runId : String
  taskId : String
  runRevision : Int
  specDigest : D
  deriving Repr, DecidableEq

def GoalPhase.admitsSubmission : GoalPhase → Bool
  | .Planning | .Active | .Evaluating => true
  | _ => false

/-- The authority part of T6. -/
def submissionAuthority (s : CandidateSubmission D) :
    Write D ⟨[], []⟩ (SubmissionLineage D) := do
  let attemptId := s.credential.attemptId
  let stale := StoreError.SubmissionStaleAuthority attemptId
  let attempt ← fetch .attempts attemptId (stale "the Attempt does not exist")
  let attemptStatus ← fetch .attemptStatus attemptId (stale "the Attempt does not exist")
  Writer.ensure (attemptStatus.terminal = false) (stale "the Attempt is terminal (1)")
  let run ← fetch .runStatus attempt.runId (stale "the Attempt's Run has no status row")
  let runPhase := run.phase.asStr
  Writer.ensure (run.phase = .Active ∧ run.activeSlot ≠ none)
    (stale s!"the Run is {runPhase}, not Active")
  Writer.ensure (run.currentAttemptId = some attemptId)
    (stale "the Attempt is no longer the Run's current one")
  let task ← fetch .tasks run.taskId (stale "the Run's Task no longer exists")
  let taskPhase := task.phase.asStr
  Writer.ensure (task.phase = .Active) (stale s!"the Task is {taskPhase}, not Active")
  Writer.ensure (task.activeRunId = some attempt.runId)
    (stale "the Task's responsible-Run pointer moved")
  let goal ← find .goals task.goalId
  let goalPhase := goal.elim "absent" fun g => g.phase.asStr
  Writer.ensure (goal.any (·.phase.admitsSubmission) = true)
    (stale s!"the Goal is {goalPhase}; Task submission authority is gone")
  Writer.ensure (task.revision = s.expectedTaskRevision)
    (.RevisionConflict "tasks" run.taskId s.expectedTaskRevision (some task.revision))
  return ⟨attempt.runId, run.taskId, run.revision, task.specDigest⟩

variable [DigestScheme D]

/-- The payload a manifest entry names on one side, if it names one. -/
def sideBlob (entry : Value) (side : String) : Option String :=
  match (entry.get side).bind (·.get "blob") with
  | some (.str blob) => some blob
  | _ => none

/-- The digest one side of an entry refers to. -/
def referencedSide (artifact : D) (entry : Value) (side : String) :
    Except String (Option D) :=
  match sideBlob entry side with
  | none => .ok none
  | some blob =>
    match fromDisplay blob with
    | some digest => .ok (some digest)
    | none => .error s!"artifact {toDisplay artifact} has an unparsable {side} blob reference"

/-- Every payload the entries of a manifest refer to. -/
def referencedBlobs (artifact : D) : List Value → Except String (List D)
  | [] => .ok []
  | entry :: rest => do
    let before ← referencedSide artifact entry "before"
    let after ← referencedSide artifact entry "after"
    let others ← referencedBlobs artifact rest
    return before.toList ++ after.toList ++ others

/-- The payloads of a stored manifest. -/
def manifestPayloads (artifact : D) (canonicalJson : String) : Except String (List D) :=
  match parse canonicalJson with
  | .error e => .error s!"artifact {toDisplay artifact} does not parse: {e.display}"
  | .ok manifest =>
    match manifest.get "entries" with
    | some (.arr entries) => referencedBlobs artifact entries
    | _ => .error s!"artifact {toDisplay artifact} has no readable entries"

/-- `ensure_artifact_complete`. -/
def ensureArtifactComplete (artifact : D) (canonicalJson : String) : Write D ⟨[], []⟩ Unit := do
  let referenced ← requireOk (manifestPayloads artifact canonicalJson) .CandidateInvalid
  let members ← Writer.read fun d : Db D =>
    ((d.rows .artifactMembers).filter fun p => p.1.1 == artifact).map (·.1.2)
  Writer.require (if referenced.all members.contains then some () else none)
    (.CandidateInvalid s!"artifact {toDisplay artifact} is incomplete: the manifest references payload absent from its stored members")

/-- An output's Artifact exists with the declared kind, is complete, and was produced by this
    Run for this slot. -/
def validateOutput (runId : String) (spec : TaskSpec D) (output : CandidateOutput D) :
    Write D ⟨[], []⟩ Unit := do
  let slot := debugText output.slot
  let submitted := toDisplay output.artifact
  let artifact ← fetch .artifacts output.artifact (.CandidateInvalid
    s!"output {slot} references artifact {submitted} which does not exist")
  let declared ← Writer.require (spec.outputs.find? fun o => o.name == output.slot)
    (.InvariantViolated "validate_against_spec already proved the slot is declared")
  requireOk ((kindPermitted declared artifact.artifactKind).mapError (·.display)) .CandidateInvalid
  ensureArtifactComplete output.artifact artifact.canonicalJson
  let record ← fetch .productionRecords (runId, output.slot) (.CandidateProvenanceInvalid
    s!"run {runId} has no production record for slot {slot}")
  let produced := toDisplay record.artifactDigest
  Writer.ensure (record.artifactDigest = output.artifact) (.CandidateProvenanceInvalid
    s!"run {runId} slot {slot} produced {produced}, not {submitted}")

/-- The content part of T6. -/
def submissionContent (candidate : CandidateResult D) (lineage : SubmissionLineage D) :
    Write D ⟨[], []⟩ Unit := do
  let runId := lineage.runId
  let taskId := lineage.taskId
  Writer.ensure (candidate.runId = runId ∧ candidate.taskId = taskId) (.CandidateInvalid
    s!"the candidate binds task {candidate.taskId} run {candidate.runId}, but the authenticated lineage derives task {taskId} run {runId}")
  let stored ← fetch .taskSpecs lineage.specDigest
    (.InvariantViolated "the task's stored specification is not present")
  let spec ← requireOk ((TaskSpec.fromCanonicalJson (D := D) stored.canonicalJson).mapError
    (DecodeError.message "task specification")) .CandidateInvalid
  requireOk ((candidate.validateAgainstSpec spec).mapError (·.display)) .CandidateInvalid
  Writer.forEach (validateOutput runId spec) candidate.outputs
  let existing ← Writer.read fun d : Db D =>
    (d.rows .candidates).find? fun p => p.2.runId == runId
  Writer.ensure (existing = none) (.CandidateExists runId (toDisplay candidate.digest))

/-- The immutable rows of a Candidate. -/
def insertCandidate (candidate : CandidateResult D) (lineage : SubmissionLineage D) :
    Write D ⟨[.candidates, .candidateOutputs], []⟩ Unit := do
  insert .candidates candidate.digest
    ⟨lineage.taskId, lineage.runId, candidate.toCanonicalJson⟩
  Writer.forEach (fun output : CandidateOutput D =>
    insert .candidateOutputs (candidate.digest, output.slot)
      ⟨output.artifact, lineage.runId⟩) candidate.outputs

def RunStatus.submitted (candidateDigest : D) (s : RunStatus D) : RunStatus D :=
  { s with
    phase := .Finalizing
    terminalTarget := some .Completed
    candidateDigest := some candidateDigest }

/-- The request's outcome; a row left STARTED or FAILED is overwritten. -/
def recordOutcome (s : CandidateSubmission D) (priorRow : Bool) :
    Write D ⟨[.agentRequests], [.agentRequests]⟩ Unit :=
  let resultRef := toDisplay s.candidate.digest
  let key := (s.credential.attemptId, s.requestId)
  if priorRow then amend .agentRequests key (AgentRequest.succeeded resultRef)
  else insert .agentRequests key
    ⟨s.requestHash, .TaskSubmitResult, .Succeeded, some resultRef, none⟩

/-- `load_committed_outcome`. -/
def loadCommittedOutcome (candidate : CandidateResult D) (digest : D) :
    Write D ⟨[], []⟩ CandidateCommitted := do
  let found ← find .candidates digest
  let stored ← Writer.require (found.filter fun row => row.runId == candidate.runId)
    (.InvariantViolated
      s!"an agent request references candidate {toDisplay digest} which is not stored")
  Writer.ensure (stored.canonicalJson = candidate.toCanonicalJson)
    (.ContentIdentityConflict "agent_requests" (toDisplay digest)
      "a recorded agent-request outcome names a candidate whose content disagrees")
  let task ← find .tasks candidate.taskId
  let run ← find .runStatus candidate.runId
  return ⟨toDisplay digest, task.elim 0 (·.revision), run.elim 0 (·.revision)⟩

def submissionAccess : Access TableName :=
  ⟨[.candidates, .candidateOutputs, .agentRequests, .eventJournal],
    [.runStatus, .tasks, .agentRequests, .journalEpochs]⟩

/-- The part of T6 after the ledger found no committed outcome. -/
def submitFresh (ambient : Ambient) (s : CandidateSubmission D) (priorRow : Bool) :
    Write D submissionAccess SubmissionOutcome := do
  let lineage ← (submissionAuthority s).widen (by decide) (by decide)
  (submissionContent s.candidate lineage).widen (by decide) (by decide)
  (insertCandidate s.candidate lineage).widen (by decide) (by decide)
  let runRevision ← updateRevisioned .runStatus lineage.runId lineage.runRevision
    (RunStatus.submitted s.candidate.digest)
  let taskRevision ← updateRevisioned .tasks lineage.taskId s.expectedTaskRevision
    fun t => { t with phase := .Evaluating }
  (recordOutcome s priorRow).widen (by decide) (by decide)
  let _ ← (appendInternalEvent ambient "candidate.submitted").widen (by decide) (by decide)
  return ⟨⟨toDisplay s.candidate.digest, taskRevision, runRevision⟩, false⟩

/-- `apply_candidate_submission`. -/
def applyCandidateSubmission (ambient : Ambient) (s : CandidateSubmission D) :
    Write D submissionAccess SubmissionOutcome := do
  (authenticateAgentSession s.credential).widen (by decide) (by decide)
  let recorded ← (recordedRequest s.credential.attemptId s.requestId s.requestHash).widen
    (by decide) (by decide)
  match recorded with
  | some (.Succeeded resultRef) => do
    let digest ← Writer.require (fromDisplay resultRef)
      (.InvariantViolated s!"agent request stores an unparsable result ref {resultRef}")
    let committed ← (loadCommittedOutcome s.candidate digest).widen (by decide) (by decide)
    return ⟨committed, true⟩
  | some _ => submitFresh ambient s true
  | none => submitFresh ambient s false

/-- What a submission writes, once it is authorized and its content has been checked. -/
def submissionWrites (ambient : Ambient) (s : CandidateSubmission D) (priorRow : Bool)
    (lineage : SubmissionLineage D) : Write D submissionAccess SubmissionOutcome := do
  (insertCandidate s.candidate lineage).widen (by decide) (by decide)
  let runRevision ← updateRevisioned .runStatus lineage.runId lineage.runRevision
    (RunStatus.submitted s.candidate.digest)
  let taskRevision ← updateRevisioned .tasks lineage.taskId s.expectedTaskRevision
    fun t => { t with phase := .Evaluating }
  (recordOutcome s priorRow).widen (by decide) (by decide)
  let _ ← (appendInternalEvent ambient "candidate.submitted").widen (by decide) (by decide)
  return ⟨⟨toDisplay s.candidate.digest, taskRevision, runRevision⟩, false⟩

variable {ambient : Ambient} {s : CandidateSubmission D} {lineage : SubmissionLineage D}
  {r : SubmissionOutcome} {d d' : Db D}

/-- A submission whose request has not succeeded commits where its guards pass and its writes
    do. -/
theorem applyCandidateSubmission_of {recorded : Option RequestState}
    (hsession : (authenticateAgentSession s.credential).Commits d () d)
    (hrequest : (recordedRequest s.credential.attemptId s.requestId s.requestHash).Commits d
      recorded d) (hopen : ∀ resultRef, recorded ≠ some (.Succeeded resultRef))
    (hauthority : (submissionAuthority s).Commits d lineage d)
    (hcontent : (submissionContent s.candidate lineage).Commits d () d)
    (hwrites : (submissionWrites ambient s recorded.isSome lineage).Commits d r d') :
    (applyCandidateSubmission ambient s).Commits d r d' := by
  have hfresh : (submitFresh ambient s recorded.isSome).Commits d r d' :=
    Writer.then_of hauthority (Writer.then_of hcontent hwrites)
  refine Writer.then_of hsession (Writer.then_of hrequest ?_)
  cases recorded with
  | none => exact hfresh
  | some state =>
    cases state with
    | Succeeded resultRef => exact absurd rfl (hopen resultRef)
    | Started | Failed => exact hfresh

/-- The content of a Candidate that fits its specification is accepted where each output is. -/
theorem submissionContent_of {candidate : CandidateResult D} {stored : StoredTaskSpec D}
    {spec : TaskSpec D} (hrun : candidate.runId = lineage.runId)
    (htask : candidate.taskId = lineage.taskId)
    (hstored : d.find .taskSpecs lineage.specDigest = some stored)
    (hspec : TaskSpec.fromCanonicalJson stored.canonicalJson = .ok spec)
    (hvalid : candidate.validateAgainstSpec spec = .ok ()) (houtputs : ∀ output ∈ candidate.outputs,
      (validateOutput lineage.runId spec output).Commits d () d)
    (hfirst : ((d.rows .candidates).find? fun p => p.2.runId == lineage.runId) = none) :
    (submissionContent candidate lineage).Commits d () d := by
  refine Writer.then_of (Writer.ensure_of ⟨hrun, htask⟩) ?_
  refine Writer.then_of (fetch_of hstored) ?_
  refine Writer.then_of (requireOk_of (by rw [hspec]; rfl)) ?_
  refine Writer.then_of (requireOk_of (by rw [hvalid]; rfl)) ?_
  exact Writer.then_of (Writer.forEach_of houtputs)
    (Writer.then_of (Writer.read_of hfirst) (Writer.ensure_of rfl))

/-! ## Reads -/

/-- The fence as the two reads apply it, on their own snapshot. -/
def readFence (credential : AgentCredential D) (d : Db D) : Except StoreError Unit :=
  let unauthorized := StoreError.AgentControlUnauthorized credential.attemptId
  match sessionOf credential.attemptId d, d.find .systemState () with
  | none, _ => .error (unauthorized "no AgentControlSession exists for the Attempt")
  | some _, none => .error (.SqliteNull "restore_generation")
  | some session, some system =>
    if session.2.restoreGeneration ≠ system.restoreGeneration then
      .error (unauthorized "the session belongs to an older RestoreGeneration")
    else if session.2.state ≠ .ACTIVE then
      .error (unauthorized "the session is not ACTIVE")
    else if session.2.credentialHash ≠ credential.verifier then
      .error (unauthorized "the presented bearer does not match the session verifier")
    else .ok ()

structure SubmissionContext where
  runId : String
  taskId : String
  deriving Repr, DecidableEq

/-- `Store::agent_submission_context`: it does not look at the phases of Run and Task, so that
    a committed submission can still be repeated. -/
def agentSubmissionContext (credential : AgentCredential D) (d : Db D) :
    Except StoreError SubmissionContext := do
  readFence credential d
  let lineage := (d.find .attempts credential.attemptId).bind fun attempt =>
    (d.find .runStatus attempt.runId).map fun status =>
      (⟨attempt.runId, status.taskId⟩ : SubmissionContext)
  match lineage with
  | some context => .ok context
  | none => .error (.SubmissionStaleAuthority credential.attemptId "the Attempt has no Run")

structure AgentSessionDescription where
  sessionId : String
  attemptId : String
  runId : String
  taskId : String
  taskPhase : String
  taskRevision : Int
  outputs : List TaskOutput
  deriving Repr, DecidableEq

/-- The session, Run and Task of an Attempt that still has authority. -/
def describedLineage (attemptId : String) (d : Db D) :
    Option (String × String × String × Task D) := do
  let session ← sessionOf attemptId d
  let attempt ← d.find .attempts attemptId
  let _ ← (d.find .attemptStatus attemptId).filter fun s => !s.terminal
  let run ← (d.find .runStatus attempt.runId).filter fun r =>
    r.phase == .Active && r.currentAttemptId == some attemptId
  let task ← (d.find .tasks run.taskId).filter fun t =>
    t.phase == .Active && t.activeRunId == some attempt.runId
  return (session.1, attempt.runId, run.taskId, task)

/-- `Store::describe_agent_session`. -/
def describeAgentSession (credential : AgentCredential D) (d : Db D) :
    Except StoreError AgentSessionDescription := do
  readFence credential d
  match describedLineage credential.attemptId d with
  | none => .error (.AgentControlUnauthorized credential.attemptId
      "the Attempt no longer carries current Run/Task authority")
  | some (sessionId, runId, taskId, task) =>
    match d.find .taskSpecs task.specDigest with
    | none => .error .SqliteNoRow
    | some stored =>
      match TaskSpec.fromCanonicalJson (D := D) stored.canonicalJson with
      | .error e => .error (.CandidateInvalid (e.message "task specification"))
      | .ok spec => .ok {
          sessionId
          attemptId := credential.attemptId
          runId
          taskId
          taskPhase := task.phase.asStr
          taskRevision := task.revision
          outputs := spec.outputs }

/-! ## What a submission did -/

/-- The Run, Task and Goal a fresh submission found. -/
structure SubmissionAuthorized (s : CandidateSubmission D) (lineage : SubmissionLineage D)
    (d : Db D) (run : RunStatus D) (task : Task D) (goal : Goal) : Prop where
  attempt_run : ∃ a, d.find .attempts s.credential.attemptId = some a ∧ a.runId = lineage.runId
  run_found : d.find .runStatus lineage.runId = some run
  run_active : run.phase = .Active
  run_current : run.currentAttemptId = some s.credential.attemptId
  run_revision : run.revision = lineage.runRevision
  run_task : run.taskId = lineage.taskId
  task_found : d.find .tasks lineage.taskId = some task
  task_active : task.phase = .Active
  task_responsible : task.activeRunId = some lineage.runId
  goal_found : d.find .goals task.goalId = some goal
  goal_open : goal.phase.admitsSubmission = true

omit [DigestScheme D] in
theorem submissionAuthority_commits (h : (submissionAuthority s).Commits d lineage d') :
    ∃ run task goal, SubmissionAuthorized s lineage d run task goal := by
  obtain ⟨attempt, hattempt, h₁⟩ := fetch_then h
  obtain ⟨_, -, h₂⟩ := fetch_then h₁
  obtain ⟨-, h₃⟩ := Writer.ensure_then h₂
  obtain ⟨run, hrun, h₄⟩ := fetch_then h₃
  obtain ⟨⟨hactive, -⟩, h₅⟩ := Writer.ensure_then h₄
  obtain ⟨hcurrent, h₆⟩ := Writer.ensure_then h₅
  obtain ⟨task, htask, h₇⟩ := fetch_then h₆
  obtain ⟨htaskActive, h₈⟩ := Writer.ensure_then h₇
  obtain ⟨hresponsible, h₉⟩ := Writer.ensure_then h₈
  have h₁₀ := find_then h₉
  obtain ⟨hgoal, h₁₁⟩ := Writer.ensure_then h₁₀
  obtain ⟨-, h₁₂⟩ := Writer.ensure_then h₁₁
  obtain ⟨goal, hfound, hopen⟩ := (Option.any_eq_true _ _).mp hgoal
  obtain ⟨rfl, rfl⟩ := Writer.commits_pure.mp h₁₂
  exact ⟨run, task, goal, ⟨attempt, hattempt, rfl⟩, hrun, hactive, hcurrent, rfl, rfl, htask, htaskActive, hresponsible,
    hfound, hopen⟩

/-- A fresh submission moved exactly its Run and its Task. -/
structure Submitted (s : CandidateSubmission D) (d d' : Db D) (lineage : SubmissionLineage D)
    (run : RunStatus D) (task : Task D) (goal : Goal) : Prop where
  authorized : SubmissionAuthorized s lineage d run task goal
  statuses : ∀ id, d'.find .runStatus id = if lineage.runId = id then
    some { run.submitted s.candidate.digest with revision := run.revision + 1 }
    else d.find .runStatus id
  tasks : ∀ id, d'.find .tasks id = if lineage.taskId = id then
    some { task with phase := .Evaluating, revision := task.revision + 1 }
    else d.find .tasks id

/-- A submission that went on moved the Run and the Task its authority derives. -/
theorem submitFresh_moves {priorRow : Bool} (h : (submitFresh ambient s priorRow).Commits d r d') :
    ∃ lineage run task goal, (submissionAuthority s).Commits d lineage d ∧
      Submitted s d d' lineage run task goal := by
  obtain ⟨lineage, hauthority, h₁⟩ := Writer.guard_then h
  obtain ⟨_, -, h₂⟩ := Writer.guard_then h₁
  obtain ⟨_, d₁, hinsert, h₃⟩ := Writer.widen_then h₂
  obtain ⟨d₂, oldRun, hrun, h₄⟩ := update_then h₃
  obtain ⟨d₃, oldTask, htask, h₅⟩ := update_then h₄
  obtain ⟨_, d₄, houtcome, h₆⟩ := Writer.widen_then h₅
  obtain ⟨_, d₅, hevent, h₇⟩ := Writer.widen_then h₆
  obtain ⟨-, rfl⟩ := Writer.commits_pure.mp h₇
  obtain ⟨run, task, goal, hauth⟩ := submissionAuthority_commits hauthority
  -- Neither the Candidate's rows nor the ledger and the event touch Runs and Tasks.
  have hbefore : ∀ i, i ∉ [TableName.candidates, .candidateOutputs] → d₁.table i = d.table i :=
    fun i hi => hinsert.within.same i hi (by simp)
  have hafter : ∀ i, i ∉ [TableName.agentRequests, .eventJournal, .journalEpochs] →
      d'.table i = d₃.table i := by
    intro i hi
    simp only [List.mem_cons, List.not_mem_nil, or_false, not_or] at hi
    rw [hevent.within.same i (by simp [eventAccess, hi]) (by simp [eventAccess, hi]),
      houtcome.within.same i (by simp [hi]) (by simp [hi])]
  have hsameRun : run = oldRun := by
    have hlast := hrun.before
    rw [State.find_congr (hbefore _ (by decide)), hauth.run_found] at hlast
    exact Option.some.inj hlast
  have hsameTask : task = oldTask := by
    have hlast := htask.before
    rw [State.find_congr (hrun.others _ (by decide)), State.find_congr (hbefore _ (by decide)),
      hauth.task_found] at hlast
    exact Option.some.inj hlast
  refine ⟨lineage, run, task, goal, hauthority, hauth, fun id => ?_, fun id => ?_⟩
  · rw [State.find_congr (hafter _ (by decide)), State.find_congr (htask.others _ (by decide)),
      hrun.after, State.find_congr (hbefore _ (by decide)), ← hrun.at_revision, ← hsameRun]
    rfl
  · rw [State.find_congr (hafter _ (by decide)), htask.after,
      State.find_congr (hrun.others _ (by decide)), State.find_congr (hbefore _ (by decide)),
      ← htask.at_revision, ← hsameTask]
    rfl

theorem submitFresh_commits {priorRow : Bool} (h : (submitFresh ambient s priorRow).Commits d r d') :
    ∃ lineage run task goal, Submitted s d d' lineage run task goal := by
  obtain ⟨lineage, run, task, goal, -, hsubmitted⟩ := submitFresh_moves h
  exact ⟨lineage, run, task, goal, hsubmitted⟩

/-- A committed submission is a replay that changed nothing, or a fresh one. -/
theorem applyCandidateSubmission_commits (h : (applyCandidateSubmission ambient s).Commits d r d') :
    d' = d ∨ ∃ lineage run task goal, Submitted s d d' lineage run task goal := by
  obtain ⟨_, -, h₁⟩ := Writer.guard_then h
  obtain ⟨recorded, -, h₂⟩ := Writer.guard_then h₁
  match recorded, h₂ with
  | some (.Succeeded resultRef), h₂ =>
    obtain ⟨digest, -, h₃⟩ := Writer.require_then h₂
    obtain ⟨_, -, h₄⟩ := Writer.guard_then h₃
    exact .inl (Writer.commits_pure.mp h₄).2
  | some .Started, h₂ => exact .inr (submitFresh_commits h₂)
  | some (.Failed _), h₂ => exact .inr (submitFresh_commits h₂)
  | none, h₂ => exact .inr (submitFresh_commits h₂)

end Pantheon
