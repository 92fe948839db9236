/-
  Attempts and Run status in the store (`pantheon-store/src/execution.rs`).
  T4 creates an Attempt with its session under an Active Run, T4a rekeys a session before
  contact, T4b crosses the launch-contact boundary, observations move an Attempt, and
  `applyConcludeRun` ends a Run by revision alone: it reads neither the Run's phase nor its
  Candidate. After each operation stands what a commit of it did to Runs and Attempts.
-/
import Pantheon.Store.Command

namespace Pantheon

open Relational

variable {D : Type} [DecidableEq D]

/-! ## Views -/

structure AttemptRecord where
  id : String
  runId : String
  ordinal : Int
  launchKey : String
  deriving Repr, DecidableEq

structure AgentControlSessionView where
  id : String
  attemptId : String
  restoreGeneration : String
  credentialRevision : Int
  state : SessionState
  deriving Repr, DecidableEq

structure AttemptLineageView where
  attempt : AttemptRecord
  observedExecution : Observation
  terminal : Bool
  launchContactState : LaunchContactState
  statusRevision : Int
  session : AgentControlSessionView
  deriving Repr, DecidableEq

structure RunExecutionView (D : Type) where
  runId : String
  taskId : String
  bindingDigest : D
  sourceSnapshotDigest : D
  phase : RunPhase
  revision : Int
  currentAttemptId : Option String
  contextPlanDigest : Option D
  attempt : Option AttemptLineageView
  deriving Repr, DecidableEq

/-- The session of an Attempt; an Attempt has at most one. -/
def sessionOf (attemptId : String) (d : Db D) : Option (String × AgentControlSession D) :=
  (d.rows .agentControlSessions).find? fun p => p.2.attemptId == attemptId

/-- The join of one status row with its Attempt and session. -/
def lineageView (d : Db D) (p : String × AttemptStatus) : Option AttemptLineageView := do
  let attempt ← d.find .attempts p.1
  let session ← sessionOf p.1 d
  return {
    attempt := ⟨p.1, p.2.runId, attempt.ordinal, attempt.launchKey⟩
    observedExecution := p.2.observedExecution
    terminal := p.2.terminal
    launchContactState := p.2.launchContactState
    statusRevision := p.2.revision
    session := ⟨session.1, p.1, session.2.restoreGeneration, session.2.credentialRevision,
      session.2.state⟩ }

/-- The nonterminal lineages of a Run. -/
def lineages (runId : String) (d : Db D) : List AttemptLineageView :=
  ((d.rows .attemptStatus).filter fun p => p.2.runId == runId && !p.2.terminal).filterMap
    (lineageView d)

/-- `load_current_lineage`. -/
def loadCurrentLineage (runId : String) (d : Db D) :
    Except StoreError (Option AttemptLineageView) :=
  match lineages runId d with
  | [] => .ok none
  | [view] =>
    if view.session.state = .ACTIVE then .ok (some view)
    else .error (.InvariantViolated
      s!"nonterminal attempt {view.attempt.id} has a REVOKED session")
  | views => .error (.InvariantViolated
      s!"run {runId} has {views.length} nonterminal attempts; the partial unique index makes this unreachable without schema tampering")

/-- `Store::run_execution_view`. -/
def runExecutionView (runId : String) (d : Db D) :
    Except StoreError (Option (RunExecutionView D)) :=
  match d.find .runs runId, d.find .runStatus runId with
  | some run, some status => do
    let attempt ← loadCurrentLineage runId d
    return some {
      runId
      taskId := run.taskId
      bindingDigest := run.bindingDigest
      sourceSnapshotDigest := run.contextSourceSnapshotDigest
      phase := status.phase
      revision := status.revision
      currentAttemptId := status.currentAttemptId
      contextPlanDigest := (d.find .runContextPlans runId).map (·.contextPlanDigest)
      attempt }
  | _, _ => .ok none

/-- The Attempts a Run owns. -/
def attemptsOf (runId : String) (d : Db D) : List (String × Attempt) :=
  (d.rows .attempts).filter fun p => p.2.runId == runId

/-- `Store::attempt_history_count`. -/
def attemptHistoryCount (runId : String) (d : Db D) : Nat := (attemptsOf runId d).length

/-- `Store::workspace_readiness`. -/
def workspaceReadiness (runId : String) (d : Db D) : Option (WorkspacePhase × Presence) := do
  let run ← d.find .runs runId
  let snapshot ← d.find .contextSourceSnapshots run.contextSourceSnapshotDigest
  let workspace ← d.find .workspaces snapshot.workspaceId
  return (workspace.phase, workspace.materialization)

/-- `Store::attempt_status_revision`; a missing row is an error of the query. -/
def attemptStatusRevision (attemptId : String) (d : Db D) : Except StoreError Int :=
  match d.find .attemptStatus attemptId with
  | some status => .ok status.revision
  | none => .error .SqliteNoRow

/-- `Store::binding_canonical_json`. -/
def bindingCanonicalJson (digest : D) (d : Db D) : Option String :=
  (d.find .executionBindings digest).map (·.canonicalJson)

/-! ## Attempt creation -/

structure AttemptCreation (D : Type) where
  runId : String
  attemptId : String
  launchKey : String
  sessionId : String
  credentialVerifier : D
  expectedRunStatusRevision : Int
  deriving Repr, DecidableEq

structure AttemptCreated where
  attemptId : String
  runId : String
  ordinal : Int
  launchKey : String
  sessionId : String
  restoreGeneration : String
  deriving Repr, DecidableEq

/-- An Attempt of this Run that is not terminal. -/
def liveAttempt (runId : String) (d : Db D) : Option (String × AttemptStatus) :=
  (d.rows .attemptStatus).find? fun p => p.2.runId == runId && !p.2.terminal

/-- `COALESCE(MAX(ordinal), 0) + 1`. -/
def nextOrdinal (runId : String) (d : Db D) : Int :=
  (attemptsOf runId d).foldl (fun top p => max top p.2.ordinal) 0 + 1

/-- The restore generation in force. -/
def restoreGeneration {A : Access TableName} : Write D A String := do
  let system ← fetch .systemState ()
    (.InvariantViolated "system_state has no installation identity row")
  return system.restoreGeneration

def newAttemptStatus (runId : String) : AttemptStatus :=
  ⟨runId, .Absent, false, 1, .NotContacted, none, none, none, none⟩

def attemptCreationAccess : Access TableName :=
  ⟨[.attempts, .attemptStatus, .agentControlSessions], [.runStatus]⟩

/-- The guards of T4: an Active Run at the expected revision, an attached plan, no live
    Attempt. -/
def attemptCreationGuards (c : AttemptCreation D) : Write D ⟨[], []⟩ Unit := do
  let notActive : StoreError :=
    .AttemptNotLaunchReady c.runId "the Run does not exist or is not Active"
  let _ ← fetch .runs c.runId notActive
  let status ← fetch .runStatus c.runId notActive
  Writer.ensure (status.phase = .Active) notActive
  Writer.ensure (status.revision = c.expectedRunStatusRevision)
    (.RevisionConflict "run_status" c.runId c.expectedRunStatusRevision (some status.revision))
  let attached ← find .runContextPlans c.runId
  Writer.ensure (attached ≠ none) (.AttemptNotLaunchReady c.runId
    "no ContextPlan is attached; the Run is not LaunchReady")
  let live ← Writer.read (liveAttempt c.runId)
  let liveId := live.elim "" Prod.fst
  Writer.ensure (live = none) (.AttemptNotLaunchReady c.runId
    s!"nonterminal attempt {liveId} already owns this Run")

/-- `apply_attempt_creation`. -/
def applyAttemptCreation (c : AttemptCreation D) : Write D attemptCreationAccess AttemptCreated := do
  (attemptCreationGuards c).widen (by decide) (by decide)
  let ordinal ← Writer.read (nextOrdinal c.runId)
  let generation ← restoreGeneration
  insert .attempts c.attemptId ⟨c.runId, ordinal, c.launchKey⟩
  insert .attemptStatus c.attemptId (newAttemptStatus c.runId)
  insert .agentControlSessions c.sessionId
    ⟨c.attemptId, generation, 1, c.credentialVerifier, none, .ACTIVE, none, none⟩
  let _ ← updateRevisioned .runStatus c.runId c.expectedRunStatusRevision
    fun s => { s with currentAttemptId := some c.attemptId }
  return ⟨c.attemptId, c.runId, ordinal, c.launchKey, c.sessionId, generation⟩

/-! ## Rekey and launch contact -/

/-- The current Attempt of a Run that is Active. -/
def currentUnderActive (runId : String) (d : Db D) : Option (Option String) :=
  ((d.find .runStatus runId).filter fun s => s.phase == .Active).map (·.currentAttemptId)

/-- `str::split_once`: the text before the first separator and the text after it. -/
def splitOnce (separator : Char) (text : String) : Option (String × String) :=
  match text.toList.span (· ≠ separator) with
  | (_, []) => none
  | (before, _ :: after) => some (String.ofList before, String.ofList after)

/-- `str::split_once` at a bar. -/
def splitOnceBar (text : String) : Option (String × String) := splitOnce '|' text

/-- `forbid_rekey_unless_precontact`. The session's generation and state are read as one text
    and split at its first bar, so a generation that holds a bar is refused. -/
def forbidRekeyUnlessPrecontact (attemptId : String) : Write D ⟨[], []⟩ Unit := do
  let status ← fetch .attemptStatus attemptId
    (.AgentControlRekeyForbidden attemptId "the Attempt does not exist")
  Writer.ensure (status.terminal = false)
    (.AgentControlRekeyForbidden attemptId "the Attempt is terminal")
  Writer.ensure (status.launchContactState = .NotContacted)
    (.AgentControlRekeyForbidden attemptId
      "launch contact is CONTACT_MAY_HAVE_OCCURRED; the credential revision is frozen")
  let generation ← restoreGeneration
  let session ← Writer.read (sessionOf attemptId)
  let bound ← Writer.require session
    (.AgentControlRekeyForbidden attemptId "the Attempt owns no AgentControlSession")
  let parts ← Writer.require
    (splitOnceBar (bound.2.restoreGeneration ++ "|" ++ bound.2.state.asStr))
    (.InvariantViolated "session generation/state unreadable")
  let state := parts.2
  Writer.ensure (state = "ACTIVE")
    (.AgentControlRekeyForbidden attemptId s!"the session is {state}, not ACTIVE")
  Writer.ensure (parts.1 = generation)
    (.AgentControlRekeyForbidden attemptId
      "the session belongs to an older RestoreGeneration")
  let owner ← find .attempts attemptId
  let current ← Writer.read fun d : Db D => owner.bind fun a => currentUnderActive a.runId d
  Writer.ensure (current ≠ some none) (.SqliteNull "current_attempt_id")
  Writer.ensure (current.bind id = some attemptId) (.AgentControlRekeyForbidden attemptId
    "the Attempt is no longer the Run's current one under an Active Run")

/-- The rekeyed session row, at the expected credential revision only. -/
def rekeySession (attemptId : String) (newVerifier : D) (expected now : Int) :
    Write D ⟨[], [.agentControlSessions]⟩ Unit := do
  let session ← Writer.read (sessionOf attemptId)
  let conflict : StoreError := .RevisionConflict "agent_control_sessions" attemptId expected
    (session.map (·.2.credentialRevision))
  let row ← Writer.require session conflict
  Writer.ensure (row.2.credentialRevision = expected ∧ row.2.state = .ACTIVE) conflict
  Writer.replace .Sqlite .agentControlSessions row.1
    { row.2 with
      credentialRevision := row.2.credentialRevision + 1
      credentialHash := newVerifier
      credentialRekeyedAt := some now } (by decide)

/-- `apply_rekey`. -/
def applyRekey (ambient : Ambient) (attemptId : String) (newVerifier : D) (expected : Int) :
    Write D ⟨[.eventJournal], [.journalEpochs, .agentControlSessions]⟩ Int := do
  (forbidRekeyUnlessPrecontact attemptId).widen (by decide) (by decide)
  (rekeySession attemptId newVerifier expected ambient.now).widen (by decide) (by decide)
  let _ ← (appendInternalEvent ambient "agent-control.session.rekeyed").widen
    (by decide) (by decide)
  return expected + 1

/-- The authority guards of T4b. -/
def launchContactGuards (runId attemptId : String) (expectedCredential : Int) :
    Write D ⟨[], []⟩ Unit := do
  let current ← Writer.read (currentUnderActive runId)
  Writer.ensure (current ≠ some none) (.SqliteNull "current_attempt_id")
  Writer.ensure (current.bind id = some attemptId) (.LaunchContactStaleAuthority attemptId
    "the Attempt is no longer the Run's current one under an Active Run")
  let session ← Writer.read (sessionOf attemptId)
  let system ← find .systemState ()
  let revision ← Writer.require
    ((session.filter fun p => p.2.state == .ACTIVE &&
      some p.2.restoreGeneration == system.map (·.restoreGeneration)).map
        (·.2.credentialRevision))
    (.LaunchContactStaleAuthority attemptId "no current-generation ACTIVE session exists")
  Writer.ensure (revision = expectedCredential) (.LaunchContactStaleAuthority attemptId
    s!"session credential revision is Some({revision}), not the expected {expectedCredential}")

/-- What T4b assigns. -/
def AttemptStatus.contacted (now : Int) (controllerEpoch : String) (s : AttemptStatus) :
    AttemptStatus :=
  { s with
    launchContactState := .ContactMayHaveOccurred
    launchContactInitiatedAt := some now
    launchContactEpoch := some controllerEpoch }

def attemptEventAccess : Access TableName := ⟨[.eventJournal], [.journalEpochs, .attemptStatus]⟩

/-- `apply_launch_contact`. -/
def applyLaunchContact (ambient : Ambient) (runId attemptId controllerEpoch : String)
    (expectedStatus expectedCredential : Int) : Write D attemptEventAccess Unit := do
  let stale : StoreError := .LaunchContactStaleAuthority attemptId
    "the Attempt is absent, foreign to the Run, or terminal"
  let status ← fetch .attemptStatus attemptId stale
  Writer.ensure (status.runId = runId ∧ status.terminal = false) stale
  if status.launchContactState = .ContactMayHaveOccurred then pure ()
  else do
    (launchContactGuards runId attemptId expectedCredential).widen (by decide) (by decide)
    let _ ← updateRevisioned .attemptStatus attemptId expectedStatus
      (AttemptStatus.contacted ambient.now controllerEpoch)
    let _ ← (appendInternalEvent ambient "run.attempt.contact-initiated").widen
      (by decide) (by decide)

/-! ## Observations -/

inductive ObservationUpdate where
  | Observe (observation : Observation)
  | Terminal (observation : Observation)
  deriving Repr, DecidableEq

/-- `started_at` is set once an execution is seen starting or running. -/
def markStarted (attemptId : String) (observation : Observation) (now : Int) :
    Write D ⟨[], [.attemptStatus]⟩ Unit :=
  if observation = .Starting ∨ observation = .Running then
    amend .attemptStatus attemptId fun s => { s with startedAt := s.startedAt.or (some now) }
  else pure ()

def revokeSession (attemptId : String) (now : Int) :
    Write D ⟨[], [.agentControlSessions]⟩ Unit := do
  let session ← Writer.read (sessionOf attemptId)
  match session.filter fun p => p.2.state == .ACTIVE with
  | some row =>
    Writer.replace .Sqlite .agentControlSessions row.1
      { row.2 with
        state := .REVOKED
        revokedAt := some now
        revocationReason := row.2.revocationReason.or (some "attempt-terminal") } (by decide)
  | none => pure ()

def observationAccess : Access TableName :=
  ⟨[.eventJournal], [.journalEpochs, .attemptStatus, .agentControlSessions]⟩

/-- `apply_observation`. -/
def applyObservation (ambient : Ambient) (attemptId : String) (expected : Int) :
    ObservationUpdate → Write D observationAccess Int
  | .Observe observation => do
    Writer.ensure (observation ≠ .Exited)
      (.InvariantViolated "EXITED is definitive; use the terminal update")
    let revision ← updateRevisioned .attemptStatus attemptId expected
      fun s => { s with observedExecution := observation }
    (markStarted attemptId observation ambient.now).widen (by decide) (by decide)
    return revision
  | .Terminal observation => do
    let status ← find .attemptStatus attemptId
    let detail := status.elim "absent" fun _ => "NOT_CONTACTED"
    Writer.ensure (status.map (·.launchContactState) = some .ContactMayHaveOccurred)
      (.InvariantViolated
        s!"attempt {attemptId} cannot terminalize while launch contact is not proven ({detail})")
    let revision ← updateRevisioned .attemptStatus attemptId expected fun s =>
      { s with observedExecution := observation, terminal := true, finishedAt := some ambient.now }
    (revokeSession attemptId ambient.now).widen (by decide) (by decide)
    let _ ← (appendInternalEvent ambient "run.attempt.terminal").widen (by decide) (by decide)
    return revision

/-! ## Concluding a Run -/

/-- What concluding a Run assigns. -/
def RunStatus.concluded (target : RunPhase) (s : RunStatus D) : RunStatus D :=
  { s with phase := target, terminalTarget := some target, activeSlot := none }

def concludeAccess : Access TableName := ⟨[.eventJournal], [.journalEpochs, .runStatus]⟩

/-- `apply_conclude_run`. -/
def applyConcludeRun (ambient : Ambient) (runId : String) (target : RunPhase) (expected : Int) :
    Write D concludeAccess Unit := do
  Writer.ensure (target = .Failed ∨ target = .Cancelled)
    (.InvariantViolated s!"terminal target {target.asStr} cannot conclude a Run directly")
  let _ ← updateRevisioned .runStatus runId expected (RunStatus.concluded target)
  let _ ← (appendInternalEvent ambient "run.concluded").widen (by decide) (by decide)

/-! ## What a commit did -/

/-- T4 went through: the Run was Active with no live Attempt, and got its Attempt. -/
structure AttemptStarted (c : AttemptCreation D) (d d' : Db D) (status : RunStatus D) : Prop where
  status_found : d.find .runStatus c.runId = some status
  run_active : status.phase = .Active
  no_live : liveAttempt c.runId d = none
  attempts_rows : d'.rows .attempts =
    d.rows .attempts ++ [(c.attemptId, ⟨c.runId, nextOrdinal c.runId d, c.launchKey⟩)]
  attempt_statuses_rows : d'.rows .attemptStatus =
    d.rows .attemptStatus ++ [(c.attemptId, newAttemptStatus c.runId)]
  statuses : ∀ id, d'.find .runStatus id = if c.runId = id then
    some { status with currentAttemptId := some c.attemptId, revision := status.revision + 1 }
    else d.find .runStatus id
  sessions_rows : ∃ generation, d'.rows .agentControlSessions = d.rows .agentControlSessions ++
    [(c.sessionId, ⟨c.attemptId, generation, 1, c.credentialVerifier, none, .ACTIVE, none, none⟩)]

variable {u : Unit} {d d' : Db D} {attemptId : String} {ambient : Ambient} {expected n : Int}
  {observation : Observation}

theorem attemptCreationGuards_commits {c : AttemptCreation D}
    (h : (attemptCreationGuards c).Commits d u d') :
    ∃ status, d.find .runStatus c.runId = some status ∧ status.phase = .Active ∧
      liveAttempt c.runId d = none := by
  obtain ⟨_, -, h₁⟩ := fetch_then h
  obtain ⟨status, hstatus, h₂⟩ := fetch_then h₁
  obtain ⟨hactive, h₃⟩ := Writer.ensure_then h₂
  obtain ⟨-, h₄⟩ := Writer.ensure_then h₃
  have h₅ := find_then h₄
  obtain ⟨-, h₆⟩ := Writer.ensure_then h₅
  have h₇ := Writer.read_then h₆
  obtain ⟨hlive, -⟩ := Writer.commits_ensure.mp h₇
  exact ⟨status, hstatus, hactive, hlive⟩

theorem applyAttemptCreation_commits {c : AttemptCreation D} {r : AttemptCreated}
    (h : (applyAttemptCreation c).Commits d r d') : ∃ status, AttemptStarted c d d' status := by
  obtain ⟨_, hguards, h₁⟩ := Writer.guard_then h
  have h₂ := Writer.read_then h₁
  obtain ⟨generation, d₀, hgeneration, h₃⟩ := Writer.commits_bind.mp h₂
  obtain ⟨system, -, hsystem⟩ := fetch_then hgeneration
  obtain ⟨-, rfl⟩ := Writer.commits_pure.mp hsystem
  obtain ⟨d₁, hattempt, h₄⟩ := insert_then h₃
  obtain ⟨d₂, hstate, h₅⟩ := insert_then h₄
  obtain ⟨d₃, hsession, h₆⟩ := insert_then h₅
  obtain ⟨d₄, old, hupdate, h₇⟩ := update_then h₆
  obtain ⟨-, rfl⟩ := Writer.commits_pure.mp h₇
  obtain ⟨status, hstatus, hactive, hlive⟩ := attemptCreationGuards_commits hguards
  obtain ⟨-, -, -, -, hattempts, -, hother₁⟩ := State.insert_ok hattempt
  obtain ⟨-, -, -, -, hstates, -, hother₂⟩ := State.insert_ok hstate
  obtain ⟨-, -, -, -, hsessions, -, hother₃⟩ := State.insert_ok hsession
  have hframe : ∀ i, i ≠ .attempts → i ≠ .attemptStatus → i ≠ .agentControlSessions →
      d₃.table i = d₀.table i := fun i ha hs hc =>
    (hother₃ i hc).trans ((hother₂ i hs).trans (hother₁ i ha))
  have hold : status = old := by
    have hlast := hupdate.before
    rw [State.find_congr (hframe _ (by decide) (by decide) (by decide)), hstatus] at hlast
    exact Option.some.inj hlast
  refine ⟨status, hstatus, hactive, hlive, ?_, ?_, ?_, generation, ?_⟩
  · rw [State.rows, hupdate.others _ (by decide), hother₃ _ (by decide), hother₂ _ (by decide)]
    exact hattempts
  · rw [State.rows, hupdate.others _ (by decide), hother₃ _ (by decide)]
    refine hstates.trans ?_
    rw [State.rows, hother₁ _ (by decide)]
    rfl
  · intro id
    rw [hupdate.after, State.find_congr (hframe _ (by decide) (by decide) (by decide)),
      ← hupdate.at_revision, ← hold]
    rfl
  · rw [State.rows, hupdate.others _ (by decide)]
    refine hsessions.trans ?_
    rw [State.rows, hother₂ _ (by decide), hother₁ _ (by decide)]
    rfl

theorem sessionOf_iff {id : String} {session : AgentControlSession D} :
    sessionOf attemptId d = some (id, session) ↔
      d.find .agentControlSessions id = some session ∧ session.attemptId = attemptId := by
  have hsearch := State.search_iff (d := d) (i := .agentControlSessions)
    (p := fun q => q.2.attemptId == attemptId) (k := id) (r := session) ?_
  · rw [beq_iff_eq] at hsearch
    exact hsearch
  intro q q' hq hq'
  rw [beq_iff_eq] at hq hq'
  simp [clash, hq, hq']

/-- What T4a assigns. -/
def AgentControlSession.rekeyed (verifier : D) (now : Int) (s : AgentControlSession D) :
    AgentControlSession D :=
  { s with
    credentialRevision := s.credentialRevision + 1
    credentialHash := verifier
    credentialRekeyedAt := some now }

/-- T4a moves the Attempt's session to a new verifier, before launch contact only. -/
theorem applyRekey_commits {verifier : D}
    (h : (applyRekey ambient attemptId verifier expected).Commits d n d') :
    ∃ status sessionId session, d.find .attemptStatus attemptId = some status ∧
      status.terminal = false ∧ status.launchContactState = .NotContacted ∧
      d.find .agentControlSessions sessionId = some session ∧ session.attemptId = attemptId ∧
      session.credentialRevision = expected ∧
      ∀ id, d'.find .agentControlSessions id = if sessionId = id then
        some (session.rekeyed verifier ambient.now) else d.find .agentControlSessions id := by
  obtain ⟨_, hguards, h₁⟩ := Writer.guard_then h
  obtain ⟨_, d₁, hrekey, h₂⟩ := Writer.widen_then h₁
  obtain ⟨_, d₂, hevent, h₃⟩ := Writer.widen_then h₂
  obtain ⟨-, rfl⟩ := Writer.commits_pure.mp h₃
  obtain ⟨status, hstatus, g₁⟩ := fetch_then hguards
  obtain ⟨hlive, g₂⟩ := Writer.ensure_then g₁
  obtain ⟨hcontact, -⟩ := Writer.ensure_then g₂
  have r₁ := Writer.read_then hrekey
  obtain ⟨⟨sessionId, session⟩, hsession, r₂⟩ := Writer.require_then r₁
  obtain ⟨hexpected, r₃⟩ := Writer.ensure_then r₂
  have hreplaced := Writer.commits_replace.mp r₃
  obtain ⟨hfound, hattempt⟩ := sessionOf_iff.mp hsession
  refine ⟨status, sessionId, session, hstatus, hlive, hcontact, hfound, hattempt, hexpected.1,
    fun id => ?_⟩
  rw [State.find_congr (hevent.within.same _ (by decide) (by decide)),
    (State.replace_ok hreplaced (by simp [hfound])).2.2.2.2 id]
  rfl

/-- What the end of an Attempt does to its session. -/
def AgentControlSession.revoked (now : Int) (s : AgentControlSession D) : AgentControlSession D :=
  { s with
    state := .REVOKED
    revokedAt := some now
    revocationReason := s.revocationReason.or (some "attempt-terminal") }

theorem revokeSession_commits {now : Int} (h : (revokeSession attemptId now).Commits d u d') :
    ∀ id, d'.find .agentControlSessions id = (d.find .agentControlSessions id).map fun s =>
      if s.attemptId = attemptId ∧ s.state = .ACTIVE then s.revoked now else s := by
  intro id
  have h₁ := Writer.read_then h
  cases hsearch : (sessionOf attemptId d).filter fun p => p.2.state == .ACTIVE with
  | none =>
    rw [hsearch] at h₁
    obtain ⟨-, rfl⟩ := Writer.commits_pure.mp h₁
    -- The Attempt has no ACTIVE session, so no session is selected.
    cases hfound : d'.find .agentControlSessions id with
    | none => rfl
    | some s =>
      refine congrArg some (if_neg ?_).symm
      rintro ⟨hattempt, hactive⟩
      rw [sessionOf_iff.mpr ⟨hfound, hattempt⟩] at hsearch
      simp [hactive] at hsearch
  | some row =>
    obtain ⟨sessionId, session⟩ := row
    rw [hsearch] at h₁
    obtain ⟨hsession, hactive⟩ := Option.filter_eq_some_iff.mp hsearch
    obtain ⟨hfound, hattempt⟩ := sessionOf_iff.mp hsession
    have hreplaced := Writer.commits_replace.mp h₁
    rw [(State.replace_ok hreplaced (by simp [hfound])).2.2.2.2 id]
    split
    · rename_i hid
      rw [← hid, hfound]
      have hselected : session.attemptId = attemptId ∧ session.state = .ACTIVE :=
        ⟨hattempt, by simpa using hactive⟩
      exact congrArg some (if_pos hselected).symm
    · rename_i hid
      cases hother : d.find .agentControlSessions id with
      | none => rfl
      | some s =>
        refine congrArg some (if_neg ?_).symm
        rintro ⟨hattempt', -⟩
        have hclash := State.clash_of_find hfound hother hid
        simp [clash, hattempt, hattempt'] at hclash

/-- T4b either found the marker already set, or crossed it under an Active Run whose current
    Attempt this is. -/
theorem applyLaunchContact_commits {runId epoch : String} {expectedStatus expectedCredential : Int}
    (h : (applyLaunchContact ambient runId attemptId epoch expectedStatus
      expectedCredential).Commits d u d') :
    ∃ old, d.find .attemptStatus attemptId = some old ∧ old.runId = runId ∧
      old.terminal = false ∧
      ((old.launchContactState = .ContactMayHaveOccurred ∧ d' = d) ∨
        (old.launchContactState = .NotContacted ∧
          currentUnderActive runId d = some (some attemptId) ∧
          ∀ id, d'.find .attemptStatus id = if attemptId = id then
            some { old.contacted ambient.now epoch with revision := old.revision + 1 }
            else d.find .attemptStatus id)) := by
  obtain ⟨old, hold, h₁⟩ := fetch_then h
  obtain ⟨⟨hrun, hlive⟩, h₂⟩ := Writer.ensure_then h₁
  refine ⟨old, hold, hrun, hlive, ?_⟩
  by_cases hcontact : old.launchContactState = .ContactMayHaveOccurred
  · rw [if_pos hcontact] at h₂
    exact .inl ⟨hcontact, (Writer.commits_pure.mp h₂).2⟩
  · rw [if_neg hcontact] at h₂
    obtain ⟨_, hguards, h₃⟩ := Writer.guard_then h₂
    obtain ⟨d₁, row, hupdate, h₄⟩ := update_then h₃
    obtain ⟨_, d₂, hevent, h₅⟩ := Writer.widen_then h₄
    obtain ⟨-, rfl⟩ := Writer.commits_pure.mp h₅
    have g₁ := Writer.read_then hguards
    obtain ⟨-, g₂⟩ := Writer.ensure_then g₁
    obtain ⟨hcurrent, -⟩ := Writer.ensure_then g₂
    have hrow : old = row := Option.some.inj (hold.symm.trans hupdate.before)
    refine .inr ⟨?_, ?_, fun id => ?_⟩
    · cases hstate : old.launchContactState with
      | NotContacted => rfl
      | ContactMayHaveOccurred => exact absurd hstate hcontact
    · obtain ⟨current, hfound, hid⟩ := Option.bind_eq_some_iff.mp hcurrent
      exact hfound.trans (congrArg some hid)
    · rw [State.find_congr (hevent.within.same _ (by decide) (by decide)), hupdate.after,
        ← hupdate.at_revision, ← hrow]
      rfl

/-- The status row after an observation. -/
def AttemptStatus.observed (now : Int) (s : AttemptStatus) : ObservationUpdate → AttemptStatus
  | .Observe observation =>
    { s with
      observedExecution := observation
      startedAt := if observation = .Starting ∨ observation = .Running then
        s.startedAt.or (some now) else s.startedAt
      revision := s.revision + 1 }
  | .Terminal observation =>
    { s with
      observedExecution := observation
      terminal := true
      finishedAt := some now
      revision := s.revision + 1 }

theorem markStarted_commits {now : Int} (h : (markStarted attemptId observation now).Commits d u d') :
    ∀ id, d'.find .attemptStatus id = if attemptId = id then
      (d.find .attemptStatus attemptId).map (fun s => { s with
        startedAt := if observation = .Starting ∨ observation = .Running then
          s.startedAt.or (some now) else s.startedAt })
      else d.find .attemptStatus id := by
  intro id
  unfold markStarted at h
  split at h
  · rename_i hseen
    rw [(amend_commits h).1 id]
    simp only [hseen, if_true]
  · rename_i hunseen
    obtain ⟨-, rfl⟩ := Writer.commits_pure.mp h
    simp only [hunseen, if_false]
    split
    · rename_i hid
      rw [← hid]
      exact Option.map_id'.symm
    · rfl

/-- An observation changes exactly its Attempt's status, at the expected revision, and ends
    it only after launch contact. -/
theorem applyObservation_commits {update : ObservationUpdate}
    (h : (applyObservation ambient attemptId expected update).Commits d n d') :
    ∃ old, d.find .attemptStatus attemptId = some old ∧ old.revision = expected ∧
      (∀ o, update = .Terminal o → old.launchContactState = .ContactMayHaveOccurred) ∧
      ∀ id, d'.find .attemptStatus id = if attemptId = id then
        some (old.observed ambient.now update) else d.find .attemptStatus id := by
  cases update with
  | Observe observation =>
    obtain ⟨-, h₁⟩ := Writer.ensure_then h
    obtain ⟨d₁, old, hupdate, h₂⟩ := update_then h₁
    obtain ⟨_, d₂, hstarted, h₃⟩ := Writer.widen_then h₂
    obtain ⟨-, rfl⟩ := Writer.commits_pure.mp h₃
    refine ⟨old, hupdate.before, hupdate.at_revision, fun o ho => (nomatch ho), fun id => ?_⟩
    rw [markStarted_commits hstarted id, hupdate.after, hupdate.after, ← hupdate.at_revision]
    by_cases hid : attemptId = id
    · simp only [hid, if_true]
      rfl
    · simp only [hid, if_false]
  | Terminal observation =>
    have h₁ := find_then h
    obtain ⟨hcontact, h₂⟩ := Writer.ensure_then h₁
    obtain ⟨d₁, old, hupdate, h₃⟩ := update_then h₂
    obtain ⟨_, d₂, hrevoke, h₄⟩ := Writer.widen_then h₃
    obtain ⟨_, d₃, hevent, h₅⟩ := Writer.widen_then h₄
    obtain ⟨-, rfl⟩ := Writer.commits_pure.mp h₅
    have hbefore := hupdate.before
    rw [hbefore] at hcontact
    refine ⟨old, hbefore, hupdate.at_revision, fun _ _ => Option.some.inj hcontact, fun id => ?_⟩
    rw [State.find_congr (hevent.within.same _ (by decide) (by decide)),
      State.find_congr (hrevoke.within.same _ (by decide) (by decide)), hupdate.after,
      ← hupdate.at_revision]
    rfl

/-- A terminal update revokes the session of its Attempt. -/
theorem applyObservation_terminal_sessions
    (h : (applyObservation ambient attemptId expected (.Terminal observation)).Commits d n d') :
    ∀ id, d'.find .agentControlSessions id = (d.find .agentControlSessions id).map fun s =>
      if s.attemptId = attemptId ∧ s.state = .ACTIVE then s.revoked ambient.now else s := by
  intro id
  have h₁ := find_then h
  obtain ⟨-, h₂⟩ := Writer.ensure_then h₁
  obtain ⟨d₁, _, hupdate, h₃⟩ := update_then h₂
  obtain ⟨_, d₂, hrevoke, h₄⟩ := Writer.widen_then h₃
  obtain ⟨_, d₃, hevent, h₅⟩ := Writer.widen_then h₄
  obtain ⟨-, rfl⟩ := Writer.commits_pure.mp h₅
  rw [State.find_congr (hevent.within.same _ (by decide) (by decide)),
    revokeSession_commits hrevoke id, State.find_congr (hupdate.others _ (by decide))]

/-- Any other observation leaves the sessions alone. -/
theorem applyObservation_observe_sessions
    (h : (applyObservation ambient attemptId expected (.Observe observation)).Commits d n d') :
    d'.table .agentControlSessions = d.table .agentControlSessions := by
  obtain ⟨-, h₁⟩ := Writer.ensure_then h
  obtain ⟨d₁, _, hupdate, h₂⟩ := update_then h₁
  obtain ⟨_, d₂, hstarted, h₃⟩ := Writer.widen_then h₂
  obtain ⟨-, rfl⟩ := Writer.commits_pure.mp h₃
  rw [hstarted.within.same _ (by decide) (by decide), hupdate.others _ (by decide)]

/-- Concluding a Run depends on nothing but the revision of its status. -/
theorem applyConcludeRun_commits {runId : String} {target : RunPhase}
    (h : (applyConcludeRun ambient runId target expected).Commits d u d') :
    (target = .Failed ∨ target = .Cancelled) ∧ ∃ old, d.find .runStatus runId = some old ∧
      old.revision = expected ∧ ∀ id, d'.find .runStatus id = if runId = id then
        some { old.concluded target with revision := expected + 1 }
        else d.find .runStatus id := by
  obtain ⟨htarget, h₁⟩ := Writer.ensure_then h
  obtain ⟨d₁, old, hupdate, h₂⟩ := update_then h₁
  obtain ⟨_, d₂, hevent, h₃⟩ := Writer.widen_then h₂
  obtain ⟨-, rfl⟩ := Writer.commits_pure.mp h₃
  refine ⟨htarget, old, hupdate.before, hupdate.at_revision, fun id => ?_⟩
  rw [State.find_congr (hevent.within.same _ (by decide) (by decide)), hupdate.after]
  rfl

end Pantheon
