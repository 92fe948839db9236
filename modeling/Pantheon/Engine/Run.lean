/-
  The Run Controller (`pantheon-engine/src/run.rs`).
  One pass of `reconcileRun` reads the Run, and then prepares and creates an Attempt, or
  launches the current one, or inspects it. Every store call and every port call is a step of
  its own, so anything may happen in between: what a pass read is only as good as the revision
  its next write names. The recovery decision after a terminal Attempt reads the Run's
  revision again before it concludes the Run.
-/
import Pantheon.Engine.Context
import Pantheon.Engine.Sandbox

namespace Pantheon

open Interleave Value

variable {D : Type} [DecidableEq D] [DigestScheme D]

structure MinRecoveryPolicy where
  maxAttemptsPerRun : UInt32
  deriving Repr, DecidableEq

inductive RunOutcome where
  | Unknown
  | Inactive (phase : RunPhase)
  | ConcludedInPreparation (gate : String)
  | AttemptEstablished (attemptId launchKey : String)
  | Launched (attemptId : String) (observation : Observation)
  | Reconciled (attemptId : String) (observation : Observation)
  | UnknownFenced (attemptId : String)
  | RetryArmed (attemptId : String) (nextOrdinal : Nat)
  | ConcludedAfterFailure (attemptId : String)
  deriving Repr, DecidableEq

/-- Errors of a pass. `Panicked` is not a value of the source: it stands for an unwinding. -/
inductive RunControllerError where
  | Store (error : StoreError)
  | Entropy (detail : String)
  | Panicked (detail : String)
  deriving Repr, DecidableEq

abbrev RunControl (D : Type) [DecidableEq D] [DigestScheme D] : Type → Type 1 :=
  Control RunControllerError D

namespace RunControl

def violated (detail : String) : RunControllerError := .Store (.InvariantViolated detail)

/-- One call of the store, whose refusal ends the pass. -/
def call (op : StoreOp D) : RunControl D op.Answer := Control.lift .Store (perform op)

def read {α : Type} (f : Db D → α) : RunControl D α := Control.step (readStore f)

def tryRead {α : Type} (f : Db D → Except StoreError α) : RunControl D α :=
  Control.lift .Store (readStore f)

/-- A draw of entropy. -/
def random : RunControl D Bytes32 := Control.lift .Entropy (Prog.ask .randomBytes)

/-- The bearer held for an Attempt, if this process has one. -/
def bearerOf (attemptId : String) : RunControl D (Option BearerState) :=
  Control.step (Prog.atomically .memory fun s => (SortedAssoc.find attemptId s.bearers, s))

def keepBearer (attemptId : String) (state : BearerState) : RunControl D Unit :=
  Control.step (Prog.atomically .memory fun s =>
    ((), { s with bearers := SortedAssoc.put attemptId state s.bearers }))

end RunControl

open RunControl

/-! ## Frozen policy -/

/-- `string_field`. -/
def stringField (v : Value) (key : String) : Option String :=
  match v.get key with
  | some (.str text) => some text
  | _ => none

/-- `array_field`. -/
def arrayField (v : Value) (key : String) : Option (List Value) :=
  match v.get key with
  | some (.arr items) => some items
  | _ => none

/-- A required text of a profile entry. -/
def profileString (v : Value) (name : String) : Except String String :=
  match stringField v name with
  | some text => .ok text
  | none => .error s!"profile entry has no readable {name}"

def decodeIsolationClass (text : String) : Except String IsolationClass :=
  if text = "TRUSTED_HOST" then .ok .TrustedHost
  else if text = "CONTAINER" then .ok .Container
  else .error s!"unknown isolation class {debugText text}"

/-- The network modes the gate can read. The compiler also writes BROKERED. -/
def decodeNetworkMode (text : String) : Except String NetworkMode :=
  if text = "NONE" then .ok .None else .error s!"unknown network mode {debugText text}"

def textOf : Value → Option String
  | .str text => some text
  | _ => none

/-- `decode_sandbox_profile`. -/
def decodeSandboxProfile (v : Value) : Except String SandboxProfile := do
  let isolationClass ← decodeIsolationClass (← profileString v "isolationClass")
  let networkMode ← decodeNetworkMode (← profileString v "networkMode")
  let guarantees := ((arrayField v "guarantees").map fun items => items.filterMap textOf).getD []
  let name ← profileString v "name"
  let environmentIdentity ← profileString v "environmentIdentity"
  return { name, isolationClass, guarantees, networkMode, environmentIdentity }

structure FrozenBindingIdentity (D : Type) where
  sandboxProfileDigest : D
  executionProfilesComponent : D
  deriving Repr, DecidableEq

/-- A digest field of a stored Binding. -/
def bindingDigestField (v : Value) (name : String) : Except RunControllerError D :=
  match stringField v name with
  | none => .error (violated s!"stored binding has no readable {name}")
  | some text => match fromDisplay text with
    | none => .error (violated s!"stored binding {name} is not a sha256 digest")
    | some digest => .ok digest

/-- The identities a stored Binding froze. -/
def decodeBindingIdentity (text : String) : Except RunControllerError (FrozenBindingIdentity D) :=
  match parse text with
  | .error e => .error (violated s!"stored binding is unreadable: {e.display}")
  | .ok value => match value.get "componentDigests" with
    | none => .error (violated "stored binding has no componentDigests")
    | some components => do
      let sandboxProfileDigest ← bindingDigestField value "sandboxProfileDigest"
      let executionProfilesComponent ← bindingDigestField components "executionProfiles"
      return ⟨sandboxProfileDigest, executionProfilesComponent⟩

/-- `binding_profile_identity`. -/
def bindingProfileIdentity (view : RunExecutionView D) :
    RunControl D (FrozenBindingIdentity D) := do
  let stored ← read (bindingCanonicalJson view.bindingDigest)
  let text ← Control.orElse (violated
    s!"run {view.runId} binds {debugDigest view.bindingDigest} which is not stored") stored
  Control.ofExcept (decodeBindingIdentity text)

/-- The profile of a stored execution component with the frozen identity. Entries that do not
    decode are passed over. -/
def frozenProfile (runId text : String) (identity : FrozenBindingIdentity D) :
    Except RunControllerError SandboxProfile :=
  match parse text with
  | .error e => .error (violated s!"frozen execution profiles unreadable: {e.display}")
  | .ok value => match arrayField value "profiles" with
    | none => .error (violated "frozen execution profiles carry no profiles array")
    | some entries =>
      match (entries.filterMap fun entry => (decodeSandboxProfile entry).toOption).find?
          fun profile => decide (profile.digest = identity.sandboxProfileDigest) with
      | some profile => .ok profile
      | none => .error (violated
          s!"run {runId}: frozen profiles do not contain the Binding's sandbox identity")

/-- `verify_policy_ready`. -/
def verifyPolicyReady (runId : String) (identity : FrozenBindingIdentity D) :
    RunControl D SandboxProfile := do
  let stored ← tryRead (configurationComponentJson identity.executionProfilesComponent)
  let (_, text) ← Control.orElse (violated
    s!"run {runId}: frozen execution-profiles component is unavailable") stored
  Control.ofExcept (frozenProfile runId text identity)

/-! ## Small helpers -/

/-- `derive_identifier`. -/
def deriveIdentifier (D : Type) [DigestScheme D] (kind runId : String) (ordinal : Nat) : String :=
  let digest : D := (object [("kind", .str kind), ("runId", .str runId),
    ("ordinal", .integer ordinal)]).digest
  let hex := String.ofList (toHex ((DigestScheme.asBytes digest).take 16))
  s!"{kind}-{hex}"

/-- `current_lineage`. -/
def currentLineage (runId attemptId : String) : RunControl D AttemptLineageView := do
  let found ← tryRead (runExecutionView runId)
  let view ← Control.orElse (violated s!"run {runId} vanished mid-reconciliation") found
  Control.orElse (violated s!"attempt {attemptId} is no longer current for run {runId}")
    view.attempt

/-- `attached_plan_digest`. -/
def attachedPlanDigest (runId : String) : RunControl D D := do
  let view ← tryRead (runExecutionView runId)
  Control.orElse (violated s!"run {runId} has no attached plan at launch time")
    (view.bind (·.contextPlanDigest))

/-- `record`, at the status revision read just before it. -/
def recordObservation (attemptId : String) (update : ObservationUpdate) : RunControl D Unit := do
  let statusNow ← tryRead (attemptStatusRevision attemptId)
  let _ ← call (.write (.recordExecutionObservation attemptId statusNow update))

/-! ## Preparation -/

/-- `conclude_in_preparation`. -/
def concludeInPreparation (runId : String) (revision : Int) (gate : String) :
    RunControl D RunOutcome := do
  let _ ← call (.write (.concludeRun runId .Failed revision))
  return .ConcludedInPreparation gate

/-- The plan of a Run's Sandbox: the Workspace's source path, writable, at `/workspace`. -/
def sandboxPlanOf (identity : FrozenBindingIdentity D) (profile : SandboxProfile)
    (workspace : WorkspaceRecord) : SandboxPlan D where
  sandboxProfileDigest := identity.sandboxProfileDigest
  environmentIdentity := profile.environmentIdentity
  mounts := [⟨workspace.sourcePath, "/workspace", false⟩]
  networkMode := match profile.networkMode with
    | .None => .None
    | .Brokered => .Brokered
  cpuLimitMillicores := none
  memoryLimitMb := none

/-- The Sandbox gate: the plan, and the Sandbox provisioned for it. -/
def provisionSandbox (runId taskId : String) (identity : FrozenBindingIdentity D)
    (profile : SandboxProfile) : RunControl D (Except SandboxControllerError (SandboxRecord D)) := do
  let found ← tryRead (workspaceForTask taskId)
  let workspace ← Control.orElse (violated
    s!"run {runId}: task {taskId} has no current workspace") found
  let plan := sandboxPlanOf identity profile workspace
  let epoch ← tryRead currentRestoreGeneration
  Control.step (provision
    ⟨epoch, s!"sandbox-provision-{runId}", plan.digest, "sandbox.provisioned"⟩ runId plan)

/-- T4: the Attempt and its bearer. -/
def createAttempt (runId : String) (revision : Int) : RunControl D RunOutcome := do
  let used ← read (attemptHistoryCount runId)
  let ordinal := used + 1
  let attemptId := deriveIdentifier D "attempt" runId ordinal
  let sessionId := deriveIdentifier D "acs" runId ordinal
  let key ← random
  let launchKey := String.ofList (toHex key.1)
  let bytes ← random
  let bearer := Bearer.ofBytes bytes
  let requestHash : D := (object [("kind", .str "attempt.creation"), ("runId", .str runId),
    ("ordinal", .integer ordinal)]).digest
  let epoch ← tryRead currentRestoreGeneration
  let committed : Committed AttemptCreated ← call (.command
    ⟨epoch, s!"t4-{runId}-{ordinal}", requestHash, "run.attempt.created"⟩
    (.createAttempt ⟨runId, attemptId, launchKey, sessionId, bearer.verifier, revision⟩))
  match committed with
  | .Executed _ _ => keepBearer attemptId ⟨bearer, 1⟩
  | .Replayed _ _ => pure ()
  return .AttemptEstablished attemptId launchKey

/-- The Context and Policy gates, and then T4. -/
def contextAndAttempt (runId : String) (view : RunExecutionView D)
    (identity : FrozenBindingIdentity D) : RunControl D RunOutcome := do
  let prepared ← Control.step (prepareRunContext runId)
  match prepared with
  | .error (.Store e) => throw (.Store e)
  | .error other => concludeInPreparation runId view.revision s!"context:{other.display}"
  | .ok _ =>
    let _ ← verifyPolicyReady runId identity
    createAttempt runId view.revision

/-- `establish_attempt`. -/
def establishAttempt (runId : String) (view : RunExecutionView D) : RunControl D RunOutcome := do
  let readiness ← read (workspaceReadiness runId)
  match readiness with
  | none =>
    concludeInPreparation runId view.revision "workspace:frozen-workspace-unavailable"
  | some (phase, materialization) =>
    if phase = .Ready ∧ materialization = .Present then
      let identity ← bindingProfileIdentity view
      let profile ← verifyPolicyReady runId identity
      let provisioned ← provisionSandbox runId view.taskId identity profile
      match provisioned with
      | .error (.Panicked detail) => throw (.Panicked detail)
      | .error other => concludeInPreparation runId view.revision s!"sandbox:{other.display}"
      | .ok _ => contextAndAttempt runId view identity
    else
      concludeInPreparation runId view.revision
        s!"workspace:{phase.asStr}/{materialization.asStr}"

/-! ## Launch and reconciliation -/

/-- `ensure_current_bearer`. -/
def ensureCurrentBearer (lineage : AttemptLineageView) : RunControl D Unit := do
  let attemptId := lineage.attempt.id
  let known ← bearerOf attemptId
  if known.any (·.credentialRevision == lineage.session.credentialRevision) then return ()
  else
    let bytes ← random
    let bearer := Bearer.ofBytes bytes
    let newRevision : Int ← call (.write (.rekeyAgentControlSession attemptId bearer.verifier
      lineage.session.credentialRevision))
    keepBearer attemptId ⟨bearer, newRevision⟩

/-- The durable record of what the first contact answered. -/
def recordLaunch (attemptId : String) (answer : Except String Observation) :
    RunControl D RunOutcome :=
  match answer with
  | .ok .Exited => do
    recordObservation attemptId (.Terminal .Exited)
    return .Launched attemptId .Exited
  | .ok observation => do
    recordObservation attemptId (.Observe observation)
    return .Launched attemptId observation
  | .error _ => do
    recordObservation attemptId (.Observe .Unknown)
    return .Launched attemptId .Unknown

/-- `launch`: the contact marker commits before the first contact. -/
def launch (incarnation runId : String) (lineage : AttemptLineageView) :
    RunControl D RunOutcome := do
  let semantics ← Control.step (Prog.ask .launchSemantics)
  if semantics = .KeyedIdempotent then
    let attemptId := lineage.attempt.id
    let planDigest ← attachedPlanDigest runId
    let held ← bearerOf attemptId
    let state ← Control.orElse (violated
      s!"no current bearer for attempt {attemptId}; refusing to launch") held
    let _ ← call (.write (.markLaunchContact runId attemptId incarnation lineage.statusRevision
      lineage.session.credentialRevision))
    let answer ← Control.step (Prog.ask (.ensureExecution
      ⟨lineage.attempt.launchKey, runId, attemptId, state.bearer, planDigest⟩))
    recordLaunch attemptId answer
  else
    let backend ← Control.step (Prog.ask .backendId)
    throw (violated s!"backend {backend} does not factually advertise KEYED_IDEMPOTENT semantics")

/-- `decide_after_terminal`. -/
def decideAfterTerminal (policy : MinRecoveryPolicy) (runId attemptId : String) :
    RunControl D RunOutcome := do
  let used ← read (attemptHistoryCount runId)
  if used < policy.maxAttemptsPerRun.toNat then return .RetryArmed attemptId (used + 1)
  else
    let found ← Control.lift .Store
      (Prog.atomically (.recoveryView runId) fun s => (runExecutionView runId s.db, s))
    let view ← Control.orElse (violated s!"run {runId} vanished during recovery decision") found
    let _ ← call (.write (.concludeRun runId .Failed view.revision))
    return .ConcludedAfterFailure attemptId

/-- `reconcile_contacted`; an inspection that fails observes nothing. -/
def reconcileContacted (policy : MinRecoveryPolicy) (lineage : AttemptLineageView) :
    RunControl D RunOutcome := do
  let attemptId := lineage.attempt.id
  let answer ← Control.step (Prog.ask (.inspectExecution lineage.attempt.launchKey))
  match answer.toOption.getD .Unknown with
  | .Starting => do
    recordObservation attemptId (.Observe .Starting)
    return .Reconciled attemptId .Starting
  | .Running => do
    recordObservation attemptId (.Observe .Running)
    return .Reconciled attemptId .Running
  | .Unknown => do
    recordObservation attemptId (.Observe .Unknown)
    return .UnknownFenced attemptId
  | .Absent => do
    recordObservation attemptId (.Terminal .Absent)
    decideAfterTerminal policy lineage.attempt.runId attemptId
  | .Exited => do
    recordObservation attemptId (.Terminal .Exited)
    decideAfterTerminal policy lineage.attempt.runId attemptId

/-- What a pass does with the current Attempt of an Active Run. -/
def reconcileAttempt (incarnation : String) (policy : MinRecoveryPolicy) (runId : String)
    (lineage : AttemptLineageView) : RunControl D RunOutcome :=
  if lineage.terminal then decideAfterTerminal policy runId lineage.attempt.id
  else match lineage.launchContactState with
    | .NotContacted => do
      ensureCurrentBearer lineage
      let refreshed ← currentLineage runId lineage.attempt.id
      launch incarnation runId refreshed
    | .ContactMayHaveOccurred => reconcileContacted policy lineage

/-- `RunController::reconcile_run`, one pass. -/
def reconcileRun (incarnation : String) (policy : MinRecoveryPolicy) (runId : String) :
    RunControl D RunOutcome := do
  let found ← tryRead (runExecutionView runId)
  match found with
  | none => return .Unknown
  | some view =>
    if view.phase = .Active then
      match view.attempt with
      | none => establishAttempt runId view
      | some lineage => reconcileAttempt incarnation policy runId lineage
    else return .Inactive view.phase

/-! ## What a pass does beside the lineage of Runs -/

variable {α : Type}

theorem read_looks (f : Db D → α) : (RunControl.read f).run.Each Looking :=
  each_step (readStore_looks f)

theorem tryRead_looks (f : Db D → Except StoreError α) :
    (tryRead f).run.Each Looking := each_lift (readStore_looks f)

theorem random_looks : (random : RunControl D Bytes32).run.Each Looking := each_lift (each_ask rfl)

theorem bindingProfileIdentity_looks (view : RunExecutionView D) :
    (bindingProfileIdentity view).run.Each Looking :=
  .andThen (read_looks _) fun _ => .andThen (each_orElse _ _) fun _ => each_ofExcept _

theorem verifyPolicyReady_looks (runId : String) (identity : FrozenBindingIdentity D) :
    (verifyPolicyReady runId identity).run.Each Looking :=
  .andThen (tryRead_looks _) fun _ => .andThen (each_orElse _ _) fun _ => each_ofExcept _

theorem currentLineage_looks (runId attemptId : String) :
    (currentLineage runId attemptId : RunControl D _).run.Each Looking :=
  .andThen (tryRead_looks _) fun _ => .andThen (each_orElse _ _) fun _ => each_orElse _ _

theorem attachedPlanDigest_looks (runId : String) :
    (attachedPlanDigest runId : RunControl D D).run.Each Looking :=
  .andThen (tryRead_looks _) fun _ => each_orElse _ _

theorem provisionSandbox_prepares (runId taskId : String) (identity : FrozenBindingIdentity D)
    (profile : SandboxProfile) :
    (provisionSandbox runId taskId identity profile).run.Each Preparing := by
  refine .andThen (looks_prepares (tryRead_looks _)) fun _ => .andThen (each_orElse _ _) fun _ => ?_
  exact .andThen (looks_prepares (tryRead_looks _)) fun epoch => each_step (provision_prepares _ _ _)

theorem bearerOf_aside (attemptId : String) :
    (bearerOf attemptId : RunControl D _).run.Each Aside :=
  each_step ⟨fun s => .refl s.db, fun _ => trivial⟩

theorem keepBearer_aside (attemptId : String) (state : BearerState) :
    (keepBearer attemptId state : RunControl D _).run.Each Aside :=
  each_step ⟨fun s => .refl s.db, fun _ => trivial⟩

theorem ensureCurrentBearer_aside (lineage : AttemptLineageView) :
    (ensureCurrentBearer lineage : RunControl D Unit).run.Each Aside := by
  refine .andThen (bearerOf_aside _) fun known => ?_
  split
  · trivial
  · refine .andThen (prepares_aside (looks_prepares random_looks)) fun bytes => ?_
    refine .andThen (each_lift (each_perform trivial fun ambient s => ?_)) fun _ =>
      keepBearer_aside _ _
    exact apply_aside rfl ambient s.db

/-! ## What a view says -/

omit [DigestScheme D] in
/-- A view is the Run's status at the time of the read. -/
theorem runExecutionView_status {runId : String} {d : Db D} {view : RunExecutionView D}
    (h : runExecutionView runId d = .ok (some view)) :
    ∃ status, d.find .runStatus runId = some status ∧ view.phase = status.phase ∧
      view.revision = status.revision := by
  unfold runExecutionView at h
  split at h
  · rename_i run status hrun hstatus
    cases hlineage : loadCurrentLineage runId d with
    | error e => simp [hlineage, bind, Except.bind] at h
    | ok attempt =>
      simp only [hlineage, bind, Except.bind, pure, Except.pure, Except.ok.injEq,
        Option.some.injEq] at h
      subst h
      exact ⟨status, hstatus, rfl, rfl⟩
  · cases h

omit [DigestScheme D] in
/-- A view holds the Run's current lineage at the time of the read. -/
theorem runExecutionView_lineage {runId : String} {d : Db D} {view : RunExecutionView D}
    (h : runExecutionView runId d = .ok (some view)) :
    loadCurrentLineage runId d = .ok view.attempt := by
  unfold runExecutionView at h
  split at h
  · cases hlineage : loadCurrentLineage runId d with
    | error e => simp [hlineage, bind, Except.bind] at h
    | ok attempt =>
      simp only [hlineage, bind, Except.bind, pure, Except.pure, Except.ok.injEq,
        Option.some.injEq] at h
      subst h
      rfl
  · cases h

end Pantheon
