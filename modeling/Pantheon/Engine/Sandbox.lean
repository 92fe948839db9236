/-
  The Sandbox Controller (`pantheon-engine/src/sandbox.rs`): provisioning.
  A Run's Sandbox has one key, derived from the Run, so that a repeated call reconciles with
  what an earlier one left. `provision` records intent before each external effect, and an
  unverified Sandbox is recorded as failed.
-/
import Pantheon.Engine.Ports

namespace Pantheon

open Interleave

variable {D : Type} [DecidableEq D] [DigestScheme D]

/-- Errors of the Sandbox Controller. `Panicked` is not a value of the source: the `expect`
    on a derived key unwinds instead. -/
inductive SandboxControllerError where
  | Store (error : StoreError)
  | ProvisioningFailed (sandboxId detail : String)
  | VerificationFailed (sandboxId : String)
  | Invariant (detail : String)
  | Panicked (detail : String)
  deriving Repr, DecidableEq

def SandboxControllerError.display : SandboxControllerError → String
  | .Store error => s!"sandbox controller store failure: {error.display}"
  | .ProvisioningFailed sandboxId detail => s!"sandbox {sandboxId} provisioning failed: {detail}"
  | .VerificationFailed sandboxId => s!"sandbox {sandboxId} verification failed closed"
  | .Invariant detail => s!"sandbox controller invariant: {detail}"
  | .Panicked detail => detail

abbrev SandboxControl (D : Type) [DecidableEq D] [DigestScheme D] : Type → Type 1 :=
  Control SandboxControllerError D

/-- `derive_sandbox_key`. -/
def deriveSandboxKey (runId : String) : Except SandboxKeyError SandboxKey :=
  SandboxKey.new s!"sandbox-{runId}"

/-- The Run's current Sandbox, which must exist. -/
def currentSandbox (runId : String) (missing : String) : SandboxControl D (SandboxRecord D) := do
  let record ← Control.step (readStore (sandboxForRun runId))
  Control.orElse (.Invariant missing) record

def replayedButMissing (runId : String) : String :=
  s!"sandbox for run {runId} reported replayed but not found"

/-- What a Sandbox command answered with, or what an earlier one of the same identity left. -/
def committedSandbox (runId : String) (committed : Committed (SandboxRecord D)) :
    SandboxControl D (SandboxRecord D) :=
  match committed with
  | .Executed record _ => pure record
  | .Replayed _ _ => currentSandbox runId (replayedButMissing runId)

def sandboxEpoch : SandboxControl D String := Control.lift .Store (readStore currentRestoreGeneration)

/-- Evidence of one probe. -/
def probeEvidence (runId : String) (key : SandboxKey) (plan : SandboxPlan D)
    (verification : SandboxVerification) (result : SandboxProbeResult) : SandboxProbeEvidence D where
  sandboxId := key.text
  runId := runId
  probeName := result.name
  expected := result.expected
  observed := result.observed
  passed := result.passed
  backendDescriptor := verification.backendDescriptor
  backendVersion := verification.backendVersion
  platform := verification.platform
  architecture := verification.architecture
  probeImplementationVersion := verification.probeImplementationVersion
  environmentIdentity := plan.environmentIdentity
  sandboxPlanDigest := plan.digest
  launchDecision := .blocked

/-- `record_probe_evidence`, one command for each probe. -/
def recordProbeEvidence (command : Command D) (runId : String) (key : SandboxKey)
    (plan : SandboxPlan D) (verification : SandboxVerification) :
    List SandboxProbeResult → SandboxControl D Unit
  | [] => pure ()
  | result :: results => do
    let identity : Command D :=
      ⟨command.epoch, s!"{command.id}-probe-{result.name}", command.requestHash,
        "sandbox.probe.recorded"⟩
    let _ ← Control.lift .Store (perform (.command identity
      (.recordSandboxProbeEvidence (probeEvidence runId key plan verification result))))
    recordProbeEvidence command runId key plan verification results

/-- The record of a Sandbox that was asked for: created now, or the one already current. -/
def acquireSandbox (command : Command D) (runId : String) (key : SandboxKey)
    (binding : SandboxBinding D) : SandboxControl D (SandboxRecord D) := do
  let created : Except StoreError (Committed (SandboxRecord D)) ←
    Control.step (perform (.command command (.createSandbox key.text binding)))
  match created with
  | .ok committed => committedSandbox runId committed
  | .error (.SandboxAlreadyCurrent _ _) =>
    currentSandbox runId s!"sandbox for run {runId} is current but not found"
  | .error other => throw (.Store other)

/-- Records a failed provisioning; the callers that ignore the answer ignore its error too. -/
def failProvisioning (command : Command D) (epoch : String) (key : SandboxKey) (revision : Int)
    (observed : Presence) : Act D (Except StoreError (Committed (SandboxRecord D))) :=
  perform (.command ⟨epoch, s!"{command.id}-fail", command.requestHash, "sandbox.failed"⟩
    (.failSandbox key.text revision observed))

/-- Verification of a present Sandbox, and the commit of its outcome. -/
def verifyPrepared (command : Command D) (epoch runId : String) (key : SandboxKey)
    (plan : SandboxPlan D) (record : SandboxRecord D) : SandboxControl D (SandboxRecord D) := do
  let verified ← Control.lift (.ProvisioningFailed key.text) (Prog.ask (.verifySandbox key plan))
  if verified.allPassed then
    let completed : Committed (SandboxRecord D) ← Control.lift .Store (perform (.command
      ⟨epoch, s!"{command.id}-complete-preparation", command.requestHash,
        "sandbox.preparation.completed"⟩
      (.completeSandboxPreparation key.text record.revision)))
    committedSandbox runId completed
  else
    Control.lift (fun e : SandboxControllerError => .ProvisioningFailed key.text
      s!"probe evidence recording failed: {e.display}")
      (recordProbeEvidence command runId key plan verified verified.probeResults)
    let _ ← Control.lift (fun e : StoreError => .ProvisioningFailed key.text
      s!"fail_sandbox failed: {e.display}")
      (failProvisioning command epoch key record.revision .Unknown)
    throw (.VerificationFailed key.text)

/-- The external effect of a Sandbox under preparation. -/
def ensurePrepared (command : Command D) (runId : String) (key : SandboxKey)
    (plan : SandboxPlan D) (record : SandboxRecord D) : SandboxControl D (SandboxRecord D) := do
  let epoch ← sandboxEpoch
  let answer ← Control.step (Prog.ask (.ensureSandbox key plan))
  match answer with
  | .error detail =>
    let _ ← Control.step (failProvisioning command epoch key record.revision .Unknown)
    throw (.ProvisioningFailed key.text detail)
  | .ok .Present => verifyPrepared command epoch runId key plan record
  | .ok presence =>
    let _ ← Control.step (failProvisioning command epoch key record.revision presence)
    throw (.ProvisioningFailed key.text s!"sandbox did not reach Present: {presence.asStr}")

/-- `SandboxController::provision` under an already derived key. -/
def provisionKeyed (command : Command D) (runId : String) (plan : SandboxPlan D)
    (key : SandboxKey) : SandboxControl D (SandboxRecord D) := do
  let record ← acquireSandbox command runId key ⟨runId, plan.digest, plan.environmentIdentity⟩
  match record.phase with
  | .Ready => return record
  | .Error => throw (.ProvisioningFailed key.text
      "sandbox is in Error phase from a previous provisioning attempt")
  | .Releasing => throw (.ProvisioningFailed key.text "sandbox is in Releasing phase")
  | .Requested => do
    let epoch ← sandboxEpoch
    let begun : Committed (SandboxRecord D) ← Control.lift .Store (perform (.command
      ⟨epoch, s!"{command.id}-begin-preparation", command.requestHash,
        "sandbox.preparation.begun"⟩
      (.beginSandboxPreparation key.text record.revision)))
    let record ← committedSandbox runId begun
    ensurePrepared command runId key plan record
  | .Preparing => ensurePrepared command runId key plan record
  | .Released => throw (.Invariant s!"sandbox for run {runId} is current but Released")

/-- `SandboxController::provision`. -/
def provision (command : Command D) (runId : String) (plan : SandboxPlan D) :
    SandboxControl D (SandboxRecord D) :=
  match deriveSandboxKey runId with
  | .ok key => provisionKeyed command runId plan key
  | .error _ => throw (.Panicked "derived key is valid")

/-! ## Provisioning keeps beside the lineage of Runs -/

theorem currentSandbox_prepares (runId missing : String) :
    (currentSandbox runId missing : SandboxControl D _).run.Each Preparing :=
  (each_step (readStore_prepares _)).andThen fun _ => each_orElse _ _

theorem committedSandbox_prepares (runId : String) (committed : Committed (SandboxRecord D)) :
    (committedSandbox runId committed).run.Each Preparing := by
  cases committed with
  | Executed record cursor => trivial
  | Replayed cursor recordedAt => exact currentSandbox_prepares _ _

theorem acquireSandbox_prepares (command : Command D) (runId : String) (key : SandboxKey)
    (binding : SandboxBinding D) : (acquireSandbox command runId key binding).run.Each Preparing := by
  refine .andThen (each_step (perform_prepares rfl rfl)) fun created => ?_
  split
  · exact committedSandbox_prepares _ _
  · exact currentSandbox_prepares _ _
  · trivial

theorem recordProbeEvidence_prepares (command : Command D) (runId : String) (key : SandboxKey)
    (plan : SandboxPlan D) (verification : SandboxVerification)
    (results : List SandboxProbeResult) :
    (recordProbeEvidence command runId key plan verification results).run.Each Preparing := by
  induction results with
  | nil => trivial
  | cons result results ih => exact .andThen (each_lift (perform_prepares rfl rfl)) fun _ => ih

theorem verifyPrepared_prepares (command : Command D) (epoch runId : String) (key : SandboxKey)
    (plan : SandboxPlan D) (record : SandboxRecord D) :
    (verifyPrepared command epoch runId key plan record).run.Each Preparing := by
  refine .andThen (each_lift (each_ask rfl)) fun verified => ?_
  split
  · exact .andThen (each_lift (perform_prepares rfl rfl)) fun _ => committedSandbox_prepares _ _
  · refine .andThen (each_lift (recordProbeEvidence_prepares _ _ _ _ _ _)) fun _ => ?_
    exact .andThen (each_lift (perform_prepares rfl rfl)) fun _ => trivial

theorem ensurePrepared_prepares (command : Command D) (runId : String) (key : SandboxKey)
    (plan : SandboxPlan D) (record : SandboxRecord D) :
    (ensurePrepared command runId key plan record).run.Each Preparing := by
  refine .andThen (each_lift (readStore_prepares _)) fun epoch => ?_
  refine .andThen (each_step (each_ask rfl)) fun answer => ?_
  split
  · exact .andThen (each_step (perform_prepares rfl rfl)) fun _ => trivial
  · exact verifyPrepared_prepares _ _ _ _ _ _
  · exact .andThen (each_step (perform_prepares rfl rfl)) fun _ => trivial

theorem provision_prepares (command : Command D) (runId : String) (plan : SandboxPlan D) :
    (provision command runId plan).run.Each Preparing := by
  unfold provision
  split
  · refine .andThen (acquireSandbox_prepares _ _ _ _) fun record => ?_
    split
    · trivial
    · trivial
    · trivial
    · refine .andThen (each_lift (readStore_prepares _)) fun epoch => ?_
      refine .andThen (each_lift (perform_prepares rfl rfl)) fun begun => ?_
      exact .andThen (committedSandbox_prepares _ _) fun _ => ensurePrepared_prepares _ _ _ _ _
    · exact ensurePrepared_prepares _ _ _ _ _
    · trivial
  · trivial

end Pantheon
