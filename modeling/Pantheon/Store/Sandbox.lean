/-
  Run-owned Sandboxes in the store (`pantheon-store/src/sandbox.rs`).
  The four ordinary transitions are one guarded move from a required phase; a failure and a
  presence update check no phase. Every operation writes only Sandbox rows or probe evidence,
  which its access type says.
-/
import Pantheon.Store.Command

namespace Pantheon

open Relational

variable {D : Type} [DecidableEq D]

structure SandboxRecord (D : Type) where
  id : String
  runId : String
  sandboxPlanDigest : D
  environmentIdentity : String
  phase : SandboxPhase
  observedPresence : Presence
  revision : Int
  deriving Repr, DecidableEq

structure SandboxBinding (D : Type) where
  runId : String
  sandboxPlanDigest : D
  environmentIdentity : String
  deriving Repr, DecidableEq

def sandboxRecord (id : String) (row : SandboxInstance D) : SandboxRecord D :=
  ⟨id, row.runId, row.sandboxPlanDigest, row.environmentIdentity, row.phase,
    row.observedPresence, row.revision⟩

/-- The Sandbox of a Run that is not Released: `current_sandbox_id` and `sandbox_for_run`. -/
def sandboxForRun (runId : String) (d : Db D) : Option (SandboxRecord D) :=
  ((d.rows .sandboxInstances).find? fun p => p.2.runId == runId && p.2.phase != .Released).map
    fun p => sandboxRecord p.1 p.2

def sandboxAccess : Access TableName := ⟨[.sandboxInstances], [.sandboxInstances]⟩

/-- `Store::create_sandbox`. -/
def createSandbox (id : String) (binding : SandboxBinding D) :
    Write D sandboxAccess (SandboxRecord D) := do
  let existing ← Writer.read (sandboxForRun binding.runId)
  Writer.ensure (existing = none)
    (.SandboxAlreadyCurrent binding.runId (existing.elim "" (·.id)))
  let row : SandboxInstance D := ⟨binding.runId, binding.sandboxPlanDigest,
    binding.environmentIdentity, .Requested, .Absent, 1⟩
  insert .sandboxInstances id row
  return sandboxRecord id row

/-- A Sandbox read back inside its own transaction, at the revision just written. -/
def rereadSandbox (id : String) (revision : Int) : Write D sandboxAccess (SandboxRecord D) := do
  let row ← fetch .sandboxInstances id
    (.InvariantViolated s!"sandbox {id} disappeared inside its own transaction")
  return { sandboxRecord id row with revision }

/-- `transition`. -/
def transitionSandbox (id : String) (expected : Int) (phase : SandboxPhase)
    (presence : Presence) : Write D sandboxAccess (SandboxRecord D) := do
  let revision ← updateRevisioned .sandboxInstances id expected
    fun s => { s with phase, observedPresence := presence }
  rereadSandbox id revision

/-- `sandbox_phase`. -/
def sandboxPhase (id : String) (expected : Int) : Write D sandboxAccess SandboxPhase := do
  let row ← fetch .sandboxInstances id (.RevisionConflict "sandbox_instances" id expected none)
  Writer.ensure (row.revision = expected)
    (.RevisionConflict "sandbox_instances" id expected (some row.revision))
  return row.phase

/-- A move out of one required phase. -/
def advanceSandbox (source target : SandboxPhase) (presence : Presence) (id : String)
    (expected : Int) : Write D sandboxAccess (SandboxRecord D) := do
  let phase ← sandboxPhase id expected
  Writer.ensure (phase = source) (.InvariantViolated
    s!"sandbox {id} is {phase.asStr} and cannot become {target.asStr}")
  transitionSandbox id expected target presence

def beginSandboxPreparation (id : String) (expected : Int) :
    Write D sandboxAccess (SandboxRecord D) :=
  advanceSandbox .Requested .Preparing .Unknown id expected

def completeSandboxPreparation (id : String) (expected : Int) :
    Write D sandboxAccess (SandboxRecord D) :=
  advanceSandbox .Preparing .Ready .Present id expected

def beginSandboxRelease (id : String) (expected : Int) :
    Write D sandboxAccess (SandboxRecord D) :=
  advanceSandbox .Ready .Releasing .Unknown id expected

/-- `Store::complete_sandbox_release`: the observed presence is checked before the phase. -/
def completeSandboxRelease (id : String) (expected : Int) (observed : Presence) :
    Write D sandboxAccess (SandboxRecord D) := do
  Writer.ensure (observed ≠ .Present)
    (.InvariantViolated s!"sandbox {id} cannot record Present on a release path")
  advanceSandbox .Releasing .Released observed id expected

/-- `Store::fail_sandbox`, from any phase. -/
def failSandbox (id : String) (expected : Int) (observed : Presence) :
    Write D sandboxAccess (SandboxRecord D) := do
  Writer.ensure (observed ≠ .Present)
    (.InvariantViolated s!"sandbox {id} cannot record Present on a failure path")
  transitionSandbox id expected .Error observed

/-- `Store::update_sandbox_presence`, in any phase. -/
def updateSandboxPresence (id : String) (expected : Int) (presence : Presence) :
    Write D sandboxAccess (SandboxRecord D) := do
  let revision ← updateRevisioned .sandboxInstances id expected
    fun s => { s with observedPresence := presence }
  rereadSandbox id revision

/-- The row id SQLite assigns to the next probe result. -/
def nextProbeId (d : Db D) : Nat :=
  (d.rows .sandboxProbeResults).foldl (fun top p => max top p.1) 0 + 1

/-- `Store::record_sandbox_probe_evidence`. -/
def recordSandboxProbeEvidence (now : Int) (evidence : SandboxProbeEvidence D) :
    Write D ⟨[.sandboxProbeResults], []⟩ Unit := do
  let id ← Writer.read nextProbeId
  insert .sandboxProbeResults id ⟨evidence, now⟩

end Pantheon
