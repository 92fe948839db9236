/-
  ContextPlan attachment and configuration activation (`pantheon-store/src/context.rs`,
  `configuration.rs`).
  An attachment names its Run's own frozen snapshot and a plan whose bytes hash to its
  identity, and a Run keeps the plan it first got. An activation stores its components under
  their digests, allocates the next sequence and moves the pointer by compare-and-set.
-/
import Pantheon.Config.Components
import Pantheon.Store.Command

namespace Pantheon

open Relational

variable {D : Type} [DecidableEq D] [DigestScheme D]

/-! ## Context plans -/

structure ContextPlanAttachment (D : Type) where
  runId : String
  sourceSnapshotDigest : D
  planDigest : D
  builderVersion : String
  planCanonicalJson : String
  deriving Repr, DecidableEq

structure AttachedContextPlan (D : Type) where
  runId : String
  contextPlanDigest : D
  deriving Repr, DecidableEq

def attachmentAccess : Access TableName := ⟨[.contextPlans, .runContextPlans], []⟩

/-- Insert-or-verify of the immutable plan row. -/
def ensureContextPlan (a : ContextPlanAttachment D) : Write D ⟨[.contextPlans], []⟩ Unit := do
  insertIfAbsent .contextPlans a.planDigest
    ⟨a.sourceSnapshotDigest, a.builderVersion, a.planCanonicalJson⟩
  let stored ← fetch .contextPlans a.planDigest (.InvariantViolated
    "context_plans insert reported success but the row is unreadable")
  Writer.ensure (stored.canonicalJson = a.planCanonicalJson)
    (.ContentIdentityConflict "context_plans" (toDisplay a.planDigest)
      "an existing plan row under this digest holds different canonical content")
  Writer.ensure (stored.sourceSnapshotDigest = a.sourceSnapshotDigest) (.InvariantViolated
    "context_plans row pairs the claimed digest with another source snapshot")

/-- `apply_attachment`. -/
def applyAttachment (a : ContextPlanAttachment D) :
    Write D attachmentAccess (AttachedContextPlan D) := do
  let run ← fetch .runs a.runId (.RunNotFound a.runId)
  Writer.ensure (run.contextSourceSnapshotDigest = a.sourceSnapshotDigest)
    (.ContextSourceMismatch a.runId (toDisplay run.contextSourceSnapshotDigest)
      (toDisplay a.sourceSnapshotDigest))
  let computed : D := DigestScheme.ofBytes (utf8 a.planCanonicalJson)
  let computedText := toDisplay computed
  let claimedText := toDisplay a.planDigest
  Writer.ensure (computed = a.planDigest) (.ContentIdentityConflict "context_plans" claimedText
    s!"the plan's canonical bytes hash to {computedText}, not the claimed {claimedText}")
  (ensureContextPlan a).widen (by decide) (by decide)
  let existing ← find .runContextPlans a.runId
  match existing with
  | some attached =>
    Writer.ensure (attached.contextPlanDigest = a.planDigest)
      (.RunContextPlanConflict a.runId (toDisplay attached.contextPlanDigest) claimedText)
  | none => insert .runContextPlans a.runId ⟨a.sourceSnapshotDigest, a.planDigest⟩
  return ⟨a.runId, a.planDigest⟩

/-- `Store::configuration_component_json`: content addressing is the read fence. -/
def configurationComponentJson (digest : D) (d : Db D) :
    Except StoreError (Option (ComponentDomain × String)) :=
  match d.find .configurationComponents digest with
  | none => .ok none
  | some component =>
    if DigestScheme.ofBytes (utf8 component.canonicalJson) = digest then
      .ok (some (component.domain, component.canonicalJson))
    else .error (.InvariantViolated
      s!"{component.domain.asStr} component content no longer hashes to {toDisplay digest}")

/-! ## Frozen sources -/

structure RunRecord (D : Type) where
  id : String
  taskId : String
  bindingDigest : D
  contextSourceSnapshotDigest : D
  deriving Repr, DecidableEq

structure GoalRevisionContent (D : Type) where
  goalId : String
  revision : Int
  contentDigest : D
  canonicalJson : String
  deriving Repr, DecidableEq

section Reads

omit [DigestScheme D]

/-- `Store::run`. -/
def runRecord (runId : String) (d : Db D) : Option (RunRecord D) :=
  (d.find .runs runId).map fun run =>
    ⟨runId, run.taskId, run.bindingDigest, run.contextSourceSnapshotDigest⟩

/-- The digest of the plan attached to a Run: what is read of `Store::run_context_plan`. -/
def runContextPlan (runId : String) (d : Db D) : Option D :=
  (d.find .runContextPlans runId).map (·.contextPlanDigest)

/-- `Store::context_source_snapshot_json`. -/
def contextSourceSnapshotJson (digest : D) (d : Db D) : Option String :=
  (d.find .contextSourceSnapshots digest).map (·.canonicalJson)

/-- `Store::task_spec_json`. -/
def taskSpecJson (digest : D) (d : Db D) : Option String :=
  (d.find .taskSpecs digest).map (·.canonicalJson)

/-- `Store::goal_revision_content`. -/
def goalRevisionContent (goalId : String) (revision : Int) (d : Db D) :
    Option (GoalRevisionContent D) :=
  (d.find .goalRevisions (goalId, revision)).map fun row =>
    ⟨goalId, revision, row.contentDigest, row.canonicalJson⟩

/-- `Store::revision_agents_component_json`. -/
def revisionAgentsComponentJson (activationSequence : Int) (d : Db D) : Option String := do
  let revision ← d.find .configurationRevisions activationSequence
  let component ← d.find .configurationComponents revision.components.agents
  if component.domain = .agents then some component.canonicalJson else none

end Reads

/-! ## Configuration activation -/

/-- What activation reads of a compiled configuration: each component's bytes with its
    identity, and the digests the revision is built from. -/
structure CompiledComponents (D : Type) where
  records : List (ComponentDomain × D × String)
  digests : ComponentDigests D
  deriving Repr, DecidableEq

structure ActivatedConfiguration (D : Type) where
  activationSequence : Int
  contentDigest : D
  components : ComponentDigests D
  sourceSetDigest : D
  pointerRevision : Int
  deriving Repr, DecidableEq

/-- `COALESCE(MAX(activation_sequence), 0) + 1`. -/
def nextActivationSequence (d : Db D) : Int :=
  (d.rows .configurationRevisions).foldl (fun top p => max top p.1) 0 + 1

def activationAccess : Access TableName :=
  ⟨[.configurationComponents, .configurationRevisions], [.activeConfiguration]⟩

/-- `write_activation`. -/
def writeActivation (compiled : CompiledComponents D) (compilerVersion : String)
    (sourceSetDigest : D) (expected : Int) :
    Write D activationAccess (ActivatedConfiguration D) := do
  Writer.forEach (fun record : ComponentDomain × D × String =>
    insertIfAbsent .configurationComponents record.2.1 ⟨record.1, record.2.2⟩) compiled.records
  let sequence ← Writer.read nextActivationSequence
  let contentDigest := compiled.digests.revisionDigest compilerVersion
  insert .configurationRevisions sequence
    ⟨contentDigest, compilerVersion, sourceSetDigest, compiled.digests⟩
  let pointerRevision ← updateRevisioned .activeConfiguration () expected
    fun a => { a with activationSequence := some sequence }
  return ⟨sequence, contentDigest, compiled.digests, sourceSetDigest, pointerRevision⟩

/-! ## The active configuration -/

structure ConfigurationPointer (D : Type) where
  active : Option (ActivatedConfiguration D)
  revision : Int
  deriving Repr, DecidableEq

/-- `verify_component`. -/
def verifyComponent (expected : D) (domain : ComponentDomain) (d : Db D) : Except StoreError Unit :=
  match d.find .configurationComponents expected with
  | none => .error (.InvariantViolated
      s!"active configuration names {domain.asStr} component {toDisplay expected}, which is not stored")
  | some found => do
    refuseIf (found.domain ≠ domain) (.InvariantViolated
      s!"component {toDisplay expected} is stored as {found.domain.asStr}, but the revision uses it as {domain.asStr}")
    let recomputed : D := DigestScheme.ofBytes (utf8 found.canonicalJson)
    refuseIf (recomputed ≠ expected) (.InvariantViolated
      s!"{domain.asStr} component content hashes to {toDisplay recomputed}, not the {toDisplay expected} the active revision names")

/-- `read_revision_row`. -/
def readRevisionRow (sequence pointerRevision : Int) (d : Db D) :
    Except StoreError (ActivatedConfiguration D) :=
  match d.find .configurationRevisions sequence with
  | none => .error (.InvariantViolated
      s!"active configuration points at revision {sequence}, which does not exist")
  | some row => do
    let recomputed := row.components.revisionDigest row.compilerVersion
    refuseIf (recomputed ≠ row.contentDigest) (.InvariantViolated
      s!"revision {sequence} names content digest {toDisplay row.contentDigest}, but its components under compiler {row.compilerVersion} produce {toDisplay recomputed}")
    verifyComponent row.components.agents .agents d
    verifyComponent row.components.routing .routing d
    verifyComponent row.components.executionProfile .executionProfiles d
    verifyComponent row.components.evaluatorRegistry .evaluators d
    verifyComponent row.components.contextPolicy .context d
    verifyComponent row.components.authorization .authorization d
    return ⟨sequence, row.contentDigest, row.components, row.sourceSetDigest, pointerRevision⟩

/-- `Store::configuration_pointer`. -/
def configurationPointer (d : Db D) : Except StoreError (ConfigurationPointer D) :=
  match d.find .activeConfiguration () with
  | none => .error .SqliteNoRow
  | some pointer =>
    match pointer.activationSequence with
    | none => .ok ⟨none, pointer.revision⟩
    | some sequence => do
      return ⟨some (← readRevisionRow sequence pointer.revision d), pointer.revision⟩

end Pantheon
