/-
  Sealing a Workspace into a `code.changeset` (`pantheon-engine/src/sealing.rs`).
  A seal fences the Workspace under the claimed Run's authority, lists the trusted base, streams
  the captured tree into the object store, compares the two trees and publishes one manifest in
  one transaction. Every inner command identity is derived from the outer one, the claimed
  authority and the fence. The capture walk is one call that answers with everything it would
  stream and how it ends; what the sink does with the entries follows it.
-/
import Pantheon.Cas.LocalFs
import Pantheon.Config.Parse
import Pantheon.Engine.Site
import Pantheon.Planning.Scope

namespace Pantheon

open Interleave SortedAssoc Routine

variable {D : Type} [DecidableEq D] [DigestScheme D]

/-! ## Ports -/

/-- An entry of the captured tree: file content, or the target of a link. -/
structure CapturedEntry where
  path : RepositoryPath
  kind : EntryKind
  bytes : Bytes
  deriving DecidableEq

/-- A walk of a Workspace: the entries it delivers in order, and how it ends. -/
structure Walk where
  entries : List CapturedEntry
  ending : Except ExternalFault Unit

/-- An object of the base tree, by its name in the source repository. -/
structure BaseObject where
  kind : EntryKind
  oid : String
  size : Nat
  deriving Repr, DecidableEq

/-- The base tree by path. -/
abbrev BaseTree : Type := { tree : List (Bytes × BaseObject) // Sorted tree }

/-- The calls of a seal out of the process. -/
inductive SealPort (D : Type) : Type → Type where
  | ambient : SealPort D Ambient
  | baseTree (source : String) (base : ResolvedBase) : SealPort D (Except ExternalFault BaseTree)
  | captureTree (root : String) : SealPort D Walk
  | blobObjectNames (source : String) (contents : List Bytes) :
    SealPort D (Except ExternalFault (List String))
  | blobBytes (source oid : String) : SealPort D (Except ExternalFault Bytes)
  | publish (bytes : Bytes) : SealPort D (Except ExternalFault (ObjectRef D))

instance : Surrounded (SealPort D) := ⟨.ambient⟩

/-- The objects the object store has acknowledged, which no part of the program reads. -/
abbrev Acknowledged (D : Type) : Type := List (ObjectRef D)

/-- A part of a seal that may fail. -/
abbrev Sealing (ε D : Type) [DecidableEq D] [DigestScheme D] : Type → Type 1 :=
  Fallible ε D (Acknowledged D) Unit (SealPort D)

/-! ## Requests and answers -/

structure SealCommand (D : Type) where
  epoch : String
  id : String
  requestHash : D
  deriving Repr, DecidableEq

structure SealRequest where
  taskId : String
  outputSlot : String
  authority : SealAuthority
  producerAttemptId : Option String
  deriving Repr, DecidableEq

inductive SealError where
  | Store (error : StoreError)
  | TaskUnusable (taskId detail : String)
  | OutputSlotInvalid (taskId slot detail : String)
  | WorkspaceState (workspaceId detail : String)
  | Capture (fault : ExternalFault)
  | ScopeViolated (path : String)
  | CeilingsExceeded (detail : String)
  | CommandIdentityTooLong (id : String)
  deriving Repr, DecidableEq

/-- The conversion of a changeset error. -/
def SealError.ofChangeset (e : ChangesetError) : SealError :=
  .Store (.InvariantViolated s!"changeset construction failed: {e.display}")

structure SealedArtifact (D : Type) where
  artifactDigest : D
  artifactJson : String
  revisionStateDigest : D
  artifactReused : Bool
  deriving Repr, DecidableEq

/-! ## Identities and paths -/

/-- `MAX_COMMAND_ID`. -/
def maxCommandId : Nat := 128

/-- `derive`. -/
def SealCommand.derive (command : SealCommand D) (suffix : String) : Except SealError String :=
  let id := s!"{command.id}:seal:{suffix}"
  if id.utf8ByteSize > maxCommandId then .error (.CommandIdentityTooLong id) else .ok id

/-- `authority_tag`. -/
def authorityTag (authority : SealAuthority) : String :=
  s!"{authority.runId}@{authority.expectedRunRevision}"

/-- An inner command under a derived identity. -/
def SealCommand.inner (command : SealCommand D) (id eventType : String) : Command D :=
  ⟨command.epoch, id, command.requestHash, eventType⟩

/-- `Path::join`: an absolute component replaces what is before it. -/
def joinPath (base component : String) : String :=
  if component.toList.head? = some '/' then component
  else if base = "" ∨ base.toList.getLast? = some '/' then base ++ component
  else base ++ "/" ++ component

/-- `capture_root_of`. -/
def captureRootOf (workspaceRoot workspaceId : String) : String :=
  joinPath (joinPath workspaceRoot workspaceId) "repo"

/-! ## Capture -/

/-- `MAX_ENTRIES`. -/
def maxEntries : Nat := 100000

/-- `MAX_TOTAL_BYTES`. -/
def maxTotalBytes : Nat := 2 ^ 30

/-- `MAX_IDENTITY_BATCH_BYTES`. -/
def maxIdentityBatchBytes : Nat := 16 * 2 ^ 20

/-- `SCOPE_FAULT_CODE`. -/
def scopeFaultCode : String := "workspace.scope-violated"

/-- `u64::saturating_add`. -/
def saturatingAdd (a b : Nat) : Nat := min (a + b) (2 ^ 64 - 1)

/-- What the walk has gathered: the captured state by path, the paths whose bytes were not
    retained, the batch whose names are still to be computed, and the names by path. -/
structure Capture (D : Type) where
  finalState : List (Bytes × EntryKind × D × Nat)
  unpublished : List Bytes
  totalBytes : Nat
  batch : List (Bytes × Bytes)
  batchBytes : Nat
  identities : List (Bytes × String)

def Capture.empty : Capture D := ⟨[], [], 0, [], 0, []⟩

/-- `flush_identity_batch`: the names by path, with those of the batch. -/
def flushIdentityBatch (source : String) (batch : List (Bytes × Bytes))
    (identities : List (Bytes × String)) : Sealing ExternalFault D (List (Bytes × String)) :=
  if batch = [] then pure identities
  else do
    let names ← tryAs id (Prog.ask (.blobObjectNames source (batch.map Prod.snd)))
    Routine.ofExcept (refuseIf (names.length ≠ batch.length) ⟨"workspace.base-unavailable",
      s!"the base identity derivation returned {names.length} names for {batch.length} payloads"⟩)
    return ((batch.map Prod.fst).zip names).foldl (fun m p => put p.1 p.2 m) identities

/-- The bytes of an authorized path are published; any other path is noted. -/
def retain (scope : WorkspaceScope) (unpublished : List Bytes) (entry : CapturedEntry) :
    Sealing ExternalFault D (List Bytes) :=
  if scope.authorizes entry.path = true then do
    let published ← tryAs id (Prog.ask (.publish entry.bytes))
    let digest : D := DigestScheme.ofBytes entry.bytes
    Routine.ofExcept (refuseIf (published.size ≠ entry.bytes.length ∨ published.digest ≠ digest)
      ⟨"cas.verify-failed",
        s!"published {published.size} bytes as {toDisplay published.digest}, expected {entry.bytes.length} as {toDisplay digest}"⟩)
    return unpublished
  else return entry.path.bytes :: unpublished

/-- The captured state with one more entry. -/
def Capture.note (c : Capture D) (unpublished : List Bytes) (entry : CapturedEntry) : Capture D :=
  { c with
    finalState := put entry.path.bytes
      (entry.kind, DigestScheme.ofBytes entry.bytes, entry.bytes.length) c.finalState
    unpublished
    totalBytes := saturatingAdd c.totalBytes entry.bytes.length }

/-- The base has the path with this kind and size. -/
def comparisonCandidate (base : BaseTree) (entry : CapturedEntry) : Bool :=
  (SortedAssoc.find entry.path.bytes base.1).any fun before =>
    before.kind == entry.kind && before.size == entry.bytes.length

/-- The batch with one more entry, flushed when it is full. -/
def Capture.enqueue (source : String) (c : Capture D) (entry : CapturedEntry) :
    Sealing ExternalFault D (Capture D) :=
  let batch := c.batch ++ [(entry.path.bytes, entry.bytes)]
  let batchBytes := c.batchBytes + entry.bytes.length
  if maxIdentityBatchBytes ≤ batchBytes then do
    let identities ← flushIdentityBatch source batch c.identities
    return { c with batch := [], batchBytes := 0, identities }
  else return { c with batch, batchBytes }

/-- What the sink does with one entry. -/
def sink (source : String) (base : BaseTree) (scope : WorkspaceScope) (c : Capture D)
    (entry : CapturedEntry) : Sealing ExternalFault D (Capture D) := do
  Routine.ofExcept (refuseIf (maxEntries ≤ c.finalState.length)
    ⟨"workspace.capture-ceiling", s!"more than {maxEntries} entries"⟩)
  Routine.ofExcept (refuseIf (maxTotalBytes < saturatingAdd c.totalBytes entry.bytes.length)
    ⟨"workspace.capture-ceiling", s!"more than {maxTotalBytes} captured bytes"⟩)
  let unpublished ← retain scope c.unpublished entry
  if comparisonCandidate base entry = true then (c.note unpublished entry).enqueue source entry
  else return c.note unpublished entry

/-- The sink over the entries of a walk. -/
def captureAll (source : String) (base : BaseTree) (scope : WorkspaceScope) :
    List CapturedEntry → Capture D → Sealing ExternalFault D (Capture D)
  | [], c => pure c
  | entry :: rest, c => do
    let c ← sink source base scope c entry
    captureAll source base scope rest c

/-- `capture_tree` with the sink. -/
def captureTree (root source : String) (base : BaseTree) (scope : WorkspaceScope) :
    Sealing ExternalFault D (Capture D) := do
  let walk ← always (Prog.ask (.captureTree root))
  let c ← captureAll source base scope walk.entries .empty
  Routine.ofExcept walk.ending
  return c

/-- How a fault of the walk is reported. -/
def captureFault (fault : ExternalFault) : SealError :=
  if fault.code = scopeFaultCode then .ScopeViolated fault.detail else .Capture fault

/-! ## The difference -/

/-- `before_state`: the state of a base object, its bytes published first. -/
def beforeState (source : String) (before : BaseObject) : Sealing SealError D (EntryState D) := do
  let bytes ← tryAs .Capture (Prog.ask (.blobBytes source before.oid))
  let published ← tryAs .Capture (Prog.ask (.publish bytes))
  Routine.ofExcept (refuseIf (published.size ≠ bytes.length ∨ published.size ≠ before.size)
    (.Capture ⟨"cas.verify-failed",
      s!"preimage for {before.oid} published {published.size} bytes, claimed {before.size}"⟩))
  return .Present before.kind published.digest published.size

/-- `refuse_unpublished_change`. -/
def refuseUnpublishedChange (path : RepositoryPath) (unpublished : List Bytes) :
    Except SealError Unit :=
  refuseIf (path.bytes ∈ unpublished) (.ScopeViolated path.toManifestString)

/-- An entry, or the converted error. -/
def newEntry (path : RepositoryPath) (operation : Operation) (before after : EntryState D) :
    Sealing SealError D (ChangesetEntry D) :=
  Routine.ofExcept ((ChangesetEntry.new path operation before after).mapError .ofChangeset)

/-- A path, or the converted error. -/
def pathOfBytes (bytes : Bytes) : Except SealError RepositoryPath :=
  (RepositoryPath.fromBytes bytes).mapError .ofChangeset

/-- Kind, size and name of the captured bytes are those of the base. -/
def unchanged (identities : List (Bytes × String)) (path : Bytes) (before : BaseObject)
    (after : EntryKind × D × Nat) : Bool :=
  before.kind == after.1 && before.size == after.2.2 &&
    (SortedAssoc.find path identities).any (· == before.oid)

/-- One captured path against the base. -/
def diffCaptured (source : String) (base : BaseTree) (c : Capture D)
    (captured : Bytes × EntryKind × D × Nat) : Sealing SealError D (Option (ChangesetEntry D)) := do
  let path ← Routine.ofExcept (pathOfBytes captured.1)
  let after := EntryState.Present captured.2.1 captured.2.2.1 captured.2.2.2
  match SortedAssoc.find captured.1 base.1 with
  | none => do
    Routine.ofExcept (refuseUnpublishedChange path c.unpublished)
    let entry ← newEntry path .Add .Absent after
    return some entry
  | some before =>
    if unchanged c.identities captured.1 before captured.2 = true then return none
    else do
      Routine.ofExcept (refuseUnpublishedChange path c.unpublished)
      let before ← beforeState source before
      let entry ← newEntry path .Modify before after
      return some entry

/-- One path of the base against the captured state. -/
def diffBase (source : String) (scope : WorkspaceScope) (c : Capture D)
    (object : Bytes × BaseObject) : Sealing SealError D (Option (ChangesetEntry D)) :=
  if (SortedAssoc.find object.1 c.finalState).isSome = true then return none
  else do
    let path ← Routine.ofExcept (pathOfBytes object.1)
    Routine.ofExcept (refuseIf (scope.authorizes path = false) (.ScopeViolated path.toManifestString))
    let before ← beforeState source object.2
    let entry ← newEntry path .Delete before .Absent
    return some entry

/-- The entries of a list of paths, in order. -/
def collectEntries {κ : Type} (f : κ → Sealing SealError D (Option (ChangesetEntry D))) :
    List κ → Sealing SealError D (List (ChangesetEntry D))
  | [] => pure []
  | item :: rest => do
    let entry ← f item
    let entries ← collectEntries f rest
    return entry.toList ++ entries

/-! ## The changeset -/

/-- What a capture comes to: the captured state and the entries of the difference. -/
structure Difference (D : Type) where
  captured : List (Bytes × EntryKind × D × Nat)
  entries : List (ChangesetEntry D)

/-- The first half of `capture_and_seal`: capture, object store and difference. -/
def captureDifference (workspaceRoot : String) (workspace : WorkspaceRecord)
    (scope : WorkspaceScope) : Sealing SealError D (Difference D) := do
  let base ← tryAs .Capture (Prog.ask (.baseTree workspace.sourcePath workspace.resolvedBase))
  let walked ← tryAs captureFault
    (captureTree (captureRootOf workspaceRoot workspace.id) workspace.sourcePath base scope).run
  let identities ← tryAs .Capture
    (flushIdentityBatch workspace.sourcePath walked.batch walked.identities).run
  let c : Capture D := { walked with batch := [], identities }
  let present ← collectEntries (diffCaptured workspace.sourcePath base c) c.finalState
  let deleted ← collectEntries (diffBase workspace.sourcePath scope c) base.1
  return ⟨c.finalState, present ++ deleted⟩

/-- A captured path as an entry of the revision state. -/
def finalEntry (captured : Bytes × EntryKind × D × Nat) : Except SealError (FinalEntry D) := do
  let path ← pathOfBytes captured.1
  return ⟨path, captured.2.1, captured.2.2.1, captured.2.2.2⟩

/-- The payloads of the states before, then of those after. -/
def memberPayloads (entries : List (ChangesetEntry D)) : List (D × Nat) :=
  (entries.map (·.before) ++ entries.map (·.after)).filterMap fun
    | .Present _ blob size => some (blob, size)
    | .Absent => none

/-- The first payload of each digest. -/
def uniqueMembers (members : List (D × Nat)) : List (D × Nat) :=
  members.foldl (fun unique m => if unique.any (·.1 == m.1) then unique else unique ++ [m]) []

/-- The canonical identities of a difference. -/
structure Assembled (D : Type) where
  revisionState : RevisionState D
  artifactJson : String
  members : List (D × Nat)

def Assembled.artifactDigest (a : Assembled D) : D := DigestScheme.ofBytes (utf8 a.artifactJson)

/-- The revision state, the manifest and its members. -/
def assemble (workspace : WorkspaceRecord) (difference : Difference D) :
    Except SealError (Assembled D) := do
  let finalEntries ← difference.captured.mapM finalEntry
  let revisionState ← (RevisionState.new finalEntries).mapError .ofChangeset
  let manifest := changesetManifest workspace.repository workspace.resolvedBase.text
    revisionState.digest difference.entries
  return ⟨revisionState, manifest.toCanonicalText, uniqueMembers (memberPayloads difference.entries)⟩

/-- What a publication of it claims. -/
def sealedChangeset (request : SealRequest) (workspace : WorkspaceRecord) (fenceRevision : Int)
    (a : Assembled D) : SealedChangeset D where
  workspaceId := workspace.id
  taskId := workspace.taskId
  fenceRevision := fenceRevision
  authority := request.authority
  outputSlot := request.outputSlot
  repository := workspace.repository
  resolvedBase := workspace.resolvedBase.text
  revisionStateDigest := a.revisionState.digest
  revisionStateJson := a.revisionState.toCanonicalJson
  artifactDigest := a.artifactDigest
  artifactJson := a.artifactJson
  members := a.members
  producer := request.producerAttemptId

/-- The publication. A replay carries no value: the answer says whether the row exists. -/
def publishChangeset (command : SealCommand D) (request : SealRequest)
    (workspace : WorkspaceRecord) (fenceRevision : Int) (a : Assembled D) :
    Sealing SealError D (SealedArtifact D) := do
  let id ← Routine.ofExcept (command.derive s!"sealed:{fenceRevision}:{authorityTag request.authority}")
  let committed ← tryAs .Store (Routine.perform (.command (command.inner id "workspace.sealed")
    (.commitChangesetSeal (sealedChangeset request workspace fenceRevision a))))
  let reused ← match (committed : Committed SealOutcome) with
    | .Executed value _ => pure value.artifactReused
    | .Replayed _ _ => always (Routine.readStore fun d => (d.find .artifacts a.artifactDigest).isSome)
  return ⟨a.artifactDigest, a.artifactJson, a.revisionState.digest, reused⟩

/-- `capture_and_seal`. -/
def captureAndSeal (workspaceRoot : String) (command : SealCommand D) (request : SealRequest)
    (workspace : WorkspaceRecord) (fenceRevision : Int) (scope : WorkspaceScope) :
    Sealing SealError D (SealedArtifact D) := do
  let difference ← captureDifference workspaceRoot workspace scope
  let assembled ← Routine.ofExcept (assemble workspace difference)
  publishChangeset command request workspace fenceRevision assembled

/-! ## The seal -/

/-- `load_spec`, what is checked of the Task. -/
def sealableTask (taskId : String) (task : Option (TaskRecord D)) :
    Except SealError (TaskRecord D) :=
  match task with
  | none => .error (.TaskUnusable taskId "no such task")
  | some task =>
    if task.phase = .Active then .ok task
    else .error (.TaskUnusable taskId
      s!"the task is {task.phase.asStr}; sealing runs under its current Run")

/-- `load_spec`, what is checked of the stored specification. -/
def sealableSpec (taskId : String) (expected : D) (stored : Option String) :
    Except SealError (TaskSpec D) :=
  match stored with
  | none => .error (.TaskUnusable taskId "the specification the task names is not stored")
  | some canonical => match TaskSpec.fromCanonicalJson canonical with
    | .error e => .error (.TaskUnusable taskId e.display)
    | .ok (spec : TaskSpec D) =>
      if spec.digest ≠ expected then
        .error (.TaskUnusable taskId "the stored specification does not match its digest")
      else .ok spec

/-- `load_spec`. -/
def loadSpec (taskId : String) : Sealing SealError D (TaskSpec D) := do
  let found ← always (Routine.readStore (taskRecord taskId))
  let task ← Routine.ofExcept (sealableTask taskId found)
  let stored ← always (Routine.readStore (taskSpecJson task.specDigest))
  Routine.ofExcept (sealableSpec taskId task.specDigest stored)

/-- The slot is one of the specification's and permits a changeset. -/
def checkSlot (request : SealRequest) (spec : TaskSpec D) : Except SealError Unit :=
  match spec.outputs.find? fun o => o.name == request.outputSlot with
  | none => .error (.OutputSlotInvalid request.taskId request.outputSlot
      "no such output slot in the immutable specification")
  | some slot =>
    if slot.kind ≠ codeChangesetKind then .error (.OutputSlotInvalid request.taskId
      request.outputSlot s!"it permits {slot.kind}, not {codeChangesetKind}")
    else .ok ()

/-- `REPOSITORY_INPUT`. -/
def repositoryInput : String := "repository"

/-- The Workspace binds the repository the Task declares. -/
def checkRepository (request : SealRequest) (spec : TaskSpec D) (workspace : WorkspaceRecord) :
    Except SealError Unit :=
  match spec.inputs.find? fun i => i.name == repositoryInput with
  | none => .error (.TaskUnusable request.taskId
      "it declares no repository input to have worked in")
  | some input =>
    if workspace.repository ≠ input.reference then .error (.WorkspaceState workspace.id
      s!"it binds {workspace.repository} but the Task declares {input.reference}")
    else .ok ()

/-- `frozen_revision`, what is checked of the Workspace read back. -/
def heldFence (workspaceId : String) (found : Option WorkspaceRecord) : Except SealError Int :=
  match found.filter (·.id == workspaceId) with
  | none => .error (.WorkspaceState workspaceId "it vanished immediately after its own freeze")
  | some record =>
    if record.phase ≠ .Frozen ∨ record.materialization ≠ .Present then
      .error (.WorkspaceState workspaceId
        s!"after freezing it is {record.phase.asStr} ({record.materialization.asStr})")
    else .ok record.revision

/-- The fence of a Ready Workspace: freeze it, and read its revision back. -/
def freezeFence (command : SealCommand D) (request : SealRequest) (workspace : WorkspaceRecord) :
    Sealing SealError D Int := do
  let id ← Routine.ofExcept (command.derive
    s!"freeze:{workspace.revision}:{authorityTag request.authority}")
  let _ ← tryAs .Store (Routine.perform (.command (command.inner id "workspace.frozen")
    (.freezeWorkspace request.authority request.taskId request.outputSlot workspace.id
      workspace.revision)))
  let found ← tryAs .Store (Routine.readStore (workspaceForTask workspace.taskId))
  Routine.ofExcept (heldFence workspace.id found)

/-- The fence of a frozen Workspace: validate the authority again. -/
def revalidateFence (command : SealCommand D) (request : SealRequest)
    (workspace : WorkspaceRecord) : Sealing SealError D Int := do
  Routine.ofExcept (refuseIf (workspace.materialization ≠ .Present) (.WorkspaceState workspace.id
    "it is frozen but its materialization is not verified present"))
  let id ← Routine.ofExcept (command.derive
    s!"validated:{workspace.revision}:{authorityTag request.authority}")
  let _ ← tryAs .Store (Routine.perform (.command (command.inner id "workspace.seal-authority.validated")
    (.validateSealAuthority request.authority request.taskId request.outputSlot workspace.id
      workspace.revision)))
  return workspace.revision

/-- The fence a capture runs behind, by the phase the Workspace was read in. -/
def establishFence (command : SealCommand D) (request : SealRequest)
    (workspace : WorkspaceRecord) : Sealing SealError D Int :=
  match workspace.phase with
  | .Ready => freezeFence command request workspace
  | .Frozen => revalidateFence command request workspace
  | phase => throw (.WorkspaceState workspace.id
      s!"it is {phase.asStr}; capture requires a verified, mutable-or-frozen Workspace")

/-- The scope of the specification, which must authorize something. -/
def sealScope (spec : TaskSpec D) : Except SealError WorkspaceScope := do
  let scope ← (WorkspaceScope.compile spec.scope.resources).mapError fun _ =>
    .CeilingsExceeded "the Task's declared scope patterns are unusable"
  refuseIf (scope.isEmpty = true)
    (.ScopeViolated "(every path: the Task declares no resource scope)")
  return scope

/-- The evidence of a failed capture, and then its error. -/
def recordFailure (command : SealCommand D) (workspace : WorkspaceRecord) (fenceRevision : Int)
    (error : SealError) : Sealing SealError D (SealedArtifact D) := do
  let id ← Routine.ofExcept (command.derive s!"capture-failed:{fenceRevision}")
  let _ ← tryAs .Store (Routine.perform (.command (command.inner id "workspace.capture-failed")
    (.recordCaptureFailure workspace.id fenceRevision)))
  throw error

/-- A part of a seal whose failure is answered by another part. -/
def orRecord {α : Type} (p : Sealing SealError D α) (onError : SealError → Sealing SealError D α) :
    Sealing SealError D α :=
  ExceptT.mk (p.run >>= fun
    | .ok a => pure (.ok a)
    | .error error => (onError error).run)

/-- The Workspace of the Task and its specification, as a seal first reads them. -/
def sealSubject (request : SealRequest) : Sealing SealError D (TaskSpec D × WorkspaceRecord) := do
  let spec ← loadSpec request.taskId
  Routine.ofExcept (checkSlot request spec)
  let found ← tryAs .Store (Routine.readStore (workspaceForTask request.taskId))
  let workspace ← orElse (.WorkspaceState "-" s!"task {request.taskId} owns no current Workspace")
    found
  Routine.ofExcept (checkRepository request spec workspace)
  return (spec, workspace)

/-- `ChangesetSealer::seal`. -/
def ChangesetSealer.seal (workspaceRoot : String) (command : SealCommand D) (request : SealRequest) :
    Sealing SealError D (SealedArtifact D) := do
  let (spec, workspace) ← sealSubject request
  let fenceRevision ← establishFence command request workspace
  let scope ← Routine.ofExcept (sealScope spec)
  orRecord (captureAndSeal workspaceRoot command request workspace fenceRevision scope)
    (recordFailure command workspace fenceRevision)

end Pantheon
