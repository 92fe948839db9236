/-
  Publication of sealed changesets (`pantheon-store/src/artifacts.rs`).
  `commitChangesetSeal` requires the frozen Workspace and the Run's authority once more and then
  records Blobs, the WorkspaceRevision, the Artifact with its members and, for a named producer,
  the ProductionRecord. What exists under an identity must agree with what is claimed.
-/
import Pantheon.Store.Workspace

namespace Pantheon

open Relational

variable {D : Type} [DecidableEq D] [DigestScheme D]

/-- Everything one publication claims. `producer` is the producing Attempt, if one is named. -/
structure SealedChangeset (D : Type) where
  workspaceId : String
  taskId : String
  fenceRevision : Int
  authority : SealAuthority
  outputSlot : String
  repository : String
  resolvedBase : String
  revisionStateDigest : D
  revisionStateJson : String
  artifactDigest : D
  artifactJson : String
  members : List (D × Nat)
  producer : Option String
  deriving Repr, DecidableEq

structure SealOutcome where
  workspaceRevisionId : String
  artifactReused : Bool
  deriving Repr, DecidableEq

/-- `ensure_blob`. -/
def ensureBlob (member : D × Nat) : Write D ⟨[.blobs], []⟩ Unit := do
  Writer.ensure ((member.2 : Int) < 2 ^ 63)
    (.InvariantViolated s!"blob size {member.2} exceeds what SQLite can store")
  let existing ← find .blobs member.1
  match existing with
  | some blob =>
    Writer.ensure (blob.size = member.2) (.ContentIdentityConflict "blobs" (toDisplay member.1)
      s!"stored size {blob.size} disagrees with published {member.2}")
  | none => insert .blobs member.1 ⟨member.2⟩

/-- The WorkspaceRevision of this state, created where it is new. -/
def ensureRevision (freshId : String) (s : SealedChangeset D) :
    Write D ⟨[.workspaceRevisions], []⟩ String := do
  let existing ← Writer.read fun d : Db D => (d.rows .workspaceRevisions).find? fun p =>
    p.2.workspaceId == s.workspaceId && p.2.stateDigest == s.revisionStateDigest
  match existing with
  | some row => return row.1
  | none =>
    insert .workspaceRevisions freshId
      ⟨s.workspaceId, s.repository, s.resolvedBase, s.revisionStateDigest, s.revisionStateJson⟩
    return freshId

/-- The Artifact of this manifest, created where it is new; answers whether it was there. -/
def ensureArtifact (s : SealedChangeset D) : Write D ⟨[.artifacts], []⟩ Bool := do
  let existing ← find .artifacts s.artifactDigest
  match existing with
  | some row => do
    Writer.ensure (row.artifactKind = codeChangesetKind ∧ row.canonicalJson = s.artifactJson)
      (.ContentIdentityConflict "artifacts" (toDisplay s.artifactDigest)
        "an artifact with this digest holds a different manifest")
    return true
  | none => do
    insert .artifacts s.artifactDigest ⟨codeChangesetKind, s.artifactJson⟩
    return false

/-- The ProductionRecord of the Run and slot, for a named producer. -/
def ensureProduction (s : SealedChangeset D) (revisionId : String) :
    Write D ⟨[.productionRecords], []⟩ Unit :=
  match s.producer with
  | none => pure ()
  | some attemptId => do
    let existing ← find .productionRecords (s.authority.runId, s.outputSlot)
    match existing with
    | some recorded =>
      Writer.ensure (recorded = ⟨s.taskId, attemptId, revisionId, s.artifactDigest⟩)
        (.ContentIdentityConflict "production_records"
          s!"{s.authority.runId}/{s.outputSlot}/{toDisplay s.artifactDigest}"
          "the run already produced different content for this output slot")
    | none =>
      insert .productionRecords (s.authority.runId, s.outputSlot)
        ⟨s.taskId, attemptId, revisionId, s.artifactDigest⟩

/-- The Workspace is still frozen at the fence, and the authority still holds. -/
def publicationFence (s : SealedChangeset D) : Write D ⟨[], []⟩ Unit := do
  let workspace ← fetch .workspaces s.workspaceId
    (.RevisionConflict "workspaces" s.workspaceId s.fenceRevision none)
  Writer.ensure (workspace.taskId = s.taskId) (.SealAuthorityInvalid s.workspaceId
    s!"the workspace is owned by {workspace.taskId}, not {s.taskId}")
  Writer.ensure (workspace.phase = .Frozen) (.SealAuthorityInvalid s.workspaceId
    s!"the freeze did not hold: the workspace is {workspace.phase.asStr}")
  Writer.ensure (workspace.revision = s.fenceRevision) (.SealAuthorityInvalid s.workspaceId
    s!"the freeze moved: fenced at revision {s.fenceRevision}, found {workspace.revision}")
  validateSealAuthority s.authority s.taskId s.outputSlot s.workspaceId

def publicationAccess : Access TableName :=
  ⟨[.blobs, .workspaceRevisions, .artifacts, .artifactMembers, .productionRecords], []⟩

/-- `Store::commit_changeset_seal`, the mutation. -/
def commitChangesetSeal (freshId : String) (s : SealedChangeset D) :
    Write D publicationAccess SealOutcome := do
  (publicationFence s).widen (by decide) (by decide)
  (Writer.forEach ensureBlob s.members).widen (by decide) (by decide)
  let revisionId ← (ensureRevision freshId s).widen (by decide) (by decide)
  let reused ← (ensureArtifact s).widen (by decide) (by decide)
  (Writer.forEach (fun m => insertIfAbsent .artifactMembers (s.artifactDigest, m.1) ())
    s.members : Write D ⟨[.artifactMembers], []⟩ Unit).widen (by decide) (by decide)
  (ensureProduction s revisionId).widen (by decide) (by decide)
  return ⟨revisionId, reused⟩

/-- What a publication writes, once its fence has passed. -/
def publicationWrites (freshId : String) (s : SealedChangeset D) :
    Write D publicationAccess SealOutcome := do
  (Writer.forEach ensureBlob s.members).widen (by decide) (by decide)
  let revisionId ← (ensureRevision freshId s).widen (by decide) (by decide)
  let reused ← (ensureArtifact s).widen (by decide) (by decide)
  (Writer.forEach (fun m => insertIfAbsent .artifactMembers (s.artifactDigest, m.1) ())
    s.members : Write D ⟨[.artifactMembers], []⟩ Unit).widen (by decide) (by decide)
  (ensureProduction s revisionId).widen (by decide) (by decide)
  return ⟨revisionId, reused⟩

/-! ## What a publication does -/

variable {s : SealedChangeset D} {d d' : Db D}

theorem ensureArtifact_commits {b : Bool} (h : (ensureArtifact s).Commits d b d') :
    d'.find .artifacts s.artifactDigest = some ⟨codeChangesetKind, s.artifactJson⟩ := by
  have hrow := find_then h
  cases hfind : d.find .artifacts s.artifactDigest with
  | some row =>
    rw [hfind] at hrow
    obtain ⟨⟨hkind, hjson⟩, hend⟩ := Writer.ensure_then hrow
    obtain ⟨-, rfl⟩ := Writer.commits_pure.mp hend
    rw [hfind, ← hkind, ← hjson]
  | none =>
    rw [hfind] at hrow
    obtain ⟨d₁, hins, hend⟩ := insert_then hrow
    obtain ⟨-, rfl⟩ := Writer.commits_pure.mp hend
    rw [(State.insert_ok hins).2.2.2.2.2.1, if_pos rfl]

theorem publicationFence_commits {u : Unit} (h : (publicationFence s).Commits d u d') :
    Responsible s.authority s.taskId d := by
  obtain ⟨_, -, h₁⟩ := fetch_then h
  obtain ⟨-, h₂⟩ := Writer.ensure_then h₁
  obtain ⟨-, h₃⟩ := Writer.ensure_then h₂
  obtain ⟨-, h₄⟩ := Writer.ensure_then h₃
  exact validateSealAuthority_commits h₄

/-- A committed publication had its Run's authority. -/
theorem commitChangesetSeal_commits {freshId : String} {r : SealOutcome}
    (h : (commitChangesetSeal freshId s).Commits d r d') : Responsible s.authority s.taskId d := by
  obtain ⟨_, hfence, -⟩ := Writer.guard_then h
  exact publicationFence_commits hfence

end Pantheon
