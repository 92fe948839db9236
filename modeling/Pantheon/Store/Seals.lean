/-
  Publications of sealed changesets over the life of a store.
  `commitChangesetSeal_stores` says what a publication finds and leaves: a stored Blob or
  Artifact is reused only if it is what the publication claims, and a publication whose rows
  are all there commits again and changes nothing (`stored_commits`).
  A stored WorkspaceRevision is reused by its digest alone, and the repository and base of a
  new one are the claimed ones. `seals_bound`: where publications claim the binding of their
  Workspace and one document for a state digest, the stored revisions are their Workspaces'
  and every reuse is of identical content.
-/
import Pantheon.Store.Forward
import Pantheon.Store.WorkspaceMoves

namespace Pantheon

open Relational

variable {D : Type} [DecidableEq D] [DigestScheme D]

/-! ## What a publication finds and leaves -/

/-- What is stored under the content identities of a publication is what it claims. -/
structure Agrees (s : SealedChangeset D) (d : Db D) : Prop where
  blobs : ∀ m ∈ s.members, ∀ blob, d.find .blobs m.1 = some blob → blob.size = m.2
  artifact : ∀ row, d.find .artifacts s.artifactDigest = some row →
    row.artifactKind = codeChangesetKind ∧ row.canonicalJson = s.artifactJson

/-- The rows a publication answers for are there. -/
structure Stored (s : SealedChangeset D) (revisionId : String) (d : Db D) : Prop where
  blobs : ∀ m ∈ s.members, (m.2 : Int) < 2 ^ 63 ∧ d.find .blobs m.1 = some ⟨m.2⟩
  revision : ∃ row, d.find .workspaceRevisions revisionId = some row ∧
    row.workspaceId = s.workspaceId ∧ row.stateDigest = s.revisionStateDigest
  artifact : d.find .artifacts s.artifactDigest = some ⟨codeChangesetKind, s.artifactJson⟩
  members : ∀ m ∈ s.members, d.find .artifactMembers (s.artifactDigest, m.1) = some ()
  production : ∀ attemptId, s.producer = some attemptId →
    d.find .productionRecords (s.authority.runId, s.outputSlot) =
      some ⟨s.taskId, attemptId, revisionId, s.artifactDigest⟩

/-- The WorkspaceRevision a publication claims. -/
def SealedChangeset.revisionRow (s : SealedChangeset D) : WorkspaceRevision D :=
  ⟨s.workspaceId, s.repository, s.resolvedBase, s.revisionStateDigest, s.revisionStateJson⟩

variable {u : Unit} {d d' : Db D} {freshId : String} {s : SealedChangeset D}

theorem ensureBlob_commits {member : D × Nat} (h : (ensureBlob member).Commits d u d') :
    (member.2 : Int) < 2 ^ 63 ∧ d'.find .blobs member.1 = some ⟨member.2⟩ ∧
      ∀ blob, d.find .blobs member.1 = some blob → blob.size = member.2 := by
  obtain ⟨hsize, h⟩ := Writer.ensure_then h
  have h := find_then h
  cases hfind : d.find .blobs member.1 with
  | some blob =>
    rw [hfind] at h
    obtain ⟨hsame, rfl⟩ := Writer.commits_ensure.mp h
    refine ⟨hsize, ?_, fun found hfound => Option.some.inj hfound ▸ hsame⟩
    rw [hfind, ← hsame]
  | none =>
    rw [hfind] at h
    obtain ⟨-, -, -, -, -, hafter, -⟩ := State.insert_ok (commits_insert.mp h)
    exact ⟨hsize, by rw [hafter, if_pos rfl], fun _ hfound => by cases hfound⟩

omit [DigestScheme D] in
/-- The revision of a state is the stored one, or a new one as claimed. -/
theorem ensureRevision_commits {id : String} (h : (ensureRevision freshId s).Commits d id d') :
    (∃ row, d'.find .workspaceRevisions id = some row ∧ row.workspaceId = s.workspaceId ∧
      row.stateDigest = s.revisionStateDigest) ∧
    ∀ k row, d'.find .workspaceRevisions k = some row →
      d.find .workspaceRevisions k = some row ∨ row = s.revisionRow := by
  have h := Writer.read_then h
  cases hfind : (d.rows .workspaceRevisions).find? fun p =>
      p.2.workspaceId == s.workspaceId && p.2.stateDigest == s.revisionStateDigest with
  | some found =>
    rw [hfind] at h
    obtain ⟨rfl, rfl⟩ := Writer.commits_pure.mp h
    have hnamed := List.find?_some hfind
    simp only [Bool.and_eq_true, beq_iff_eq] at hnamed
    exact ⟨⟨found.2, State.mem_rows.mp (List.mem_of_find?_eq_some hfind), hnamed⟩,
      fun _ _ hrow => .inl hrow⟩
  | none =>
    rw [hfind] at h
    obtain ⟨d₁, hinsert, h⟩ := insert_then h
    obtain ⟨rfl, rfl⟩ := Writer.commits_pure.mp h
    obtain ⟨-, -, -, -, -, hafter, -⟩ := State.insert_ok hinsert
    refine ⟨⟨s.revisionRow, by rw [hafter, if_pos rfl]; rfl, rfl, rfl⟩, fun k row hrow => ?_⟩
    rw [hafter] at hrow
    split at hrow
    · exact .inr (Option.some.inj hrow).symm
    · exact .inl hrow

theorem ensureArtifact_agrees {b : Bool} (h : (ensureArtifact s).Commits d b d') :
    ∀ row, d.find .artifacts s.artifactDigest = some row →
      row.artifactKind = codeChangesetKind ∧ row.canonicalJson = s.artifactJson := by
  intro row hrow
  have h := find_then h
  rw [hrow] at h
  exact (Writer.ensure_then h).1

theorem ensureProduction_stores {revisionId : String}
    (h : (ensureProduction s revisionId).Commits d u d') {attemptId : String}
    (hproducer : s.producer = some attemptId) :
    d'.find .productionRecords (s.authority.runId, s.outputSlot) =
      some ⟨s.taskId, attemptId, revisionId, s.artifactDigest⟩ ∧
    ∀ record, d.find .productionRecords (s.authority.runId, s.outputSlot) = some record →
      record = ⟨s.taskId, attemptId, revisionId, s.artifactDigest⟩ := by
  simp only [ensureProduction, hproducer] at h
  have h := find_then h
  cases hfind : d.find .productionRecords (s.authority.runId, s.outputSlot) with
  | some recorded =>
    rw [hfind] at h
    obtain ⟨hsame, rfl⟩ := Writer.commits_ensure.mp h
    exact ⟨by rw [hfind, hsame], fun _ hrecord => Option.some.inj hrecord ▸ hsame⟩
  | none =>
    rw [hfind] at h
    obtain ⟨-, -, -, -, -, hafter, -⟩ := State.insert_ok (commits_insert.mp h)
    exact ⟨by rw [hafter, if_pos rfl], fun _ hrecord => by cases hrecord⟩

theorem publicationFence_found (h : (publicationFence s).Commits d u d') :
    ∃ w, d.find .workspaces s.workspaceId = some w ∧ w.phase = .Frozen ∧
      w.revision = s.fenceRevision := by
  obtain ⟨w, hw, h⟩ := fetch_then h
  obtain ⟨-, h⟩ := Writer.ensure_then h
  obtain ⟨hphase, h⟩ := Writer.ensure_then h
  obtain ⟨hrevision, -⟩ := Writer.ensure_then h
  exact ⟨w, hw, hphase, hrevision⟩

/-- Everything a publication that committed found and left. -/
structure Publication (s : SealedChangeset D) (r : SealOutcome) (d d' : Db D) : Prop where
  fenced : ∃ w, d.find .workspaces s.workspaceId = some w ∧ w.phase = .Frozen ∧
    w.revision = s.fenceRevision
  agrees : Agrees s d
  produced : ∀ attemptId, s.producer = some attemptId → ∀ record,
    d.find .productionRecords (s.authority.runId, s.outputSlot) = some record →
    record = ⟨s.taskId, attemptId, r.workspaceRevisionId, s.artifactDigest⟩
  revisions : ∀ k row, d'.find .workspaceRevisions k = some row →
    d.find .workspaceRevisions k = some row ∨ row = s.revisionRow
  stored : Stored s r.workspaceRevisionId d'

theorem commitChangesetSeal_stores {r : SealOutcome}
    (h : (commitChangesetSeal freshId s).Commits d r d') : Publication s r d d' := by
  obtain ⟨_, hfence, h⟩ := Writer.guard_then h
  obtain ⟨_, d₁, hblobs, h⟩ := Writer.widen_then h
  obtain ⟨revisionId, d₂, hrevision, h⟩ := Writer.widen_then h
  obtain ⟨_, d₃, hartifact, h⟩ := Writer.widen_then h
  obtain ⟨_, d₄, hmembers, h⟩ := Writer.widen_then h
  obtain ⟨_, d₅, hproduction, h⟩ := Writer.widen_then h
  obtain ⟨rfl, rfl⟩ := Writer.commits_pure.mp h
  obtain ⟨hfound, hnew⟩ := ensureRevision_commits hrevision
  -- each table is written by one of the parts and left alone by the others
  have hb := hblobs.within
  have hr := hrevision.within
  have ha := hartifact.within
  have hm := hmembers.within
  have hp := hproduction.within
  refine ⟨publicationFence_found hfence, ⟨fun m hmem blob hblob => ?_, fun row hrow => ?_⟩,
    fun attemptId hproducer record hrecord => ?_, fun k row hrow => ?_, ⟨fun m hmem => ?_, ?_, ?_,
      fun m hmem => ?_, fun attemptId hproducer => (ensureProduction_stores hproduction hproducer).1⟩⟩ <;>
  simp (disch := decide) only [hp.find_same, hm.find_same, ha.find_same, hr.find_same] at *
  · obtain ⟨_, e, e', hbefore, hcommits, -⟩ := Writer.commits_forEach_each hblobs m hmem
    exact (ensureBlob_commits hcommits).2.2 blob (hbefore.kept _ (by decide) _ _ hblob)
  · refine ensureArtifact_agrees hartifact row ?_
    simp (disch := decide) only [hr.find_same, hb.find_same, hrow]
  · refine (ensureProduction_stores hproduction hproducer).2 record ?_
    simp (disch := decide) only [hm.find_same, ha.find_same, hr.find_same, hb.find_same, hrecord]
  · rcases hnew k row hrow with hold | hclaimed
    · exact .inl (hb.find_same (by decide) (by decide) k ▸ hold)
    · exact .inr hclaimed
  · obtain ⟨_, e, e', -, hcommits, hafter⟩ := Writer.commits_forEach_each hblobs m hmem
    obtain ⟨hsize, hblob, -⟩ := ensureBlob_commits hcommits
    exact ⟨hsize, hafter.kept _ (by decide) _ _ hblob⟩
  · exact hfound
  · exact ensureArtifact_commits hartifact
  · obtain ⟨_, e, e', -, hcommits, hafter⟩ := Writer.commits_forEach_each hmembers m hmem
    refine hafter.kept .artifactMembers (by decide) _ () ?_
    have h := find_then hcommits
    cases hfind : e.find .artifactMembers (s.artifactDigest, m.1) with
    | some _ =>
      rw [hfind] at h
      obtain ⟨-, rfl⟩ := Writer.commits_pure.mp h
      exact hfind
    | none =>
      rw [hfind] at h
      rw [(State.insert_ok (commits_insert.mp h)).2.2.2.2.2.1, if_pos rfl]

omit [DigestScheme D] in
/-- A Workspace has one revision of a state. -/
theorem revision_search {id : String} {row : WorkspaceRevision D}
    (hrow : d.find .workspaceRevisions id = some row) (hworkspace : row.workspaceId = s.workspaceId)
    (hstate : row.stateDigest = s.revisionStateDigest) :
    ((d.rows .workspaceRevisions).find? fun p =>
      p.2.workspaceId == s.workspaceId && p.2.stateDigest == s.revisionStateDigest) =
        some (id, row) := by
  refine (State.search_iff (d := d) (i := .workspaceRevisions) fun q q' hq hq' => ?_).mpr
    ⟨hrow, by simp [hworkspace, hstate]⟩
  simp only [Bool.and_eq_true, beq_iff_eq] at hq hq'
  exact decide_eq_true ⟨hq.1.trans hq'.1.symm, hq.2.trans hq'.2.symm⟩

/-- A publication whose rows are all there commits, reuses them and changes nothing. -/
theorem stored_commits {revisionId : String} (hfence : (publicationFence s).Commits d () d)
    (h : Stored s revisionId d) :
    (commitChangesetSeal freshId s).Commits d ⟨revisionId, true⟩ d := by
  obtain ⟨row, hrow, hworkspace, hstate⟩ := h.revision
  have hblobs : (Writer.forEach ensureBlob s.members).Commits d () d := by
    refine Writer.forEach_of fun m hm => ?_
    obtain ⟨hsize, hblob⟩ := h.blobs m hm
    refine Writer.then_of (Writer.ensure_of hsize) ?_
    refine Writer.then_of (Writer.read_of hblob) ?_
    exact Writer.ensure_of rfl
  have hrevision : (ensureRevision freshId s).Commits d revisionId d :=
    Writer.then_of (Writer.read_of (revision_search hrow hworkspace hstate)) rfl
  have hartifact : (ensureArtifact s).Commits d true d := by
    refine Writer.then_of (Writer.read_of h.artifact) ?_
    exact Writer.then_of (Writer.ensure_of ⟨rfl, rfl⟩) rfl
  have hmembers : (Writer.forEach (fun m => insertIfAbsent .artifactMembers
      (s.artifactDigest, m.1) ()) s.members : Write D ⟨[.artifactMembers], []⟩ Unit).Commits
        d () d :=
    Writer.forEach_of fun m hm => Writer.then_of (Writer.read_of (h.members m hm)) rfl
  have hproduction : (ensureProduction s revisionId).Commits d () d := by
    unfold ensureProduction
    cases hproducer : s.producer with
    | none => rfl
    | some attemptId =>
      refine Writer.then_of (Writer.read_of (h.production attemptId hproducer)) ?_
      exact Writer.ensure_of rfl
  refine Writer.then_of hfence (Writer.then_of hblobs ?_)
  refine Writer.then_of hrevision ?_
  refine Writer.then_of hartifact (Writer.then_of hmembers ?_)
  exact Writer.then_of hproduction rfl

/-! ## Stored revisions -/

/-- A revision that is stored after a call was there, or the call published it. -/
theorem apply_revision {op : StoreOp D} {ambient : Ambient} {k : String} {row : WorkspaceRevision D}
    (h : (op.apply ambient d).find .workspaceRevisions k = some row) :
    d.find .workspaceRevisions k = some row ∨ ∃ identity s,
      op = .command identity (.commitChangesetSeal s) ∧ row = s.revisionRow ∧
        ∃ w, d.find .workspaces s.workspaceId = some w := by
  rcases apply_row_before (by decide) h with hold | ⟨r, d₁, hc, htouches, hrow⟩
  · exact .inl hold
  cases op with
  | write plain => cases plain <;> cases htouches
  | command identity mutation =>
    cases mutation with
    | commitChangesetSeal s =>
      have hpublished := commitChangesetSeal_stores hc
      rcases hpublished.revisions k row hrow with hold | hclaimed
      · exact .inl hold
      · obtain ⟨w, hw, -⟩ := hpublished.fenced
        exact .inr ⟨identity, s, rfl, hclaimed, w, hw⟩
    | _ => cases htouches

/-- A publication claims the binding of its Workspace, and of a state the document that goes
    with its digest. -/
structure Faithful (document : D → String) (s : SealedChangeset D) (d : Db D) : Prop where
  binding : ∀ w, d.find .workspaces s.workspaceId = some w →
    s.repository = w.repository ∧ s.resolvedBase = w.resolvedBase
  state : s.revisionStateJson = document s.revisionStateDigest

/-- Publications are faithful; every other call is as it may be. -/
def FaithfulSeals (document : D → String) (d : Db D) : StoreOp D → Prop
  | .command _ (.commitChangesetSeal s) => Faithful document s d
  | _ => True

/-- A revision of its Workspace's binding, with the document of its digest. -/
def RevisionsBound (document : D → String) (d : Db D) : Prop :=
  ∀ k row, d.find .workspaceRevisions k = some row → row.canonicalJson = document row.stateDigest ∧
    ∃ w, d.find .workspaces row.workspaceId = some w ∧ row.repository = w.repository ∧
      row.resolvedBase = w.resolvedBase

theorem apply_bound {document : D → String} {op : StoreOp D} (ambient : Ambient)
    (h : RevisionsBound document d) (hop : FaithfulSeals document d op) :
    RevisionsBound document (op.apply ambient d) := by
  intro k row hrow
  -- the Workspace is found again, with the same binding
  have hlater : ∀ {id : String} {w : Workspace}, d.find .workspaces id = some w →
      ∃ w', (op.apply ambient d).find .workspaces id = some w' ∧ SameWorkspace w w' := by
    intro id w hw
    obtain ⟨w', hw', hmove⟩ := apply_workspace op ambient hw
    exact ⟨w', hw', hmove.same⟩
  rcases apply_revision hrow with hold | ⟨identity, s, rfl, rfl, w, hw⟩
  · obtain ⟨hdocument, w, hw, hrepository, hbase⟩ := h k row hold
    obtain ⟨w', hw', hsame⟩ := hlater hw
    exact ⟨hdocument, w', hw', hrepository.trans hsame.repository.symm,
      hbase.trans hsame.resolved.symm⟩
  · obtain ⟨hrepository, hbase⟩ := hop.binding w hw
    obtain ⟨w', hw', hsame⟩ := hlater hw
    exact ⟨hop.state, w', hw', hrepository.trans hsame.repository.symm,
      hbase.trans hsame.resolved.symm⟩

theorem steps_bound {document : D → String} {d₀ : Db D} (h₀ : Installed d₀)
    (hrun : Run.Steps (FaithfulSeals document) d₀ d) : RevisionsBound document d := by
  refine hrun.invariant (fun k row hrow => ?_) fun e op ambient he hop => apply_bound ambient he hop
  rw [h₀.find_none (i := .workspaceRevisions) (by decide)] at hrow
  cases hrow

/-- Whatever a publication would reuse is identical to what it claims. -/
structure Identical (s : SealedChangeset D) (d : Db D) : Prop extends Agrees s d where
  revision : ∀ k row, d.find .workspaceRevisions k = some row → row.workspaceId = s.workspaceId →
    row.stateDigest = s.revisionStateDigest → row = s.revisionRow

/-- A publication that was not executed before and whose mutation cannot commit is refused. -/
theorem unspent_refused {identity : Command D} {mutation : Mutation D} {ambient : Ambient}
    (hm : ∀ r d', ¬(mutation.body.body ambient).Commits d r d')
    (hunspent : d.find .commands (identity.epoch, identity.id) = none) :
    ∃ e, StoreOp.answer ambient d (.command identity mutation) = (.error e, d) := by
  rcases Writer.transact_cases discardedFailure
    (execute ambient identity (mutation.body.body ambient)) d with hrefused | ⟨r, d', -, hc⟩
  · exact hrefused
  · rcases commits_execute hc with ⟨row, hrow, -⟩ | ⟨-, value, _, d₁, -, hvalue, -⟩
    · cases hunspent.symm.trans hrow
    · exact absurd hvalue (hm value d₁)

/-- In every run whose publications claim the binding of their Workspace and one document for a
    state digest: every stored revision has the repository and base of its Workspace; a
    publication that executes found only identical content under its identities, and one that
    finds other content is refused under an unused identity and writes nothing under any. -/
theorem seals_bound (document : D → String) {d₀ d : Db D} (h₀ : Installed d₀)
    (hrun : Run.Steps (FaithfulSeals document) d₀ d) :
    (∀ k row, d.find .workspaceRevisions k = some row →
      ∃ w, d.find .workspaces row.workspaceId = some w ∧ row.repository = w.repository ∧
        row.resolvedBase = w.resolvedBase) ∧
    ∀ identity s ambient, Faithful document s d →
      ((StoreOp.command identity (.commitChangesetSeal s)).Fresh ambient d → Identical s d) ∧
      (¬Identical s d →
        (StoreOp.command identity (.commitChangesetSeal s)).apply ambient d = d ∧
        (d.find .commands (identity.epoch, identity.id) = none →
          ∃ e, StoreOp.answer ambient d (.command identity (.commitChangesetSeal s)) =
            (.error e, d))) := by
  have hbound := steps_bound h₀ hrun
  refine ⟨fun k row hrow => (hbound k row hrow).2, fun identity s ambient hfaithful => ?_⟩
  have hidentical : ∀ r d', (commitChangesetSeal ambient.rowId s).Commits d r d' → Identical s d := by
    intro r d' hc
    have hpublished := commitChangesetSeal_stores hc
    refine ⟨hpublished.agrees, fun k row hrow hworkspace hstate => ?_⟩
    obtain ⟨hdocument, w, hw, hrepository, hbase⟩ := hbound k row hrow
    rw [hworkspace] at hw
    obtain ⟨hrepository', hbase'⟩ := hfaithful.binding w hw
    obtain ⟨workspaceId, repository, resolvedBase, stateDigest, canonicalJson⟩ := row
    simp only at hdocument hworkspace hstate hrepository hbase
    rw [SealedChangeset.revisionRow, hworkspace, hrepository, hbase, hstate, hdocument, hstate,
      hrepository', hbase', hfaithful.state]
  refine ⟨fun hfresh => ?_, fun hother => ⟨?_, unspent_refused fun r d' hc => ?_⟩⟩
  · obtain ⟨r, -, d', hc, -⟩ := fresh_ran hfresh
    exact hidentical r d' hc
  · rcases apply_cases (.command identity (.commitChangesetSeal s)) ambient d with
      hsame | ⟨r, d', hc, -⟩
    · exact hsame
    · exact absurd (hidentical r d' hc) hother
  · exact hother (hidentical r d' hc)

namespace Sample

/-- The authority over the sample's Task, its specification apart. -/
def authorized (authority : SealAuthority) (d : Store) : Bool :=
  (d.find .tasks "task").any fun task => task.phase == .Active &&
    task.activeRunId == some authority.runId && task.specDigest == taskSpec.digest &&
    answersWith (sealRunAuthority authority "task" "workspace" task) () d

theorem validates {authority : SealAuthority} {d : Store}
    (hspec : d.find .taskSpecs taskSpec.digest = some (storedSpec taskSpec))
    (h : authorized authority d = true) :
    (validateSealAuthority authority "task" "changeset" "workspace").Commits d () d := by
  obtain ⟨task, htask, hfacts⟩ := (Option.any_eq_true _ _).mp h
  simp only [Bool.and_eq_true, beq_iff_eq] at hfacts
  obtain ⟨⟨⟨hactive, hrun⟩, hdigest⟩, hauthority⟩ := hfacts
  have hauthority := commits_of_answersWith hauthority
  rw [hauthority.unchanged] at hauthority
  have hread : TaskSpec.fromCanonicalJson (storedSpec taskSpec).canonicalJson = .ok taskSpec :=
    TaskSpec.fromCanonicalJson_toCanonicalText (TaskSpec.toValue_wf (by decide) (by decide))
  have hslot : (sealSlot "changeset" "workspace" task).Commits d () d := by
    rw [← hdigest] at hspec
    refine Writer.then_of (fetch_of hspec) ?_
    refine Writer.then_of (requireOk_of (by rw [hread]; rfl)) ?_
    exact Writer.then_of (Writer.commits_require.mpr ⟨rfl, rfl⟩) (Writer.ensure_of rfl)
  refine Writer.then_of (fetch_of htask) ?_
  refine Writer.then_of (Writer.ensure_of hactive) ?_
  refine Writer.then_of (Writer.ensure_of hrun) ?_
  exact Writer.then_of hauthority hslot

def fencedAt (revision : Int) (d : Store) : Bool :=
  (d.find .workspaces "workspace").any fun w => w.taskId == "task" && w.phase == .Frozen &&
    w.revision == revision

theorem fence_commits {s : SealedChangeset PrefixDigest} {d : Store}
    (hspec : d.find .taskSpecs taskSpec.digest = some (storedSpec taskSpec))
    (hnames : s.workspaceId = "workspace" ∧ s.taskId = "task" ∧ s.outputSlot = "changeset")
    (hfenced : fencedAt s.fenceRevision d = true) (hauthority : authorized s.authority d = true) :
    (publicationFence s).Commits d () d := by
  obtain ⟨w, hw, hfacts⟩ := (Option.any_eq_true _ _).mp hfenced
  simp only [Bool.and_eq_true, beq_iff_eq] at hfacts
  obtain ⟨⟨htask, hphase⟩, hrevision⟩ := hfacts
  unfold publicationFence
  rw [hnames.1, hnames.2.1, hnames.2.2]
  refine Writer.then_of (fetch_of hw) ?_
  refine Writer.then_of (Writer.ensure_of htask) ?_
  refine Writer.then_of (Writer.ensure_of hphase) ?_
  refine Writer.then_of (Writer.ensure_of hrevision) ?_
  exact validates hspec hauthority

/-- The freeze of the sample's Workspace. -/
def freeze (authority : SealAuthority) : Ambient × StoreOp PrefixDigest :=
  call 'p' (.freezeWorkspace authority "task" "changeset" "workspace" 3)

/-- The freeze without the reading of the specification. -/
def frozenBy (d : Store) : Except StoreError (Committed WorkspaceRecord) × Store :=
  runs 'p' (transition "workspace" 3 .Frozen .Present) d

def freezes (authority : SealAuthority) (d : Store) : Bool :=
  (d.find .workspaces "workspace").any (fun w => w.taskId == "task" && w.phase == .Ready &&
    w.materialization == .Present) && authorized authority d && executed (frozenBy d).1

theorem runAll_freeze {authority : SealAuthority} {d : Store}
    (hspec : d.find .taskSpecs taskSpec.digest = some (storedSpec taskSpec))
    (h : freezes authority d = true) : runAll d [freeze authority] = some (frozenBy d).2 := by
  simp only [freezes, Bool.and_eq_true, Option.any_eq_true, beq_iff_eq] at h
  obtain ⟨⟨⟨w, hw, ⟨htask, hphase⟩, hpresent⟩, hauthority⟩, hexecuted⟩ := h
  refine runAll_runs hexecuted fun record d₁ hm => ?_
  refine Writer.then_of (fetch_of hw) ?_
  refine Writer.then_of (Writer.ensure_of htask) ?_
  refine Writer.then_of (Writer.ensure_of ⟨hphase, hpresent⟩) ?_
  exact Writer.then_of (validates hspec hauthority) hm

/-- A publication of the sample's changeset, without payloads. -/
def changeset (authority : SealAuthority) (repository document : String)
    (producer : Option String) : SealedChangeset PrefixDigest :=
  ⟨"workspace", "task", 4, authority, "changeset", repository, base.text, ⟨[5]⟩, document, ⟨[6]⟩,
    "m", [], producer⟩

def publish (c : Char) (s : SealedChangeset PrefixDigest) : Ambient × StoreOp PrefixDigest :=
  call c (.commitChangesetSeal s)

def publishedBy (c : Char) (s : SealedChangeset PrefixDigest) (d : Store) :
    Except StoreError (Committed SealOutcome) × Store :=
  runs c (publicationWrites (ambient c).rowId s) d

def publishes (c : Char) (s : SealedChangeset PrefixDigest) (d : Store) : Bool :=
  fencedAt s.fenceRevision d && authorized s.authority d && executed (publishedBy c s d).1

theorem runAll_publish {c : Char} {s : SealedChangeset PrefixDigest} {d : Store}
    (hspec : d.find .taskSpecs taskSpec.digest = some (storedSpec taskSpec))
    (hnames : s.workspaceId = "workspace" ∧ s.taskId = "task" ∧ s.outputSlot = "changeset")
    (h : publishes c s d = true) : runAll d [publish c s] = some (publishedBy c s d).2 := by
  simp only [publishes, Bool.and_eq_true] at h
  obtain ⟨⟨hfenced, hauthority⟩, hexecuted⟩ := h
  exact runAll_runs hexecuted fun outcome d₁ hm =>
    Writer.then_of (fence_commits hspec hnames hfenced hauthority) hm

def sealer : SealAuthority := ⟨"run", 1⟩

/-- The stored revisions of the Workspace have this repository and document. -/
def RevisionIs (repository document : String) (d : Store) : Prop :=
  ∃ p ∈ d.rows .workspaceRevisions, p.2.workspaceId = "workspace" ∧ p.2.stateDigest = ⟨[5]⟩ ∧
    p.2.repository = repository ∧ p.2.canonicalJson = document

instance (repository document : String) : DecidablePred (RevisionIs repository document) :=
  fun _ => List.decidableBEx _ _

def BoundTo (repository : String) (d : Store) : Prop :=
  ∃ w ∈ d.find .workspaces "workspace", w.repository = repository ∧ w.resolvedBase = base.text

instance (repository : String) : DecidablePred (BoundTo repository) :=
  fun d => Option.decidableExistsMem (d.find .workspaces "workspace")

/-- A frozen Workspace, a publication that claims its binding, one that claims another
    repository, and a second one of the first state with another document. -/
theorem sealed_runs : ∃ d ∈ runAll installed attached, ∃ e ∈ runAll d [freeze sealer],
    BoundTo "r" e ∧ (∃ e₁ ∈ runAll e [publish 'q' (changeset sealer "r" "s" none)],
      RevisionIs "r" "s" e₁ ∧ ∃ e₃, runAll e₁ [publish 'r' (changeset sealer "r" "t" none)] = some e₃) ∧
    ∃ e₂ ∈ runAll e [publish 'q' (changeset sealer "other" "s" none)],
      BoundTo "r" e₂ ∧ RevisionIs "other" "s" e₂ := by
  have hrun : ∃ d ∈ runAll installed attached, freezes sealer d = true ∧ BoundTo "r" (frozenBy d).2 ∧
      publishes 'q' (changeset sealer "r" "s" none) (frozenBy d).2 = true ∧
      RevisionIs "r" "s" (publishedBy 'q' (changeset sealer "r" "s" none) (frozenBy d).2).2 ∧
      publishes 'r' (changeset sealer "r" "t" none)
        (publishedBy 'q' (changeset sealer "r" "s" none) (frozenBy d).2).2 = true ∧
      publishes 'q' (changeset sealer "other" "s" none) (frozenBy d).2 = true ∧
      BoundTo "r" (publishedBy 'q' (changeset sealer "other" "s" none) (frozenBy d).2).2 ∧
      RevisionIs "other" "s"
        (publishedBy 'q' (changeset sealer "other" "s" none) (frozenBy d).2).2 := by
    decide +kernel
  obtain ⟨d, hd, hfreezes, hbound, hhonest, hrevision, hagain, hforeign, hother⟩ := hrun
  have hspec := spec_stored hd
  have hfrozen := runAll_freeze hspec hfreezes
  have hspec' := steps_frozen (runAll_steps .refl hfrozen) (by decide) hspec
  have hpublished := runAll_publish hspec' ⟨rfl, rfl, rfl⟩ hhonest
  have hspec'' := steps_frozen (runAll_steps .refl hpublished) (by decide) hspec'
  exact ⟨d, hd, _, hfrozen, hbound, ⟨_, hpublished, hrevision, _,
    runAll_publish hspec'' ⟨rfl, rfl, rfl⟩ hagain⟩, _, runAll_publish hspec' ⟨rfl, rfl, rfl⟩ hforeign,
    hother⟩

end Sample

/-- A publication that claims the Workspace's own repository. -/
theorem seals_bound_published : ∃ (d : Sample.Store) (k : String)
    (row : WorkspaceRevision PrefixDigest) (w : Workspace),
    d.find .workspaceRevisions k = some row ∧ d.find .workspaces row.workspaceId = some w ∧
      row.repository = w.repository ∧ row.resolvedBase = w.resolvedBase := by
  obtain ⟨d, hd, e, he, ⟨w, hw, hrepository, hbase⟩, ⟨e₁, he₁, ⟨p, hp, -⟩, -⟩, -⟩ := Sample.sealed_runs
  have hbefore : Run.Steps (FaithfulSeals fun _ => "s") Sample.installed e := by
    refine runAll_admitted (runAll_admitted .refl ?_ hd) ?_ he
    · simp [Sample.attached, Sample.dispatched, Sample.planned, Sample.materialize, Sample.call,
        FaithfulSeals]
    · simp [Sample.freeze, Sample.call, FaithfulSeals]
  have hfaithful : FaithfulSeals (fun _ => "s") e
      (Sample.publish 'q' (Sample.changeset Sample.sealer "r" "s" none)).2 := by
    refine ⟨fun found hfound => ?_, rfl⟩
    obtain rfl := Option.some.inj (hfound.symm.trans hw)
    exact ⟨hrepository.symm, hbase.symm⟩
  obtain rfl := runAll_one he₁
  obtain ⟨w', hw', hsame⟩ := (seals_bound (fun _ => "s") Sample.installed_installed
    (.step hbefore _ (Sample.ambient 'q') hfaithful)).1 p.1 p.2 (State.mem_rows.mp hp)
  exact ⟨_, p.1, p.2, w', State.mem_rows.mp hp, hw', hsame⟩

/-- A publication stores a revision of another repository than its Workspace's, and another one
    reuses a stored revision whose document is not the one it claims. -/
theorem seal_claims_unchecked :
    (∃ (d : Sample.Store) (k : String) (row : WorkspaceRevision PrefixDigest) (w : Workspace),
      Reachable d ∧ d.find .workspaceRevisions k = some row ∧
      d.find .workspaces row.workspaceId = some w ∧ row.repository ≠ w.repository) ∧
    ∃ (d : Sample.Store) (identity : Command PrefixDigest) (s : SealedChangeset PrefixDigest)
      (ambient : Ambient) (k : String) (row : WorkspaceRevision PrefixDigest),
      Reachable d ∧ (StoreOp.command identity (.commitChangesetSeal s)).Fresh ambient d ∧
      d.find .workspaceRevisions k = some row ∧ row.workspaceId = s.workspaceId ∧
      row.stateDigest = s.revisionStateDigest ∧ row.canonicalJson ≠ s.revisionStateJson := by
  obtain ⟨d, hd, e, he, -, ⟨e₁, he₁, ⟨p, hp, hworkspace, hstate, -, hdocument⟩, e₃, he₃⟩,
    e₂, he₂, ⟨w, hw, hbound, -⟩, q, hq, hworkspace', -, hrepository, -⟩ := Sample.sealed_runs
  have hreachable : Reachable e := (Sample.reachable_of_runAll hd).steps (runAll_steps .refl he)
  refine ⟨⟨e₂, q.1, q.2, w, hreachable.steps (runAll_steps .refl he₂), State.mem_rows.mp hq,
      hworkspace' ▸ hw, ?_⟩,
    e₁, _, _, _, p.1, p.2, hreachable.steps (runAll_steps .refl he₁), (runAll_cons he₃).1,
    State.mem_rows.mp hp, hworkspace, hstate, ?_⟩
  · rw [hrepository, hbound]
    decide
  · rw [hdocument]
    decide

end Pantheon
