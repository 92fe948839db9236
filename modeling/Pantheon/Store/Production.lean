/-
  Production records: what a Run has produced for an output slot.
  The record names the producing Attempt beside the Artifact, and a later publication for the
  slot is compared with the whole record. `seals_converge`: under the recorded Attempt the same
  content is sealed again, and no publication that names a producer replaces it by other
  content. Under another Attempt of the same Run even the same content is refused, and a
  publication without a producer does not consult the record (`reseal_refused`).
-/
import Pantheon.Store.Attempts
import Pantheon.Store.Seals

namespace Pantheon

open Relational

variable {D : Type} [DecidableEq D] [DigestScheme D]

/-- Publications of one content for one slot of a Run, under whatever authority. -/
structure SameContent (s s' : SealedChangeset D) : Prop where
  workspace : s'.workspaceId = s.workspaceId
  task : s'.taskId = s.taskId
  run : s'.authority.runId = s.authority.runId
  slot : s'.outputSlot = s.outputSlot
  state : s'.revisionStateDigest = s.revisionStateDigest
  artifact : s'.artifactDigest = s.artifactDigest
  manifest : s'.artifactJson = s.artifactJson
  members : s'.members = s.members
  producer : s'.producer = s.producer

variable {s : SealedChangeset D} {d : Db D}

omit [DigestScheme D] in
/-- What a publication stored stays stored as long as frozen rows are kept. -/
theorem Stored.kept {id : String} {d' : Db D} (h : Stored s id d)
    (hkept : ∀ i ∈ frozenTables, ∀ k r, d.find i k = some r → d'.find i k = some r) :
    Stored s id d' := by
  obtain ⟨row, hrow, hnamed⟩ := h.revision
  exact ⟨fun m hm => ⟨(h.blobs m hm).1, hkept .blobs (by decide) _ _ (h.blobs m hm).2⟩,
    ⟨row, hkept .workspaceRevisions (by decide) _ _ hrow, hnamed⟩,
    hkept .artifacts (by decide) _ _ h.artifact,
    fun m hm => hkept .artifactMembers (by decide) _ _ (h.members m hm),
    fun attemptId hproducer =>
      hkept .productionRecords (by decide) _ _ (h.production attemptId hproducer)⟩

omit [DigestScheme D] in
theorem Stored.same {s' : SealedChangeset D} {id : String} (h : Stored s id d)
    (hsame : SameContent s s') : Stored s' id d := by
  refine ⟨?_, ?_, ?_, ?_, ?_⟩
  · rw [hsame.members]
    exact h.blobs
  · rw [hsame.workspace, hsame.state]
    exact h.revision
  · rw [hsame.artifact, hsame.manifest]
    exact h.artifact
  · rw [hsame.members, hsame.artifact]
    exact h.members
  · rw [hsame.producer, hsame.run, hsame.slot, hsame.task, hsame.artifact]
    exact h.production

/-- A publication that executed afresh left its rows. -/
theorem fresh_stored {identity : Command D} {ambient : Ambient}
    (h : (StoreOp.command identity (.commitChangesetSeal s)).Fresh ambient d) :
    ∃ id, Stored s id ((StoreOp.command identity (.commitChangesetSeal s)).apply ambient d) := by
  obtain ⟨r, -, d₁, hc, hframe⟩ := fresh_ran h
  refine ⟨r.workspaceRevisionId, (commitChangesetSeal_stores hc).stored.kept fun i hi k row hrow => ?_⟩
  have hledger : ∀ j ∈ frozenTables, j ∉ ledgerTables := by decide
  rw [State.find_congr (hframe i (hledger i hi))]
  exact hrow

/-- Where a Run has produced content for a slot under a named Attempt, then in every later
    state: the same content is sealed again under that Attempt, with currently valid authority
    and an unused identity, and reuses Artifact and record; and no publication for the slot that
    names a producer executes with other content, or writes anything under an unused identity. -/
theorem seals_converge {d d' : Db D} {identity : Command D} {s : SealedChangeset D}
    {ambient : Ambient} {attemptId : String} (hd : Reachable d)
    (hfirst : (StoreOp.command identity (.commitChangesetSeal s)).Fresh ambient d)
    (hproducer : s.producer = some attemptId)
    (hrun : Run.Steps anyStep
      ((StoreOp.command identity (.commitChangesetSeal s)).apply ambient d) d') :
    (∀ s' identity' ambient', SameContent s s' → (publicationFence s').Commits d' () d' →
      Usable ambient' identity' d' → ∃ r cursor d'',
        StoreOp.answer ambient' d' (.command identity' (.commitChangesetSeal s')) =
          (.ok (.Executed r cursor), d'') ∧ r.artifactReused = true ∧
        ∃ record, d''.find .productionRecords (s.authority.runId, s.outputSlot) = some record ∧
          record.artifactDigest = s.artifactDigest) ∧
    ∀ s' identity' ambient', s'.authority.runId = s.authority.runId → s'.outputSlot = s.outputSlot →
      s'.producer ≠ none → d'.find .commands (identity'.epoch, identity'.id) = none →
      ¬(s'.artifactDigest = s.artifactDigest ∧ s'.artifactJson = s.artifactJson ∧
        s'.workspaceId = s.workspaceId ∧ s'.revisionStateDigest = s.revisionStateDigest) →
      ∃ e, StoreOp.answer ambient' d' (.command identity' (.commitChangesetSeal s')) =
        (.error e, d') := by
  obtain ⟨id, hafter⟩ := fresh_stored hfirst
  have hstored : Stored s id d' := hafter.kept fun _ hi _ _ => steps_frozen hrun hi
  have hrecord := hstored.production attemptId hproducer
  constructor
  · intro s' identity' ambient' hsame hfence husable
    have hreachable : Reachable d' := (hd.apply _ ambient).steps hrun
    have hm : (commitChangesetSeal ambient'.rowId s').Commits d' ⟨id, true⟩ d' :=
      stored_commits hfence (hstored.same hsame)
    obtain ⟨cursor, d'', hc⟩ := execute_of (journal_sound hreachable).1 husable hm rfl (by decide)
    have hanswer : StoreOp.answer ambient' d' (.command identity' (.commitChangesetSeal s')) =
        (.ok (.Executed ⟨id, true⟩ cursor), d'') := Writer.transact_ok.mpr hc
    have hlast : (StoreOp.command identity' (.commitChangesetSeal s')).apply ambient' d' = d'' :=
      congrArg Prod.snd hanswer
    exact ⟨_, cursor, d'', hanswer, rfl, _, hlast ▸ apply_frozen _ ambient' (by decide) hrecord, rfl⟩
  · intro s' identity' ambient' hrun' hslot hnamed hunspent hother
    refine unspent_refused (fun r d'' hc => hother ?_) hunspent
    obtain ⟨attempt, hattempt⟩ := Option.ne_none_iff_exists'.mp hnamed
    have hpublished := commitChangesetSeal_stores hc
    -- the record found is the one claimed, and its revision is of the state sealed first
    rw [← hrun', ← hslot] at hrecord
    have hclaimed := hpublished.produced attempt hattempt _ hrecord
    injection hclaimed with _ _ hrevision hdigest
    obtain ⟨row, hrow, hworkspace, hstate⟩ := hstored.revision
    obtain ⟨row', hrow', hworkspace', hstate'⟩ := hpublished.stored.revision
    have hkept : ∀ i k r, d'.find i k = some r → d''.find i k = some r :=
      fun i k r => hc.within.kept i List.not_mem_nil k r
    have hmanifest := hpublished.stored.artifact
    rw [← hdigest, hkept _ _ _ hstored.artifact] at hmanifest
    rw [← hrevision, hkept _ _ _ hrow] at hrow'
    obtain rfl := Option.some.inj hrow'
    injection Option.some.inj hmanifest with _ hjson
    exact ⟨hdigest.symm, hjson.symm, hworkspace'.symm.trans hworkspace, hstate'.symm.trans hstate⟩

namespace Sample

/-- A second Attempt of the Run. -/
def successor : AttemptCreation PrefixDigest :=
  ⟨"run", "second", "1123456789abcdef0123456789abcdef0123456789abcdef0123456789abcdef", "next",
    ⟨[2]⟩, 2⟩

/-- The first seal, made by the first Attempt. -/
def firstSeal : SealedChangeset PrefixDigest := changeset ⟨"run", 2⟩ "r" "s" (some "attempt")

/-- The same content, once the second Attempt has followed the first. -/
def nextSeal (producer : Option String) : SealedChangeset PrefixDigest :=
  changeset ⟨"run", 3⟩ "r" "s" producer

/-- Other content for the slot, without a producer. -/
def otherSeal : SealedChangeset PrefixDigest :=
  { nextSeal none with artifactDigest := ⟨[7]⟩, artifactJson := "n" }

/-- The two Attempts, one after the other. -/
def succession : List (Ambient × StoreOp PrefixDigest) :=
  [observe 'z' 2 (.Terminal .Exited), call 's' (.createAttempt successor)]

theorem resealed_runs : ∃ d ∈ runAll installed contacted, ∃ e ∈ runAll d [freeze ⟨"run", 2⟩],
    ∃ e₁ ∈ runAll e [publish 'q' firstSeal], ∃ e₂ ∈ runAll e₁ succession,
      (∃ a ∈ e₂.find .attempts "second", a.runId = "run") ∧
      (∀ producer, (publicationFence (nextSeal producer)).Commits e₂ () e₂) ∧
      spendable e₂ 'r' = true ∧ ∃ e₃, runAll e₂ [publish 'r' otherSeal] = some e₃ := by
  have hrun : ∃ d ∈ runAll installed contacted, freezes ⟨"run", 2⟩ d = true ∧
      publishes 'q' firstSeal (frozenBy d).2 = true ∧
      ∃ e ∈ runAll (publishedBy 'q' firstSeal (frozenBy d).2).2 succession,
        (∃ a ∈ e.find .attempts "second", a.runId = "run") ∧ fencedAt 4 e = true ∧
        authorized ⟨"run", 3⟩ e = true ∧ spendable e 'r' = true ∧ publishes 'r' otherSeal e = true := by
    decide +kernel
  obtain ⟨d, hd, hfreezes, hpublishes, e₂, he₂, hattempt, hfenced, hauthority, hspendable, hother⟩ := hrun
  have hspec := spec_stored hd
  have hfrozen := runAll_freeze hspec hfreezes
  have hspec₁ := steps_frozen (runAll_steps .refl hfrozen) (by decide) hspec
  have hpublished := runAll_publish hspec₁ ⟨rfl, rfl, rfl⟩ hpublishes
  have hspec₂ := steps_frozen (runAll_steps (runAll_steps .refl hpublished) he₂) (by decide) hspec₁
  exact ⟨d, hd, _, hfrozen, _, hpublished, e₂, he₂, hattempt,
    fun producer => fence_commits hspec₂ ⟨rfl, rfl, rfl⟩ hfenced hauthority, hspendable, _,
    runAll_publish hspec₂ ⟨rfl, rfl, rfl⟩ hother⟩

end Sample

/-- The first Attempt's content is sealed again after the second Attempt has followed. -/
theorem seals_converge_again : ∃ (d : Sample.Store) (r : SealOutcome) (cursor : JournalCursor)
    (d' : Sample.Store),
    StoreOp.answer (Sample.ambient 'r') d
        (.command (Sample.identity 'r').2 (.commitChangesetSeal (Sample.nextSeal (some "attempt")))) =
      (.ok (.Executed r cursor), d') ∧ r.artifactReused = true := by
  obtain ⟨d, hd, e, he, e₁, he₁, e₂, he₂, -, hfence, hspendable, -⟩ := Sample.resealed_runs
  have hreachable : Reachable e := (Sample.reachable_of_runAll hd).steps (runAll_steps .refl he)
  have hfresh := (runAll_cons he₁).1
  obtain rfl := runAll_one he₁
  have husable := Sample.usable_of_spendable hspendable (by decide) (by decide)
  obtain ⟨r, cursor, d', hanswer, hreused, -⟩ := (seals_converge hreachable hfresh rfl
    (runAll_steps .refl he₂)).1 (Sample.nextSeal (some "attempt")) _ _
      ⟨rfl, rfl, rfl, rfl, rfl, rfl, rfl, rfl, rfl⟩ (hfence _) husable
  exact ⟨e₂, r, cursor, d', hanswer, hreused⟩

/-- The second Attempt of a Run is refused the content the first one has sealed, under valid
    authority and an unused identity; and other content for the slot is published where no
    producer is named. -/
theorem reseal_refused : ∃ (d d' : Sample.Store) (s : SealedChangeset PrefixDigest)
    (identity : Command PrefixDigest) (ambient : Ambient),
    Reachable d ∧ (StoreOp.command identity (.commitChangesetSeal s)).Fresh ambient d ∧
    s.producer = some "attempt" ∧
    Run.Steps anyStep ((StoreOp.command identity (.commitChangesetSeal s)).apply ambient d) d' ∧
    (∃ s' identity' ambient', SameContent s { s' with producer := s.producer } ∧
      s'.producer = some "second" ∧
      (∃ a, d'.find .attempts "second" = some a ∧ a.runId = s.authority.runId) ∧
      (publicationFence s').Commits d' () d' ∧ Usable ambient' identity' d' ∧
      ∃ e, StoreOp.answer ambient' d' (.command identity' (.commitChangesetSeal s')) =
        (.error e, d')) ∧
    ∃ s' identity' ambient', s'.authority.runId = s.authority.runId ∧
      s'.outputSlot = s.outputSlot ∧ s'.artifactDigest ≠ s.artifactDigest ∧
      (StoreOp.command identity' (.commitChangesetSeal s')).Fresh ambient' d' := by
  obtain ⟨d, hd, e, he, e₁, he₁, e₂, he₂, hattempt, hfence, hspendable, e₃, he₃⟩ :=
    Sample.resealed_runs
  have hfresh := (runAll_cons he₁).1
  obtain rfl := runAll_one he₁
  have hlater := runAll_steps .refl he₂
  have husable := Sample.usable_of_spendable hspendable (by decide) (by decide)
  refine ⟨e, e₂, Sample.firstSeal, _, _, (Sample.reachable_of_runAll hd).steps (runAll_steps .refl he),
    hfresh, rfl, hlater, ⟨Sample.nextSeal (some "second"), _, _,
      ⟨rfl, rfl, rfl, rfl, rfl, rfl, rfl, rfl, rfl⟩, rfl, hattempt, hfence _, husable, ?_⟩,
    Sample.otherSeal, _, _, rfl, rfl, by decide, (runAll_cons he₃).1⟩
  obtain ⟨id, hstored⟩ := fresh_stored hfresh
  have hrecord := steps_frozen hlater (by decide) (hstored.production "attempt" rfl)
  refine unspent_refused (fun r d' hc => ?_) husable.unspent
  have hclaimed := (commitChangesetSeal_stores hc).produced "second" rfl _ hrecord
  injection hclaimed with _ hproducer
  exact absurd hproducer (by decide)

end Pantheon
