/-
  Sandbox instances over the life of a store.
  `apply_sandbox` says what one operation does to a stored instance: it advances by one phase,
  is observed, or fails; its Run, plan and environment stay as they were created. A failure
  checks no phase, so it also takes a Released instance back (`released_failed`); where no
  Released instance is failed, Released is final (`sandbox_released_final`).
  Released can be reached from every phase but Error, which no operation leaves
  (`sandbox_releasable`).
-/
import Pantheon.Store.Forward

namespace Pantheon

open Relational

variable {D : Type} [DecidableEq D]

/-- The phase after this one on the ordinary way. -/
def SandboxPhase.next : SandboxPhase → Option SandboxPhase
  | .Requested => some .Preparing
  | .Preparing => some .Ready
  | .Ready => some .Releasing
  | .Releasing => some .Released
  | .Released | .Error => none

/-- An instance with what a step may change of it. -/
def SandboxInstance.moved (s : SandboxInstance D) (phase : SandboxPhase) (presence : Presence) :
    SandboxInstance D :=
  { s with phase, observedPresence := presence, revision := s.revision + 1 }

/-! ## The transitions -/

/-- One stored instance moved, and the record shows it. -/
structure SandboxMoved (id : String) (expected : Int) (phase : SandboxPhase) (presence : Presence)
    (d d' : Db D) (record : SandboxRecord D) (old : SandboxInstance D) : Prop where
  found : d.find .sandboxInstances id = some old
  revision : old.revision = expected
  after : ∀ k, d'.find .sandboxInstances k =
    if id = k then some (old.moved phase presence) else d.find .sandboxInstances k
  record_eq : record = sandboxRecord id (old.moved phase presence)

variable {id : String} {record : SandboxRecord D} {d d' : Db D} {expected : Int}
  {phase : SandboxPhase} {presence : Presence} {old : SandboxInstance D}

theorem rereadSandbox_commits {revision : Int} (h : (rereadSandbox id revision).Commits d record d') :
    d' = d ∧ ∃ row, d.find .sandboxInstances id = some row ∧
      record = { sandboxRecord id row with revision } := by
  obtain ⟨row, hrow, h₁⟩ := fetch_then h
  obtain ⟨rfl, rfl⟩ := Writer.commits_pure.mp h₁
  exact ⟨rfl, row, hrow, rfl⟩

/-- An update of one instance that is then read back. -/
theorem SandboxMoved.of_update {assign : SandboxInstance D → SandboxInstance D} {d₁ : Db D}
    (hu : Updated .sandboxInstances id expected assign d d₁ old)
    (hassign : { assign old with revision   := old.revision + 1 } = old.moved phase presence)
    (h : (rereadSandbox id (expected + 1)).Commits d₁ record d') :
    SandboxMoved id expected phase presence d d' record old := by
  obtain ⟨rfl, row, hrow, rfl⟩ := rereadSandbox_commits h
  have hrevision : old.revision = expected := hu.at_revision
  have hafter : (Revisioned.setRevision (expected + 1) (assign old) : Row D .sandboxInstances) =
      old.moved phase presence := by
    rw [← hassign, hrevision]
    rfl
  rw [hu.after, if_pos rfl, hafter] at hrow
  obtain rfl := Option.some.inj hrow
  refine ⟨hu.before, hrevision, fun k => by rw [hu.after, hafter], ?_⟩
  rw [← hrevision]
  rfl

theorem transitionSandbox_commits
    (h : (transitionSandbox id expected phase presence).Commits d record d') :
    ∃ old, SandboxMoved id expected phase presence d d' record old := by
  obtain ⟨d₁, old, hu, hread⟩ := update_then h
  exact ⟨old, .of_update hu rfl hread⟩

theorem advanceSandbox_commits {source target : SandboxPhase}
    (h : (advanceSandbox source target presence id expected).Commits d record d') :
    ∃ old, SandboxMoved id expected target presence d d' record old ∧ old.phase = source := by
  obtain ⟨phase, d₁, hphase, h₁⟩ := Writer.commits_bind.mp h
  obtain ⟨row, hrow, h₂⟩ := fetch_then hphase
  obtain ⟨-, h₃⟩ := Writer.ensure_then h₂
  obtain ⟨rfl, rfl⟩ := Writer.commits_pure.mp h₃
  obtain ⟨hsource, h₄⟩ := Writer.ensure_then h₁
  obtain ⟨old, hmoved⟩ := transitionSandbox_commits h₄
  obtain rfl := Option.some.inj (hrow.symm.trans hmoved.found)
  exact ⟨row, hmoved, hsource⟩

theorem completeSandboxRelease_commits {observed : Presence}
    (h : (completeSandboxRelease id expected observed).Commits d record d') :
    ∃ old, SandboxMoved id expected .Released observed d d' record old ∧
      old.phase = .Releasing := by
  obtain ⟨-, h₁⟩ := Writer.ensure_then h
  exact advanceSandbox_commits h₁

theorem failSandbox_commits {observed : Presence}
    (h : (failSandbox id expected observed).Commits d record d') :
    ∃ old, SandboxMoved id expected .Error observed d d' record old := by
  obtain ⟨-, h₁⟩ := Writer.ensure_then h
  exact transitionSandbox_commits h₁

theorem updateSandboxPresence_commits
    (h : (updateSandboxPresence id expected presence).Commits d record d') :
    ∃ old, SandboxMoved id expected old.phase presence d d' record old := by
  obtain ⟨d₁, old, hu, hread⟩ := update_then h
  exact ⟨old, .of_update hu rfl hread⟩

/-- A new instance of a Run that has none. -/
structure SandboxCreated (id : String) (binding : SandboxBinding D) (d d' : Db D)
    (record : SandboxRecord D) : Prop where
  unused : d.find .sandboxInstances id = none
  after : ∀ k, d'.find .sandboxInstances k = if id = k then
    some ⟨binding.runId, binding.sandboxPlanDigest, binding.environmentIdentity, .Requested,
      .Absent, 1⟩ else d.find .sandboxInstances k
  record_eq : record = ⟨id, binding.runId, binding.sandboxPlanDigest, binding.environmentIdentity,
    .Requested, .Absent, 1⟩

theorem createSandbox_commits {binding : SandboxBinding D}
    (h : (createSandbox id binding).Commits d record d') :
    SandboxCreated id binding d d' record := by
  have h₁ := Writer.read_then h
  obtain ⟨-, h₂⟩ := Writer.ensure_then h₁
  obtain ⟨d₁, hinsert, h₃⟩ := insert_then h₂
  obtain ⟨rfl, rfl⟩ := Writer.commits_pure.mp h₃
  obtain ⟨hunused, -, -, -, -, hafter, -⟩ := State.insert_ok hinsert
  exact ⟨hunused, hafter, rfl⟩

/-! ## One operation -/

variable [DigestScheme D]

/-- What an operation does to a stored instance. -/
inductive SandboxMove (op : StoreOp D) (id : String) (old : SandboxInstance D) :
    SandboxInstance D → Prop where
  | kept : SandboxMove op id old old
  | advanced {phase : SandboxPhase} {presence : Presence} (follows : old.phase.next = some phase)
    (completed : phase = .Ready →
      ∃ identity expected, op = .command identity (.completeSandboxPreparation id expected)) :
    SandboxMove op id old (old.moved phase presence)
  | observed {presence : Presence} : SandboxMove op id old (old.moved old.phase presence)
  | failed {identity : Command D} {expected : Int} {presence : Presence}
    (named : op = .command identity (.failSandbox id expected presence)) :
    SandboxMove op id old (old.moved .Error presence)

/-- A stored instance never disappears, and an operation moves it in one of four ways. -/
theorem apply_sandbox (op : StoreOp D) (ambient : Ambient)
    (h : d.find .sandboxInstances id = some old) :
    ∃ new, (op.apply ambient d).find .sandboxInstances id = some new ∧
      SandboxMove op id old new := by
  rcases apply_row op ambient (by decide) h with hkept | ⟨r, d₁, hc, hupdates, hafter⟩
  · exact ⟨old, hkept, .kept⟩
  rw [hafter]
  -- a transition moves the instance it names and keeps the others
  have hmoved : ∀ {target : String} {expected : Int} {phase : SandboxPhase} {presence : Presence}
      {record : SandboxRecord D} {row : SandboxInstance D},
      SandboxMoved target expected phase presence d d₁ record row →
      (target = id → SandboxMove op id row (row.moved phase presence)) →
      ∃ new, d₁.find .sandboxInstances id = some new ∧ SandboxMove op id old new :=
    fun hmove => moved_at (fun _ => .kept) h hmove.found hmove.after
  cases op with
  | write plain => cases plain <;> exact absurd hupdates (of_decide_eq_true rfl)
  | command identity mutation =>
    cases mutation with
    | createSandbox sandboxId binding =>
      have hcreated := createSandbox_commits hc
      refine ⟨old, ?_, .kept⟩
      rw [hcreated.after, if_neg, h]
      rintro rfl
      cases hcreated.unused.symm.trans h
    | beginSandboxPreparation sandboxId expected =>
      obtain ⟨row, hmove, hphase⟩ := advanceSandbox_commits hc
      exact hmoved hmove fun _ => .advanced (by rw [hphase]; rfl) (by simp)
    | completeSandboxPreparation sandboxId expected =>
      obtain ⟨row, hmove, hphase⟩ := advanceSandbox_commits hc
      exact hmoved hmove fun hid => .advanced (by rw [hphase]; rfl)
        fun _ => ⟨identity, expected, by rw [hid]⟩
    | beginSandboxRelease sandboxId expected =>
      obtain ⟨row, hmove, hphase⟩ := advanceSandbox_commits hc
      exact hmoved hmove fun _ => .advanced (by rw [hphase]; rfl) (by simp)
    | completeSandboxRelease sandboxId expected observed =>
      obtain ⟨row, hmove, hphase⟩ := completeSandboxRelease_commits hc
      exact hmoved hmove fun _ => .advanced (by rw [hphase]; rfl) (by simp)
    | failSandbox sandboxId expected observed =>
      obtain ⟨row, hmove⟩ := failSandbox_commits hc
      exact hmoved hmove fun hid => .failed (by rw [hid])
    | updateSandboxPresence sandboxId expected presence =>
      obtain ⟨row, hmove⟩ := updateSandboxPresence_commits hc
      exact hmoved hmove fun _ => .observed
    | _ => exact absurd hupdates (of_decide_eq_true rfl)

variable {op : StoreOp D} {new : SandboxInstance D}

/-- A new instance is one that was created. -/
theorem apply_sandbox_new {ambient : Ambient} {d : Db D} {id : String}
    (h : (op.apply ambient d).find .sandboxInstances id = some new)
    (hnone : d.find .sandboxInstances id = none) :
    ∃ identity binding, op = .command identity (.createSandbox id binding) ∧
      new = ⟨binding.runId, binding.sandboxPlanDigest, binding.environmentIdentity, .Requested,
        .Absent, 1⟩ := by
  obtain ⟨r, d₁, hc, hinserts, hnew, -⟩ := apply_row_new (by decide) h hnone
  have hmoved : ∀ {target : String} {expected : Int} {phase : SandboxPhase} {presence : Presence}
      {record : SandboxRecord D} {row : SandboxInstance D},
      SandboxMoved target expected phase presence d d₁ record row → False := by
    intro target expected phase presence record row hmove
    rw [hmove.after] at hnew
    split at hnew
    · rename_i hid
      cases hnone.symm.trans (hid ▸ hmove.found)
    · cases hnone.symm.trans hnew
  cases op with
  | write plain => cases plain <;> exact absurd hinserts (of_decide_eq_true rfl)
  | command identity mutation =>
    cases mutation with
    | createSandbox sandboxId binding =>
      rw [(createSandbox_commits hc).after] at hnew
      split at hnew
      · rename_i hid
        exact ⟨identity, binding, by rw [hid], (Option.some.inj hnew).symm⟩
      · cases hnone.symm.trans hnew
    | beginSandboxPreparation => exact (hmoved (advanceSandbox_commits hc).choose_spec.1).elim
    | completeSandboxPreparation => exact (hmoved (advanceSandbox_commits hc).choose_spec.1).elim
    | beginSandboxRelease => exact (hmoved (advanceSandbox_commits hc).choose_spec.1).elim
    | completeSandboxRelease =>
      exact (hmoved (completeSandboxRelease_commits hc).choose_spec.1).elim
    | failSandbox => exact (hmoved (failSandbox_commits hc).choose_spec).elim
    | updateSandboxPresence => exact (hmoved (updateSandboxPresence_commits hc).choose_spec).elim
    | _ => exact absurd hinserts (of_decide_eq_true rfl)

/-! ## Whole runs -/

/-- The same instance: what it was created for. -/
structure SameSandbox (old new : SandboxInstance D) : Prop where
  run : new.runId = old.runId
  plan : new.sandboxPlanDigest = old.sandboxPlanDigest
  environment : new.environmentIdentity = old.environmentIdentity

omit [DecidableEq D] [DigestScheme D] in
theorem SameSandbox.refl (s : SandboxInstance D) : SameSandbox s s := ⟨rfl, rfl, rfl⟩

omit [DecidableEq D] [DigestScheme D] in
theorem SameSandbox.trans {a b c : SandboxInstance D} (h : SameSandbox a b) (h' : SameSandbox b c) :
    SameSandbox a c :=
  ⟨h'.run.trans h.run, h'.plan.trans h.plan, h'.environment.trans h.environment⟩

omit [DecidableEq D] in
theorem SandboxMove.same (h : SandboxMove op id old new) : SameSandbox old new := by
  cases h <;> exact ⟨rfl, rfl, rfl⟩

/-- The operation fails no Released instance. -/
def SparesReleased (d : Db D) : StoreOp D → Prop
  | .command _ (.failSandbox id _ _) =>
    ∀ row, d.find .sandboxInstances id = some row → row.phase ≠ .Released
  | _ => True

theorem SandboxMove.released (h : SandboxMove op id old new) (hop : SparesReleased d op)
    (hfound : d.find .sandboxInstances id = some old) (hold : old.phase = .Released) :
    new.phase = .Released := by
  cases h with
  | kept => exact hold
  | advanced follows =>
    rw [hold] at follows
    cases follows
  | observed => exact hold
  | failed named =>
    subst named
    exact absurd hold (hop old hfound)

omit [DigestScheme D] in
theorem released_absent {row : SandboxInstance D} (h : d.find .sandboxInstances id = some row)
    (hreleased : row.phase = .Released) : row.observedPresence = .Absent := by
  have hcheck := of_decide_eq_true (State.check_of_find h)
  exact hcheck.2.2.2.2.2 hreleased

omit [DigestScheme D] in
/-- A Run has at most one instance that is not Released. -/
theorem one_current_sandbox {a b : String} {rowA rowB : SandboxInstance D}
    (ha : d.find .sandboxInstances a = some rowA) (hb : d.find .sandboxInstances b = some rowB)
    (hrun : rowA.runId = rowB.runId) (hA : rowA.phase ≠ .Released) (hB : rowB.phase ≠ .Released) :
    a = b := by
  by_contra hne
  have hclash := State.clash_of_find ha hb hne
  simp [clash, hrun, hA, hB] at hclash

/-- In every run that fails no Released instance: what an instance was created for never
    changes, Released is final and absent, and a Run has one current instance at most. -/
theorem sandbox_released_final {d d' : Db D} (hrun : Run.Steps SparesReleased d d') :
    (∀ id old, d.find .sandboxInstances id = some old →
      ∃ new, d'.find .sandboxInstances id = some new ∧ SameSandbox old new ∧
        (old.phase = .Released → new.phase = .Released ∧ new.observedPresence = .Absent)) ∧
    ∀ a b rowA rowB, d'.find .sandboxInstances a = some rowA →
      d'.find .sandboxInstances b = some rowB → rowA.runId = rowB.runId →
      rowA.phase ≠ .Released → rowB.phase ≠ .Released → a = b := by
  refine ⟨fun id old hold => ?_, fun a b rowA rowB => one_current_sandbox⟩
  obtain ⟨new, hnew, hsame, hreleased⟩ : ∃ new, d'.find .sandboxInstances id = some new ∧
      SameSandbox old new ∧ (old.phase = .Released → new.phase = .Released) := by
    refine hrun.invariant (P := fun e => ∃ new, e.find .sandboxInstances id = some new ∧
      SameSandbox old new ∧ (old.phase = .Released → new.phase = .Released))
      ⟨old, hold, .refl old, fun h => h⟩ ?_
    rintro e op ambient ⟨row, hrow, hsame, hreleased⟩ hop
    obtain ⟨new, hnew, hmove⟩ := apply_sandbox op ambient hrow
    exact ⟨new, hnew, hsame.trans hmove.same, fun h => hmove.released hop hrow (hreleased h)⟩
  exact ⟨new, hnew, hsame, fun h => ⟨hreleased h, released_absent hnew (hreleased h)⟩⟩

namespace Sample

/-- An instance taken through its ordinary life. -/
def sandboxed : List (Ambient × StoreOp PrefixDigest) := [
  call 'a' (.createSandbox "sandbox" ⟨"run", ⟨[1]⟩, "e"⟩),
  call 'b' (.beginSandboxPreparation "sandbox" 1),
  call 'c' (.completeSandboxPreparation "sandbox" 2),
  call 'd' (.beginSandboxRelease "sandbox" 3),
  call 'e' (.completeSandboxRelease "sandbox" 4 .Absent)]

/-- The phase of the instance. -/
def sandboxIs (phase : SandboxPhase) (d : Store) : Bool :=
  ((d.find .sandboxInstances "sandbox").map (·.phase)) == some phase

theorem sandboxIs_found {d : Store} (h : sandboxIs phase d = true) :
    ∃ row, d.find .sandboxInstances "sandbox" = some row ∧ row.phase = phase := by
  obtain ⟨row, hrow, hphase⟩ := Option.map_eq_some_iff.mp (beq_iff_eq.mp h)
  exact ⟨row, hrow, hphase⟩

theorem sandbox_released_then_failed : ∃ d ∈ runAll installed sandboxed,
    sandboxIs .Released d = true ∧ sandboxIs .Error ((call 'f'
      (.failSandbox "sandbox" 5 .Unknown)).2.apply (ambient 'f') d) = true := by
  decide +kernel

end Sample

theorem sandbox_released_final_observed : ∃ d : Sample.Store, Reachable d ∧
    Sample.sandboxIs .Released d = true ∧
    ∃ new, ((Sample.call 'f' (.updateSandboxPresence "sandbox" 5 .Absent)).2.apply
      (Sample.ambient 'f') d).find .sandboxInstances "sandbox" = some new ∧
      new.phase = .Released ∧ new.observedPresence = .Absent := by
  obtain ⟨d, hd, hreleased, -⟩ := Sample.sandbox_released_then_failed
  obtain ⟨row, hrow, hphase⟩ := Sample.sandboxIs_found hreleased
  obtain ⟨hinstances, -⟩ := sandbox_released_final (.step .refl
    (Sample.call 'f' (.updateSandboxPresence "sandbox" 5 .Absent)).2 (Sample.ambient 'f') trivial)
  obtain ⟨new, hnew, -, hfinal⟩ := hinstances "sandbox" row hrow
  exact ⟨d, Sample.reachable_of_runAll hd, hreleased, new, hnew, hfinal hphase⟩

/-- A Released instance is failed, and is not Released any more. -/
theorem released_failed : ∃ d : Sample.Store, Reachable d ∧
    (∃ row, d.find .sandboxInstances "sandbox" = some row ∧ row.phase = .Released) ∧
    ∃ row, ((Sample.call 'f' (.failSandbox "sandbox" 5 .Unknown)).2.apply (Sample.ambient 'f')
      d).find .sandboxInstances "sandbox" = some row ∧ row.phase = .Error := by
  obtain ⟨d, hd, hreleased, herror⟩ := Sample.sandbox_released_then_failed
  exact ⟨d, Sample.reachable_of_runAll hd, Sample.sandboxIs_found hreleased,
    Sample.sandboxIs_found herror⟩

/-! ## The way to Released -/

omit [DigestScheme D] in
/-- A current instance moves to any phase whose presence the schema admits. -/
theorem transitionSandbox_of (hold : d.find .sandboxInstances id = some old)
    (hcurrent : old.phase ≠ .Released) (hcoherent : (old.moved phase presence).Coherent) :
    ∃ record d', (transitionSandbox id old.revision phase presence).Commits d record d' := by
  have hchecked := of_decide_eq_true (State.check_of_find hold)
  have hcheck : check (D := D) .sandboxInstances id (old.moved phase presence) = true := by
    refine decide_eq_true ⟨hchecked.1, hchecked.2.1, ?_, hcoherent⟩
    have hpositive := hchecked.2.2.1
    change 0 < old.revision + 1
    omega
  -- the row before it was current as well, so the index forbids no more than it did
  have hclash : ∀ q ∈ d.rows .sandboxInstances, id ≠ q.1 →
      clash (D := D) .sandboxInstances (id, old.moved phase presence) q = false := by
    refine State.clash_of_clash hold fun q h => ?_
    obtain ⟨hrun, -, hq⟩ := of_decide_eq_true h
    exact decide_eq_true ⟨hrun, hcurrent, hq⟩
  obtain ⟨d₁, hupdate⟩ : ∃ d₁, (updateRevisioned .sandboxInstances id old.revision
      (fun s => { s with phase, observedPresence := presence }) :
        Write D sandboxAccess Int).Commits d (old.revision + 1) d₁ :=
    updateRevisioned_of (by decide) hold rfl hcheck hclash rfl
  obtain ⟨-, row, hupdated⟩ := commits_updateRevisioned hupdate
  have hafter : ∃ new, d₁.find .sandboxInstances id = some new := by
    rw [hupdated.after, if_pos rfl]
    exact ⟨_, rfl⟩
  obtain ⟨new, hnew⟩ := hafter
  refine ⟨{ sandboxRecord id new with revision := old.revision + 1 }, d₁,
    Writer.then_of hupdate ?_⟩
  exact Writer.then_of (fetch_of hnew) rfl

omit [DigestScheme D] in
theorem advanceSandbox_of (target : SandboxPhase) (presence : Presence)
    (hold : d.find .sandboxInstances id = some old) (hcurrent : old.phase ≠ .Released)
    (hcoherent : (old.moved target presence).Coherent) :
    ∃ record d', (advanceSandbox old.phase target presence id old.revision).Commits d record d' := by
  obtain ⟨record, d', htransition⟩ := transitionSandbox_of hold hcurrent hcoherent
  have hread : (sandboxPhase id old.revision).Commits d old.phase d :=
    Writer.then_of (fetch_of hold) (Writer.then_of (Writer.ensure_of rfl) rfl)
  exact ⟨record, d', Writer.then_of hread (Writer.then_of (Writer.ensure_of rfl) htransition)⟩

/-- The operations on one instance. -/
def Mutation.onSandbox (id : String) : Mutation D → Prop
  | .beginSandboxPreparation target _ | .completeSandboxPreparation target _
  | .beginSandboxRelease target _ | .completeSandboxRelease target _ _
  | .failSandbox target _ _ | .updateSandboxPresence target _ _ => target = id
  | _ => False

/-- The ordinary steps left before Released. -/
def SandboxPhase.distance : SandboxPhase → Nat
  | .Requested => 4
  | .Preparing => 3
  | .Ready => 2
  | .Releasing => 1
  | .Released | .Error => 0

/-- The operation that brings an instance to its next phase commits. -/
theorem advance_commits (hold : d.find .sandboxInstances id = some old)
    (hnext : old.phase.next = some phase) :
    ∃ m : Mutation D, m.onSandbox id ∧ ∀ ambient, ∃ value d₁,
      (m.body.body ambient).Commits d value d₁ ∧
        ∃ new, d₁.find .sandboxInstances id = some new ∧ new.phase = phase := by
  have hcurrent : old.phase ≠ .Released := by
    intro h
    rw [h] at hnext
    cases hnext
  have hmoved : ∀ {target : SandboxPhase} {presence : Presence} {record : SandboxRecord D}
      {d₁ : Db D},
      (advanceSandbox old.phase target presence id old.revision).Commits d record d₁ →
      ∃ new, d₁.find .sandboxInstances id = some new ∧ new.phase = target := by
    intro target presence record d₁ hc
    obtain ⟨row, hmove, -⟩ := advanceSandbox_commits hc
    exact ⟨_, by rw [hmove.after, if_pos rfl], rfl⟩
  cases hphase : old.phase with
  | Requested =>
    rw [hphase] at hnext
    obtain rfl := Option.some.inj hnext
    obtain ⟨record, d₁, hc⟩ := advanceSandbox_of .Preparing .Unknown hold hcurrent
      ⟨nofun, nofun, nofun⟩
    refine ⟨.beginSandboxPreparation id old.revision, rfl, fun _ => ⟨record, d₁, ?_, hmoved hc⟩⟩
    rwa [hphase] at hc
  | Preparing =>
    rw [hphase] at hnext
    obtain rfl := Option.some.inj hnext
    obtain ⟨record, d₁, hc⟩ := advanceSandbox_of .Ready .Present hold hcurrent
      ⟨fun _ => rfl, nofun, nofun⟩
    refine ⟨.completeSandboxPreparation id old.revision, rfl, fun _ => ⟨record, d₁, ?_, hmoved hc⟩⟩
    rwa [hphase] at hc
  | Ready =>
    rw [hphase] at hnext
    obtain rfl := Option.some.inj hnext
    obtain ⟨record, d₁, hc⟩ := advanceSandbox_of .Releasing .Unknown hold hcurrent
      ⟨nofun, nofun, nofun⟩
    refine ⟨.beginSandboxRelease id old.revision, rfl, fun _ => ⟨record, d₁, ?_, hmoved hc⟩⟩
    rwa [hphase] at hc
  | Releasing =>
    rw [hphase] at hnext
    obtain rfl := Option.some.inj hnext
    obtain ⟨record, d₁, hc⟩ := advanceSandbox_of .Released .Absent hold hcurrent
      ⟨nofun, nofun, fun _ => rfl⟩
    refine ⟨.completeSandboxRelease id old.revision .Absent, rfl, fun _ =>
      ⟨record, d₁, Writer.then_of rfl ?_, hmoved hc⟩⟩
    rwa [hphase] at hc
  | Released | Error =>
    rw [hphase] at hnext
    cases hnext

/-- From every phase but Error the ordinary steps lead to Released. -/
theorem reaches_released (ids : List (Ambient × Command D)) (hd : Reachable d)
    (hold : d.find .sandboxInstances id = some old) (herror : old.phase ≠ .Error)
    (hids : Supply d ids) (henough : old.phase.distance ≤ ids.length) :
    ∃ calls d', (∀ call ∈ calls, ∃ p ∈ ids, ∃ m : Mutation D, m.onSandbox id ∧
        call = (p.1, .command p.2 m)) ∧ runAll d calls = some d' ∧
      ∃ new, d'.find .sandboxInstances id = some new ∧ new.phase = .Released := by
  -- one identity is spent for each step, so the induction is on the identities
  induction ids generalizing d old with
  | nil =>
    refine ⟨[], d, by simp, rfl, old, hold, ?_⟩
    cases hphase : old.phase with
    | Error => exact absurd hphase herror
    | Released => rfl
    | Requested | Preparing | Ready | Releasing =>
      rw [hphase] at henough
      cases henough
  | cons p ids ih =>
    cases hnext : old.phase.next with
    | none =>
      refine ⟨[], d, by simp, rfl, old, hold, ?_⟩
      cases hphase : old.phase with
      | Error => exact absurd hphase herror
      | Released => rfl
      | Requested | Preparing | Ready | Releasing =>
        rw [hphase] at hnext
        cases hnext
    | some phase =>
      obtain ⟨m, hm, hcommits⟩ := advance_commits hold hnext
      obtain ⟨value, d₁, hc, new, hnew, hphase⟩ := hcommits p.1
      obtain ⟨d₂, hrun, hrest, hframe⟩ := command_executes hd hids hc
      rw [← State.find_congr (hframe .sandboxInstances (by decide))] at hnew
      have hnearer : new.phase ≠ .Error ∧ new.phase.distance + 1 = old.phase.distance := by
        rw [hphase]
        cases hphase : old.phase <;> rw [hphase] at hnext <;> cases hnext <;> decide
      have hshorter : new.phase.distance ≤ ids.length := by
        have hlength : old.phase.distance ≤ ids.length + 1 := henough
        omega
      have hd₂ : Reachable d₂ := hd.steps (runAll_steps .refl hrun)
      obtain ⟨calls, d', hcalls, hall, hreleased⟩ := ih hd₂ hnew hnearer.1 hrest hshorter
      refine ⟨(p.1, .command p.2 m) :: calls, d', fun call hcall => ?_, ?_, hreleased⟩
      · rcases List.mem_cons.mp hcall with rfl | hcall
        · exact ⟨p, List.mem_cons_self, m, hm, rfl⟩
        · obtain ⟨q, hq, hnamed⟩ := hcalls call hcall
          exact ⟨q, List.mem_cons_of_mem _ hq, hnamed⟩
      · exact runAll_trans hrun hall

/-- An instance in Error stays in Error. -/
theorem error_stays (hold : d.find .sandboxInstances id = some old) (herror : old.phase = .Error)
    (hrun : Run.Steps anyStep d d') :
    ∃ new, d'.find .sandboxInstances id = some new ∧ new.phase = .Error := by
  refine hrun.invariant (P := fun e => ∃ new, e.find .sandboxInstances id = some new ∧
    new.phase = .Error) ⟨old, hold, herror⟩ ?_
  rintro e op ambient ⟨row, hrow, hphase⟩ -
  obtain ⟨new, hnew, hmove⟩ := apply_sandbox op ambient hrow
  refine ⟨new, hnew, ?_⟩
  cases hmove with
  | kept => exact hphase
  | advanced follows =>
    rw [hphase] at follows
    cases follows
  | observed => exact hphase
  | failed => rfl

/-- An instance can be brought to Released by operations on it, under any four identities not
    used before, exactly if it is not in Error: an instance in Error is never Released, whatever
    is called. -/
theorem sandbox_releasable {d : Db D} (hd : Reachable d) {id : String} {old : SandboxInstance D}
    (hold : d.find .sandboxInstances id = some old) :
    (old.phase ≠ .Error → ∀ ids : List (Ambient × Command D), ids.length = 4 → Supply d ids →
      ∃ calls d', (∀ call ∈ calls, ∃ p ∈ ids, ∃ m : Mutation D, m.onSandbox id ∧
          call = (p.1, .command p.2 m)) ∧ runAll d calls = some d' ∧
        ∃ new, d'.find .sandboxInstances id = some new ∧ new.phase = .Released) ∧
    (old.phase = .Error → ∀ d', Run.Steps anyStep d d' →
      ∃ new, d'.find .sandboxInstances id = some new ∧ new.phase = .Error) := by
  refine ⟨fun herror ids hlength hids => ?_, fun herror d' => error_stays hold herror⟩
  refine reaches_released ids hd hold herror hids ?_
  rw [hlength]
  cases old.phase <;> decide

/-- A new instance and one whose provisioning failed. -/
theorem sandbox_releasable_requested : ∃ d : Sample.Store, Reachable d ∧
    Sample.sandboxIs .Requested d = true ∧ ∃ calls d', runAll d calls = some d' ∧
      ∃ new, d'.find .sandboxInstances "sandbox" = some new ∧ new.phase = .Released := by
  have hrun : ∃ d ∈ runAll Sample.installed (Sample.sandboxed.take 1),
      Sample.sandboxIs .Requested d = true ∧ ['p', 'q', 'r', 's'].all (Sample.spendable d) = true := by
    decide +kernel
  obtain ⟨d, hd, hrequested, hspendable⟩ := hrun
  obtain ⟨row, hrow, hphase⟩ := Sample.sandboxIs_found hrequested
  have hreachable := Sample.reachable_of_runAll hd
  have hsupply : Supply d (['p', 'q', 'r', 's'].map Sample.identity) := by
    refine ⟨fun p hp => ?_, by decide⟩
    obtain ⟨c, hc, rfl⟩ := List.mem_map.mp hp
    have hlengths : (['p', 'q', 'r', 's'].all fun c => lengthBetween (String.ofList [c]) 1 128 ∧
        (Sample.ambient c).eventId.length = 32) = true := by decide
    have hlength := of_decide_eq_true (List.all_eq_true.mp hlengths c hc)
    exact Sample.usable_of_spendable (List.all_eq_true.mp hspendable c hc) hlength.1 hlength.2
  obtain ⟨calls, d', -, hall, hreleased⟩ :=
    (sandbox_releasable hreachable hrow).1 (by rw [hphase]; nofun) _ rfl hsupply
  exact ⟨d, hreachable, hrequested, calls, d', hall, hreleased⟩

/-- A failed provisioning leaves the instance current for good. -/
theorem failed_sandbox_stays_current : ∃ d : Sample.Store, Reachable d ∧
    (∃ row, d.find .sandboxInstances "sandbox" = some row ∧ row.phase ≠ .Released) ∧
    ∀ d', Run.Steps anyStep d d' →
      ∀ row, d'.find .sandboxInstances "sandbox" = some row → row.phase ≠ .Released := by
  have hrun : ∃ d ∈ runAll Sample.installed (Sample.sandboxed.take 2 ++
      [Sample.call 'f' (.failSandbox "sandbox" 2 .Absent)]),
        ∃ row ∈ d.find .sandboxInstances "sandbox", row.phase = .Error := by decide +kernel
  obtain ⟨d, hd, row, hrow, hphase⟩ := hrun
  refine ⟨d, Sample.reachable_of_runAll hd, ⟨row, hrow, by rw [hphase]; nofun⟩, ?_⟩
  intro d' hsteps row' hrow' hreleased
  obtain ⟨new, hnew, hstill⟩ := error_stays hrow hphase hsteps
  obtain rfl := Option.some.inj (hrow'.symm.trans hnew)
  cases hreleased.symm.trans hstill

end Pantheon
