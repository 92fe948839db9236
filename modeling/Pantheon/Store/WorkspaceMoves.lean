/-
  Workspaces over the life of a store.
  `apply_workspace` says what one operation does to a stored Workspace: it begins, completes or
  fails a materialization, or freezes. The fence against rematerialization only looks at the
  current phase; since no operation leads from a phase that has been mutable to one that has
  not, that is enough (`workspace_life`).
-/
import Pantheon.Store.Machine

namespace Pantheon

open Relational

variable {D : Type} [DecidableEq D]

/-- A Workspace at its next revision, with what a transition changes of it. -/
def Workspace.advanced (w : Workspace) (phase : WorkspacePhase) (materialization : Presence) :
    Workspace := { w.moved phase materialization with revision := w.revision + 1 }

/-! ## The transitions -/

/-- One stored Workspace moved. -/
structure WorkspaceAdvanced (id : String) (phase : WorkspacePhase) (materialization : Presence)
    (d d' : Db D) (old : Workspace) : Prop where
  found : d.find .workspaces id = some old
  after : ∀ k, d'.find .workspaces k =
    if id = k then some (old.advanced phase materialization) else d.find .workspaces k

variable {id : String} {expected : Int} {r : WorkspaceRecord} {d d' : Db D}

theorem transition_advances {phase : WorkspacePhase} {materialization : Presence} {w : Workspace}
    (hw : d.find .workspaces id = some w)
    (h : (transition id expected phase materialization).Commits d r d') :
    WorkspaceAdvanced id phase materialization d d' w := by
  obtain ⟨old, hu⟩ := transition_commits h
  obtain rfl := Option.some.inj (hw.symm.trans hu.before)
  refine ⟨hw, fun k => ?_⟩
  rw [hu.after, ← hu.at_revision]
  rfl

theorem beginWorkspaceMaterialization_advances
    (h : (beginWorkspaceMaterialization id expected).Commits d r d') :
    ∃ old, WorkspaceAdvanced id .Materializing .Unknown d d' old ∧
      old.phase.hasBeenMutable = false := by
  obtain ⟨current, hcurrent, h₁⟩ := Writer.guard_then h
  obtain ⟨hmutable, h₂⟩ := Writer.ensure_then h₁
  obtain ⟨w, hw, hphase⟩ := workspacePhaseAndBase_commits hcurrent
  exact ⟨w, transition_advances hw h₂, hphase ▸ hmutable⟩

theorem workspacePhaseAndBase_base {r : WorkspacePhase × ResolvedBase} {w : Workspace}
    (hw : d.find .workspaces id = some w) (h : (workspacePhaseAndBase id expected).Commits d r d') :
    r.2.text = w.resolvedBase := by
  obtain ⟨row, hrow, h₁⟩ := fetch_then h
  obtain rfl := Option.some.inj (hw.symm.trans hrow)
  obtain ⟨-, h₂⟩ := Writer.ensure_then h₁
  obtain ⟨base, hbase, h₃⟩ := requireOk_then h₂
  obtain ⟨rfl, -⟩ := Writer.commits_pure.mp h₃
  unfold ResolvedBase.parse at hbase
  split at hbase
  · rw [← Except.ok.inj hbase]
  · cases hbase

theorem completeWorkspaceMaterialization_advances {base : ResolvedBase}
    (h : (completeWorkspaceMaterialization id expected base).Commits d r d') :
    ∃ old, WorkspaceAdvanced id .Ready .Present d d' old ∧ old.phase = .Materializing ∧
      base.text = old.resolvedBase := by
  obtain ⟨current, hcurrent, h₁⟩ := Writer.guard_then h
  obtain ⟨hmaterializing, h₂⟩ := Writer.ensure_then h₁
  obtain ⟨hbase, h₃⟩ := Writer.ensure_then h₂
  obtain ⟨w, hw, hphase⟩ := workspacePhaseAndBase_commits hcurrent
  exact ⟨w, transition_advances hw h₃, hphase.trans hmaterializing,
    hbase ▸ workspacePhaseAndBase_base hw hcurrent⟩

theorem failWorkspaceMaterialization_advances {observed : Presence}
    (h : (failWorkspaceMaterialization id expected observed).Commits d r d') :
    ∃ old, WorkspaceAdvanced id .Error observed d d' old ∧ old.phase.hasBeenMutable = false := by
  obtain ⟨-, h₁⟩ := Writer.ensure_then h
  obtain ⟨current, hcurrent, h₂⟩ := Writer.guard_then h₁
  obtain ⟨hmutable, h₃⟩ := Writer.ensure_then h₂
  obtain ⟨w, hw, hphase⟩ := workspacePhaseAndBase_commits hcurrent
  exact ⟨w, transition_advances hw h₃, hphase ▸ hmutable⟩

theorem freezeWorkspace_advances [DigestScheme D] {authority : SealAuthority}
    {taskId outputSlot workspaceId : String}
    (h : (freezeWorkspace authority taskId outputSlot workspaceId expected).Commits d r d') :
    ∃ old, WorkspaceAdvanced workspaceId .Frozen .Present d d' old ∧ old.phase = .Ready := by
  obtain ⟨w, hw, h₁⟩ := fetch_then h
  obtain ⟨-, h₂⟩ := Writer.ensure_then h₁
  obtain ⟨hready, h₃⟩ := Writer.ensure_then h₂
  obtain ⟨_, -, h₄⟩ := Writer.guard_then h₃
  exact ⟨w, transition_advances hw h₄, hready.1⟩

/-- The row of a Workspace as it is opened. -/
def openedWorkspace (binding : WorkspaceBinding) : Workspace :=
  ⟨binding.taskId, binding.repository, binding.sourcePath, binding.requestedBase.text,
    binding.resolvedBase.text, .Requested, .Absent, 1⟩

theorem openWorkspace_commits {binding : WorkspaceBinding}
    (h : (openWorkspace id binding).Commits d r d') :
    d.find .workspaces id = none ∧ ∀ k, d'.find .workspaces k =
      if id = k then some (openedWorkspace binding) else d.find .workspaces k := by
  obtain ⟨task, -, h₁⟩ := fetch_then h
  obtain ⟨-, h₂⟩ := Writer.ensure_then h₁
  have h₃ := Writer.read_then h₂
  obtain ⟨-, h₄⟩ := Writer.ensure_then h₃
  obtain ⟨d₁, hinsert, h₅⟩ := insert_then h₄
  obtain ⟨-, rfl⟩ := Writer.commits_pure.mp h₅
  obtain ⟨hunused, -, -, -, -, hafter, -⟩ := State.insert_ok hinsert
  exact ⟨hunused, hafter⟩

/-! ## One operation -/

variable [DigestScheme D]

/-- What an operation does to a stored Workspace. -/
inductive WorkspaceMove (op : StoreOp D) (id : String) (old : Workspace) : Workspace → Prop where
  | kept : WorkspaceMove op id old old
  | began (unused : old.phase.hasBeenMutable = false) :
    WorkspaceMove op id old (old.advanced .Materializing .Unknown)
  | completed {identity : Command D} {expected : Int} {base : ResolvedBase}
    (named : op = .command identity (.completeWorkspaceMaterialization id expected base))
    (materializing : old.phase = .Materializing) (verified : base.text = old.resolvedBase) :
    WorkspaceMove op id old (old.advanced .Ready .Present)
  | failed {observed : Presence} (unused : old.phase.hasBeenMutable = false) :
    WorkspaceMove op id old (old.advanced .Error observed)
  | froze (ready : old.phase = .Ready) : WorkspaceMove op id old (old.advanced .Frozen .Present)

/-- A stored Workspace never disappears, and an operation moves it in one of five ways. -/
theorem apply_workspace (op : StoreOp D) (ambient : Ambient) {old : Workspace}
    (h : d.find .workspaces id = some old) :
    ∃ new, (op.apply ambient d).find .workspaces id = some new ∧ WorkspaceMove op id old new := by
  rcases apply_row op ambient (by decide) h with hkept | ⟨r, d₁, hc, hupdates, hafter⟩
  · exact ⟨old, hkept, .kept⟩
  rw [hafter]
  -- a transition moves the Workspace it names and keeps the others
  have hmoved : ∀ {target : String} {phase : WorkspacePhase} {materialization : Presence}
      {row : Workspace}, WorkspaceAdvanced target phase materialization d d₁ row →
      (target = id → WorkspaceMove op id row (row.advanced phase materialization)) →
      ∃ new, d₁.find .workspaces id = some new ∧ WorkspaceMove op id old new :=
    fun hmove => moved_at (fun _ => .kept) h hmove.found hmove.after
  cases op with
  | write plain => cases plain <;> exact absurd hupdates (of_decide_eq_true rfl)
  | command identity mutation =>
    cases mutation with
    | beginWorkspaceMaterialization workspaceId expected =>
      obtain ⟨row, hmove, hunused⟩ := beginWorkspaceMaterialization_advances hc
      exact hmoved hmove fun _ => .began hunused
    | completeWorkspaceMaterialization workspaceId expected base =>
      obtain ⟨row, hmove, hphase, hbase⟩ := completeWorkspaceMaterialization_advances hc
      exact hmoved hmove fun hid => .completed (by rw [hid]) hphase hbase
    | failWorkspaceMaterialization workspaceId expected observed =>
      obtain ⟨row, hmove, hunused⟩ := failWorkspaceMaterialization_advances hc
      exact hmoved hmove fun _ => .failed hunused
    | freezeWorkspace authority taskId outputSlot workspaceId expected =>
      obtain ⟨row, hmove, hready⟩ := freezeWorkspace_advances hc
      exact hmoved hmove fun _ => .froze hready
    | _ => exact absurd hupdates (of_decide_eq_true rfl)

/-- A new Workspace is one that was opened. -/
theorem apply_workspace_new {op : StoreOp D} {ambient : Ambient} {d : Db D} {id : String}
    {new : Workspace} (h : (op.apply ambient d).find .workspaces id = some new)
    (hnone : d.find .workspaces id = none) : ∃ binding, new = openedWorkspace binding := by
  obtain ⟨r, d₁, hc, hinserts, hopened, -⟩ := apply_row_new (by decide) h hnone
  cases op with
  | write plain => cases plain <;> exact absurd hinserts (of_decide_eq_true rfl)
  | command identity mutation =>
    cases mutation with
    | openWorkspace workspaceId binding =>
      rw [(openWorkspace_commits hc).2] at hopened
      split at hopened
      · exact ⟨binding, (Option.some.inj hopened).symm⟩
      · cases hnone.symm.trans hopened
    | _ => exact absurd hinserts (of_decide_eq_true rfl)

/-! ## Whole runs -/

/-- The same Workspace: what it was opened for. -/
structure SameWorkspace (old new : Workspace) : Prop where
  task : new.taskId = old.taskId
  repository : new.repository = old.repository
  source : new.sourcePath = old.sourcePath
  requested : new.requestedBase = old.requestedBase
  resolved : new.resolvedBase = old.resolvedBase

theorem SameWorkspace.refl (w : Workspace) : SameWorkspace w w := ⟨rfl, rfl, rfl, rfl, rfl⟩

theorem SameWorkspace.trans {a b c : Workspace} (h : SameWorkspace a b) (h' : SameWorkspace b c) :
    SameWorkspace a c :=
  ⟨h'.task.trans h.task, h'.repository.trans h.repository, h'.source.trans h.source,
    h'.requested.trans h.requested, h'.resolved.trans h.resolved⟩

omit [DecidableEq D] in
theorem WorkspaceMove.same {op : StoreOp D} {id : String} {old new : Workspace}
    (h : WorkspaceMove op id old new) : SameWorkspace old new := by
  cases h <;> exact ⟨rfl, rfl, rfl, rfl, rfl⟩

omit [DecidableEq D] in
theorem WorkspaceMove.mutable {op : StoreOp D} {id : String} {old new : Workspace}
    (h : WorkspaceMove op id old new) (hold : old.phase.hasBeenMutable = true) :
    new.phase.hasBeenMutable = true := by
  cases h with
  | kept => exact hold
  | began unused => simp [unused] at hold
  | completed => rfl
  | failed unused => simp [unused] at hold
  | froze => rfl

theorem steps_workspace {cond : Db D → StoreOp D → Prop} {d d' : Db D}
    (hrun : Run.Steps cond d d') {id : String} {old : Workspace}
    (h : d.find .workspaces id = some old) :
    ∃ new, d'.find .workspaces id = some new ∧ SameWorkspace old new ∧
      (old.phase.hasBeenMutable = true → new.phase.hasBeenMutable = true) := by
  refine hrun.invariant (P := fun e => ∃ new, e.find .workspaces id = some new ∧
    SameWorkspace old new ∧ (old.phase.hasBeenMutable = true → new.phase.hasBeenMutable = true))
    ⟨old, h, .refl old, fun hm => hm⟩ ?_
  rintro e op ambient ⟨row, hrow, hsame, hmutable⟩ -
  obtain ⟨new, hnew, hmove⟩ := apply_workspace op ambient hrow
  exact ⟨new, hnew, hsame.trans hmove.same, fun hm => hmove.mutable (hmutable hm)⟩

/-- On the way from `d₀` to `d` one transaction took the Workspace from Materializing to Ready,
    with a verified base that was the bound one. -/
def VerifiedReady (d₀ d : Db D) (id resolvedBase : String) : Prop :=
  ∃ e ambient identity expected, ∃ base : ResolvedBase, base.text = resolvedBase ∧
    Run.Steps anyStep d₀ e ∧
    (∃ before, e.find .workspaces id = some before ∧ before.phase = .Materializing) ∧
    (∃ after, (StoreOp.apply (.command identity
      (.completeWorkspaceMaterialization id expected base)) ambient e).find .workspaces id =
        some after ∧ after.phase = .Ready) ∧
    Run.Steps anyStep (StoreOp.apply (.command identity
      (.completeWorkspaceMaterialization id expected base)) ambient e) d

theorem VerifiedReady.step {d₀ : Db D} {base : String} (h : VerifiedReady d₀ d id base)
    (op : StoreOp D) (ambient : Ambient) : VerifiedReady d₀ (op.apply ambient d) id base := by
  obtain ⟨e, amb, identity, expected, verified, htext, hbefore, hold, hnew, hafter⟩ := h
  exact ⟨e, amb, identity, expected, verified, htext, hbefore, hold, hnew,
    .step hafter op ambient trivial⟩

/-- A Workspace that is Ready or Frozen is present, and its base was verified on the way. -/
theorem steps_verified {d₀ d : Db D} (h₀ : Installed d₀) (hrun : Run.Steps anyStep d₀ d)
    {id : String} {w : Workspace} (hw : d.find .workspaces id = some w)
    (hphase : w.phase = .Ready ∨ w.phase = .Frozen) :
    w.materialization = .Present ∧ VerifiedReady d₀ d id w.resolvedBase := by
  induction hrun generalizing w with
  | refl =>
    rw [h₀.find_none (by decide)] at hw
    cases hw
  | @step e before op ambient admitted ih =>
    cases hold : e.find .workspaces id with
    | none =>
      obtain ⟨binding, rfl⟩ := apply_workspace_new hw hold
      rcases hphase with hready | hfrozen
      · cases hready
      · cases hfrozen
    | some old =>
      obtain ⟨new, hnew, hmove⟩ := apply_workspace op ambient hold
      obtain rfl := Option.some.inj (hnew.symm.trans hw)
      cases hmove with
      | kept =>
        obtain ⟨hpresent, hverified⟩ := ih hold hphase
        exact ⟨hpresent, hverified.step op ambient⟩
      | began unused =>
        rcases hphase with hready | hfrozen
        · cases hready
        · cases hfrozen
      | @completed identity expected base named materializing verified =>
        subst named
        exact ⟨rfl, e, ambient, identity, expected, base, verified, before,
          ⟨old, hold, materializing⟩, ⟨_, hnew, rfl⟩, .refl⟩
      | failed unused =>
        rcases hphase with hready | hfrozen
        · cases hready
        · cases hfrozen
      | froze ready => exact ⟨rfl, (ih hold (.inl ready)).2.step op ambient⟩

omit [DigestScheme D] in
/-- A Task has at most one Workspace that is not Released. -/
theorem one_current_workspace {a b : String} {wA wB : Workspace}
    (ha : d.find .workspaces a = some wA) (hb : d.find .workspaces b = some wB)
    (htask : wA.taskId = wB.taskId) (hA : wA.phase ≠ .Released) (hB : wB.phase ≠ .Released) :
    a = b := by
  by_contra hne
  have hclash := State.clash_of_find ha hb hne
  simp [clash, htask, hA, hB] at hclash

/-- The life of every Workspace in every run: what it was opened for never changes, a Task has
    one current Workspace at most, Ready and Frozen are verified, and a Workspace that has been
    Ready is never again Requested, Materializing or Error. -/
theorem workspace_life {d₀ d d' : Db D} (h₀ : Installed d₀) (hrun : Run.Steps anyStep d₀ d)
    (hlater : Run.Steps anyStep d d') :
    (∀ id w, d.find .workspaces id = some w → ∃ w', d'.find .workspaces id = some w' ∧
      SameWorkspace w w' ∧ (w.phase = .Ready →
        w'.phase ≠ .Requested ∧ w'.phase ≠ .Materializing ∧ w'.phase ≠ .Error)) ∧
    (∀ a b wA wB, d.find .workspaces a = some wA → d.find .workspaces b = some wB →
      wA.taskId = wB.taskId → wA.phase ≠ .Released → wB.phase ≠ .Released → a = b) ∧
    ∀ id w, d.find .workspaces id = some w → w.phase = .Ready ∨ w.phase = .Frozen →
      w.materialization = .Present ∧ VerifiedReady d₀ d id w.resolvedBase := by
  refine ⟨fun id w hw => ?_, fun a b wA wB => one_current_workspace,
    fun id w => steps_verified h₀ hrun⟩
  obtain ⟨w', hw', hsame, hmutable⟩ := steps_workspace hlater hw
  refine ⟨w', hw', hsame, fun hready => ?_⟩
  have hstill := hmutable (by rw [hready]; rfl)
  refine ⟨?_, ?_, ?_⟩ <;>
  · intro hphase
    rw [hphase] at hstill
    cases hstill

namespace Sample

theorem dispatched_workspace_ready : ∃ d ∈ runAll installed dispatched.dropLast,
    ∃ w ∈ d.find .workspaces "workspace", w.phase = .Ready := by
  decide +kernel

end Sample

/-- A second materialization of the Ready Workspace is tried. -/
theorem workspace_life_dispatched : ∃ d w w', Reachable d ∧
    d.find .workspaces "workspace" = some w ∧ w.phase = .Ready ∧ w.materialization = .Present ∧
    VerifiedReady Sample.installed d "workspace" w.resolvedBase ∧
    ((Sample.call 'h' (.beginWorkspaceMaterialization "workspace" 3)).2.apply (Sample.ambient 'h')
      d).find .workspaces "workspace" = some w' ∧ w'.phase ≠ .Materializing := by
  obtain ⟨d, hd, w, hw, hphase⟩ := Sample.dispatched_workspace_ready
  obtain ⟨hlife, -, hverified⟩ := workspace_life Sample.installed_installed (runAll_steps .refl hd)
    (.step .refl (Sample.call 'h' (.beginWorkspaceMaterialization "workspace" 3)).2
      (Sample.ambient 'h') trivial)
  obtain ⟨w', hw', -, hnever⟩ := hlife "workspace" w hw
  obtain ⟨hpresent, hbase⟩ := hverified "workspace" w hw (.inl hphase)
  exact ⟨d, w, w', Sample.reachable_of_runAll hd, hw, hphase, hpresent, hbase, hw',
    (hnever hphase).2.1⟩

end Pantheon
