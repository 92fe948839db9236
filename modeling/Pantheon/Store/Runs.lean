/-
  Runs over whole histories of the store: the one execution slot, terminal phases, and the
  agreement between a Task and its Run.
  The slot is a matter of the schema and of the scheduler's revision, so it needs no condition
  on the calls. The other two rest on `concludeRun`, which compares a revision and nothing
  else: terminal Runs are absorbing in the runs that conclude no Run twice or against a chosen
  target, and Tasks agree with their Runs in the runs that conclude no Run under an Active Task.
-/
import Pantheon.Store.Moves

namespace Pantheon

open Relational

variable {D : Type} [DecidableEq D]

/-! ## The execution slot -/

variable {d d' : Db D} {id : String}

/-- The checks of `run_status`: the slot is held exactly by the phases that are not terminal. -/
theorem slot_of_phase {status : RunStatus D} (h : d.find .runStatus id = some status) :
    status.activeSlot = if status.phase.isNonterminal then some "global" else none := by
  have hcheck := State.check_of_find h
  simp only [check, decide_eq_true_eq] at hcheck
  exact hcheck.2.2.2

/-- The unique index on the slot: one Run in the whole installation is not terminal. -/
theorem nonterminal_unique {id' : String} {status status' : RunStatus D}
    (h : d.find .runStatus id = some status) (h' : d.find .runStatus id' = some status')
    (hlive : status.phase.isNonterminal = true) (hlive' : status'.phase.isNonterminal = true) :
    id = id' := by
  by_contra hne
  have hclash := State.clash_of_find h h' hne
  simp [clash, slot_of_phase h, slot_of_phase h', hlive, hlive'] at hclash

variable [DigestScheme D]

namespace Sample

def conclude (c : Char) (target : RunPhase) (expected : Int) : Ambient × StoreOp PrefixDigest :=
  (ambient c, .write (.concludeRun "run" target expected))

/-- The Task is Active and points to the Run, which is in this phase. -/
def RunStands (phase : RunPhase) (d : Store) : Prop :=
  (∃ t ∈ d.find .tasks "task", t.phase = .Active ∧ t.activeRunId = some "run") ∧
    ∃ r ∈ d.find .runStatus "run", r.phase = phase ∧ r.taskId = "task"

instance (phase : RunPhase) : DecidablePred (RunStands phase) :=
  fun _ => inferInstanceAs (Decidable (_ ∧ _))

/-- The dispatched Run concluded as Failed, and the Failed Run concluded as Cancelled. -/
theorem concluded_twice : ∃ d ∈ runAll installed dispatched, RunStands .Active d ∧
    ∃ d' ∈ runAll d [conclude 'i' .Failed 1], RunStands .Failed d' ∧
      ∃ d'' ∈ runAll d' [conclude 'j' .Cancelled 2], RunStands .Cancelled d'' := by
  decide +kernel

end Sample

/-! ## Terminal Runs -/

/-- No Run is concluded that is terminal in another phase, or whose target is Completed. -/
def ConcludesUndecided (d : Db D) (op : StoreOp D) : Prop :=
  ∀ runId target status, op = .write (.concludeRun runId target status.revision) →
    (target = .Failed ∨ target = .Cancelled) → d.find .runStatus runId = some status →
    (status.phase.isNonterminal = true ∨ status.phase = target) ∧
      status.terminalTarget ≠ some .Completed

/-- A Run that is terminal stands where its target is. -/
def TerminalTargeted (d : Db D) : Prop :=
  ∀ id status, d.find .runStatus id = some status → status.phase.isNonterminal = false →
    status.terminalTarget = some status.phase

theorem apply_terminalTargeted (op : StoreOp D) (ambient : Ambient) (h : TerminalTargeted d) :
    TerminalTargeted (op.apply ambient d) := by
  intro id status hstatus hterminal
  cases hold : d.find .runStatus id with
  | none =>
    obtain ⟨-, taskId, rfl⟩ := apply_runStatus_new hstatus hold
    cases hterminal
  | some old =>
    obtain ⟨new, hnew, hmove⟩ := apply_runStatus op ambient hold
    obtain rfl := Option.some.inj (hnew.symm.trans hstatus)
    cases hmove with
    | kept => exact h id _ hold hterminal
    | attempted _ _ _ _ hactive => simp [hactive, RunPhase.isNonterminal] at hterminal
    | submitted => cases hterminal
    | concluded => rfl

theorem reachable_terminalTargeted (h : Reachable d) : TerminalTargeted d := by
  obtain ⟨d₀, hinstalled, hrun⟩ := h
  refine hrun.invariant (P := TerminalTargeted) (fun id status hstatus => ?_)
    fun e op ambient he _ => apply_terminalTargeted op ambient he
  rw [hinstalled.find_none (by decide)] at hstatus
  cases hstatus

/-- What a later status keeps of an earlier one. -/
structure Absorbed (old new : RunStatus D) : Prop where
  terminal : old.phase.isNonterminal = false →
    new.phase = old.phase ∧ new.terminalTarget = old.terminalTarget ∧
      new.candidateDigest = old.candidateDigest ∧ new.activeSlot = old.activeSlot
  completed : old.terminalTarget = some .Completed → new.terminalTarget = some .Completed

omit [DecidableEq D] [DigestScheme D] in
theorem Absorbed.refl (status : RunStatus D) : Absorbed status status :=
  ⟨fun _ => ⟨rfl, rfl, rfl, rfl⟩, id⟩

omit [DecidableEq D] [DigestScheme D] in
theorem Absorbed.trans {a b c : RunStatus D} (h : Absorbed a b) (h' : Absorbed b c) :
    Absorbed a c := by
  refine ⟨fun hterminal => ?_, fun hcompleted => h'.completed (h.completed hcompleted)⟩
  obtain ⟨hphase, htarget, hcandidate, hslot⟩ := h.terminal hterminal
  obtain ⟨hphase', htarget', hcandidate', hslot'⟩ := h'.terminal (hphase ▸ hterminal)
  exact ⟨hphase'.trans hphase, htarget'.trans htarget, hcandidate'.trans hcandidate,
    hslot'.trans hslot⟩

theorem RunMove.absorbed {op : StoreOp D} {old new : RunStatus D} (hmove : RunMove op id old new)
    (hold : d.find .runStatus id = some old) (htargeted : TerminalTargeted d)
    (hop : ConcludesUndecided d op) : Absorbed old new := by
  cases hmove with
  | kept => exact .refl old
  | attempted _ _ _ _ hactive =>
    exact ⟨fun hterminal => by simp [hactive, RunPhase.isNonterminal] at hterminal, fun h => h⟩
  | submitted _ _ hactive =>
    exact ⟨fun hterminal => by simp [hactive, RunPhase.isNonterminal] at hterminal, fun _ => rfl⟩
  | concluded target hcall htarget =>
    obtain ⟨hphase, hundecided⟩ := hop id target old hcall htarget hold
    refine ⟨fun hterminal => ?_, fun hcompleted => absurd hcompleted hundecided⟩
    have hsame : old.phase = target := hphase.resolve_left (by simp [hterminal])
    have hslot := slot_of_phase hold
    rw [hterminal] at hslot
    exact ⟨hsame.symm, by rw [htargeted id old hold hterminal, hsame]; rfl, rfl, hslot.symm⟩

/-- In every run in which no Run is concluded after it is terminal elsewhere or bound for
    Completed, a terminal Run keeps its phase, target, Candidate and slot, and a target of
    Completed is kept. -/
theorem terminal_runs_stay {d d' : Db D} (h : Reachable d)
    (hrun : Run.Steps ConcludesUndecided d d') {id : String} {status : RunStatus D}
    (hstatus : d.find .runStatus id = some status) :
    ∃ status', d'.find .runStatus id = some status' ∧
      (status.phase.isNonterminal = false →
        status'.phase = status.phase ∧ status'.terminalTarget = status.terminalTarget ∧
          status'.candidateDigest = status.candidateDigest ∧
          status'.activeSlot = status.activeSlot) ∧
      (status.terminalTarget = some .Completed → status'.terminalTarget = some .Completed) := by
  have hkept := hrun.invariant
    (P := fun e => TerminalTargeted e ∧
      ∃ new, e.find .runStatus id = some new ∧ Absorbed status new)
    ⟨reachable_terminalTargeted h, status, hstatus, .refl status⟩ ?_
  · obtain ⟨-, new, hnew, habsorbed⟩ := hkept
    exact ⟨new, hnew, habsorbed.terminal, habsorbed.completed⟩
  · rintro e op ambient ⟨htargeted, old, hold, habsorbed⟩ hop
    obtain ⟨new, hnew, hmove⟩ := apply_runStatus op ambient hold
    exact ⟨apply_terminalTargeted op ambient htargeted, new, hnew,
      habsorbed.trans (hmove.absorbed hold htargeted hop)⟩

theorem terminal_runs_stay_failed : ∃ d d' status status',
    d.find .runStatus "run" = some status ∧ status.phase = .Failed ∧
    d' = Sample.cancel.2.apply Sample.cancel.1 d ∧
    d'.find .runStatus "run" = some status' ∧ status'.phase = .Failed := by
  obtain ⟨d, hd, -, d', hd', ⟨-, status, hstatus, hphase, -⟩, -⟩ := Sample.concluded_twice
  have hreachable : Reachable d' :=
    ⟨_, Sample.installed_installed, runAll_steps (runAll_steps .refl hd) hd'⟩
  obtain ⟨status', hstatus', hkept, -⟩ := terminal_runs_stay hreachable
    (.step .refl Sample.cancel.2 Sample.cancel.1 fun _ _ _ hop => (nomatch hop)) hstatus
  exact ⟨d', _, status, status', hstatus, hphase, rfl, hstatus',
    (hkept (by rw [hphase]; rfl)).1.trans hphase⟩

/-- A Failed Run is concluded again, as Cancelled. -/
theorem terminal_run_rewritten : ∃ (d d' : Sample.Store) (status status' : RunStatus PrefixDigest),
    Reachable d ∧ Run.Steps anyStep d d' ∧ d.find .runStatus "run" = some status ∧
    status.phase = .Failed ∧ d'.find .runStatus "run" = some status' ∧
    status'.phase = .Cancelled := by
  obtain ⟨d, hd, -, d', hd', ⟨-, status, hstatus, hphase, -⟩, d'', hd'', -, status', hstatus', hphase',
    -⟩ := Sample.concluded_twice
  exact ⟨d', d'', status, status',
    ⟨_, Sample.installed_installed, runAll_steps (runAll_steps .refl hd) hd'⟩,
    runAll_steps .refl hd'', hstatus, hphase, hstatus', hphase'⟩

/-! ## Tasks and their Runs -/

/-- The Run a Task points to belongs to it. -/
def OwnsRun (d : Db D) (id : String) (task : Task D) (run : String) (status : RunStatus D) : Prop :=
  task.activeRunId = some run ∧ d.find .runStatus run = some status ∧ status.taskId = id

/-- A Task agrees with the Runs: an Active one has a Run that is not terminal, an Evaluating
    one a Run of its own, and a Ready one none that is not terminal. -/
structure TaskCoherent (d : Db D) (id : String) (task : Task D) : Prop where
  active : task.phase = .Active →
    ∃ run status, OwnsRun d id task run status ∧ status.phase.isNonterminal = true
  evaluating : task.phase = .Evaluating → ∃ run status, OwnsRun d id task run status
  ready : task.phase = .Ready → ∀ run status, d.find .runStatus run = some status →
    status.phase.isNonterminal = true → status.taskId ≠ id

/-- Every Task agrees with the Runs, and every Run has its Task. -/
structure TasksCoherent (d : Db D) : Prop where
  owner : ∀ run status, d.find .runStatus run = some status → d.find .tasks status.taskId ≠ none
  coherent : ∀ id task, d.find .tasks id = some task → TaskCoherent d id task

omit [DigestScheme D] in
/-- What a step may do to the Tasks and Runs and leave them in agreement. A Run keeps its Task,
    does not become live again, does not end under an Active Task, and where it is new its Task
    is no longer Ready; a Task that is not as it was agrees with the Runs after the step. -/
theorem TasksCoherent.moved (h : TasksCoherent d)
    (hgrown : ∀ id, d.find .tasks id ≠ none → d'.find .tasks id ≠ none)
    (hback : ∀ run status', d'.find .runStatus run = some status' →
      (∃ status, d.find .runStatus run = some status ∧ status'.taskId = status.taskId ∧
        (status'.phase.isNonterminal = true → status.phase.isNonterminal = true)) ∨
      ∃ task, d'.find .tasks status'.taskId = some task ∧ task.phase ≠ .Ready)
    (hforth : ∀ run status, d.find .runStatus run = some status → ∃ status',
      d'.find .runStatus run = some status' ∧ status'.taskId = status.taskId ∧
        ∀ task, d.find .tasks status.taskId = some task → task.phase = .Active →
          status.phase.isNonterminal = true → status'.phase.isNonterminal = true)
    (htasks : ∀ id task, d'.find .tasks id = some task →
      d.find .tasks id = some task ∨ TaskCoherent d' id task) : TasksCoherent d' := by
  refine ⟨fun run status' hstatus' => ?_, fun id task htask' => ?_⟩
  · rcases hback run status' hstatus' with ⟨status, hstatus, hsame, -⟩ | ⟨task, htask, -⟩
    · exact hsame ▸ hgrown _ (h.owner run status hstatus)
    · simp [htask]
  · refine (htasks id task htask').elim (fun htask => ?_) fun hcoherent => hcoherent
    obtain ⟨hactive, hevaluating, hready⟩ := h.coherent id task htask
    refine ⟨fun hphase => ?_, fun hphase => ?_, fun hphase run status' hstatus' hlive => ?_⟩
    · obtain ⟨run, status, ⟨hpoint, hstatus, hid⟩, hlive⟩ := hactive hphase
      obtain ⟨status', hstatus', hsame, hkeeps⟩ := hforth run status hstatus
      exact ⟨run, status', ⟨hpoint, hstatus', hsame.trans hid⟩,
        hkeeps task (hid ▸ htask) hphase hlive⟩
    · obtain ⟨run, status, hpoint, hstatus, hid⟩ := hevaluating hphase
      obtain ⟨status', hstatus', hsame, -⟩ := hforth run status hstatus
      exact ⟨run, status', hpoint, hstatus', hsame.trans hid⟩
    · rcases hback run status' hstatus' with ⟨status, hstatus, hsame, hlives⟩ | ⟨_, hnew, hbusy⟩
      · exact hsame ▸ hready hphase run status hstatus (hlives hlive)
      · rintro rfl
        exact hbusy (Option.some.inj (hnew.symm.trans htask') ▸ hphase)

omit [DigestScheme D] in
/-- The Runs are the same, and each Task is as it was, new, or on its way to an end. -/
theorem TasksCoherent.of_tasks (hruns : d'.table .runStatus = d.table .runStatus)
    (hgrown : ∀ id, d.find .tasks id ≠ none → d'.find .tasks id ≠ none)
    (hafter : ∀ id task', d'.find .tasks id = some task' → d.find .tasks id = some task' ∨
      (d.find .tasks id = none ∧ (task'.phase = .Ready ∨ task'.phase = .Pending)) ∨
      task'.phase = .Finalizing) (h : TasksCoherent d) : TasksCoherent d' := by
  have hfind := State.find_congr hruns
  refine h.moved hgrown
    (fun run status hstatus => .inl ⟨status, (hfind run).symm.trans hstatus, rfl, id⟩)
    (fun run status hstatus => ⟨status, (hfind run).trans hstatus, rfl, fun _ _ _ => id⟩)
    fun id task htask => (hafter id task htask).imp_right fun hnew => ?_
  refine ⟨fun hp => ?_, fun hp => ?_, fun hp run status hstatus _ hid => ?_⟩
  · simp [hp] at hnew
  · simp [hp] at hnew
  · rw [hfind] at hstatus
    exact h.owner run status hstatus (hid ▸ by simpa [hp] using hnew)

omit [DigestScheme D] in
/-- T3 gives its Task the Run it points to. -/
theorem RunIntended.coherent {intent : RunIntent D} {task : Task D} {goal : Goal}
    (hi : RunIntended intent d d' task goal) (h : TasksCoherent d) : TasksCoherent d' := by
  have hrun : d'.find .runStatus intent.runId = some (newRunStatus intent.taskId) := by
    rw [hi.statuses, if_pos rfl]
  refine h.moved (fun id hid => ?_) (fun run status hstatus => ?_) (fun run status hstatus => ?_)
    fun id task' htask' => ?_
  · rw [hi.tasks]
    split
    · simp
    · exact hid
  · rw [hi.statuses] at hstatus
    split at hstatus
    · obtain rfl := Option.some.inj hstatus
      exact .inr ⟨_, (hi.tasks intent.taskId).trans (if_pos rfl), nofun⟩
    · exact .inl ⟨status, hstatus, rfl, id⟩
  · refine ⟨status, ?_, rfl, fun _ _ _ => id⟩
    rw [hi.statuses, if_neg, hstatus]
    rintro rfl
    cases hi.status_new.symm.trans hstatus
  · rw [hi.tasks] at htask'
    split at htask'
    · rename_i hid
      obtain rfl := Option.some.inj htask'
      exact .inr ⟨fun _ => ⟨_, _, ⟨rfl, hrun, hid⟩, rfl⟩, nofun, nofun⟩
    · exact .inl htask'

/-- T6 moves a Task and the Run it points to together. -/
theorem Submitted.coherent {s : CandidateSubmission D}
    {lineage : SubmissionLineage D} {run : RunStatus D} {task : Task D} {goal : Goal}
    (hs : Submitted s d d' lineage run task goal) (h : TasksCoherent d) : TasksCoherent d' := by
  have hfound := hs.authorized.run_found
  refine h.moved (fun id hid => ?_) (fun id status' hstatus' => ?_) (fun id status hstatus => ?_)
    fun id task' htask' => ?_
  · rw [hs.tasks]
    split
    · simp
    · exact hid
  · rw [hs.statuses] at hstatus'
    split at hstatus'
    · rename_i hid
      obtain rfl := Option.some.inj hstatus'
      exact .inl ⟨run, hid ▸ hfound, rfl, fun _ => by rw [hs.authorized.run_active]; rfl⟩
    · exact .inl ⟨status', hstatus', rfl, fun hlive => hlive⟩
  · rw [hs.statuses]
    split
    · rename_i hid
      obtain rfl := Option.some.inj ((hid ▸ hfound).symm.trans hstatus)
      exact ⟨_, rfl, rfl, fun _ _ _ _ => rfl⟩
    · exact ⟨status, hstatus, rfl, fun _ _ _ hlive => hlive⟩
  · rw [hs.tasks] at htask'
    split at htask'
    · rename_i hid
      obtain rfl := Option.some.inj htask'
      exact .inr ⟨nofun, fun _ => ⟨lineage.runId, _, hs.authorized.task_responsible,
        (hs.statuses _).trans (if_pos rfl), hs.authorized.run_task.trans hid⟩, nofun⟩
    · exact .inl htask'

/-- No Run is concluded whose Task is Active. -/
def ConcludesInactive (d : Db D) (op : StoreOp D) : Prop :=
  ∀ runId target status task, op = .write (.concludeRun runId target status.revision) →
    (target = .Failed ∨ target = .Cancelled) → d.find .runStatus runId = some status →
    d.find .tasks status.taskId = some task → task.phase ≠ .Active

/-- A step that writes no Task and adds no Run moves each Run's status in place. -/
theorem moved_coherent {op : StoreOp D} {ambient : Ambient} {d : Db D} (h : TasksCoherent d)
    (hop : ConcludesInactive d op)
    (htasks : (op.apply ambient d).table .tasks = d.table .tasks)
    (hclosed : ∀ run, d.find .runStatus run = none →
      (op.apply ambient d).find .runStatus run = none) :
    TasksCoherent (op.apply ambient d) := by
  refine h.moved (fun id hid => by rwa [State.find_congr htasks])
    (fun run status' hstatus' => .inl ?_) (fun run status hstatus => ?_)
    fun id task htask => .inl (by rwa [State.find_congr htasks] at htask)
  · obtain ⟨status, hstatus⟩ := Option.ne_none_iff_exists'.mp
      fun hnone => by simp [hclosed run hnone] at hstatus'
    obtain ⟨new, hnew, hmove⟩ := apply_runStatus op ambient hstatus
    obtain rfl := Option.some.inj (hnew.symm.trans hstatus')
    exact ⟨status, hstatus, hmove.taskId, hmove.live⟩
  · obtain ⟨new, hnew, hmove⟩ := apply_runStatus op ambient hstatus
    refine ⟨new, hnew, hmove.taskId, fun task htask hactive hlive => ?_⟩
    rcases hmove.ended hlive with hlives | ⟨target, hcall, htarget⟩
    · exact hlives
    · exact absurd hactive (hop run target status task hcall htarget hstatus htask)

theorem apply_coherent {op : StoreOp D} {ambient : Ambient} {d : Db D} (h : TasksCoherent d)
    (hop : ConcludesInactive d op) : TasksCoherent (op.apply ambient d) := by
  rcases apply_cases op ambient d with hsame | ⟨r, hran⟩
  · rwa [hsame]
  obtain ⟨d₁, hc, hframe⟩ := hran.commits
  have hledger : TasksCoherent d₁ → TasksCoherent (op.apply ambient d) := by
    have htasks := State.find_congr (hframe .tasks (by decide))
    exact TasksCoherent.of_tasks (hframe .runStatus (by decide)) (fun id hid => by rwa [htasks])
      fun id task htask => .inl (by rwa [htasks] at htask)
  have hclosed : .runStatus ∉ op.body.access.inserts → ∀ run, d.find .runStatus run = none →
      (op.apply ambient d).find .runStatus run = none := fun hi run hnone => by
    rw [State.find_congr (hframe .runStatus (by decide))]
    exact hc.within.closed .runStatus hi run hnone
  cases op with
  | command identity mutation =>
    cases mutation with
    | commitRunIntent intent =>
      obtain ⟨task, goal, hi⟩ := applyRunIntent_commits hc
      exact hledger (hi.coherent h)
    | materializePlan operationId taskId plan =>
      obtain ⟨row, goal, task, hm⟩ := materializePlan_commits hc
      refine hledger (h.of_tasks
        (hc.within.same _ (of_decide_eq_true rfl) (of_decide_eq_true rfl))
        (fun id hid => hc.within.grown .tasks id hid) fun id task' htask' => ?_)
      rw [hm.tasks] at htask'
      split at htask'
      · rename_i hid
        obtain rfl := Option.some.inj htask'
        exact .inr (.inl ⟨hid ▸ hm.task_new, hm.task_phase⟩)
      · exact .inl htask'
    | cancelGoal goalId =>
      refine hledger (h.of_tasks
        (hc.within.same _ (of_decide_eq_true rfl) (of_decide_eq_true rfl))
        (fun id hid => hc.within.grown .tasks id hid) fun id task' htask' => ?_)
      rw [(cancelGoal_commits hc).tasks] at htask'
      obtain ⟨task, htask, rfl⟩ := Option.map_eq_some_iff.mp htask'
      unfold Task.fenced
      split
      · split
        · exact .inl htask
        · exact .inr (.inr rfl)
      · exact .inl htask
    | _ => exact moved_coherent h hop (hran.same .tasks (by decide) rfl)
             (hclosed (of_decide_eq_true rfl))
  | write plain =>
    cases plain with
    | submitCandidate s =>
      rcases applyCandidateSubmission_commits hc with rfl | ⟨lineage, run, task, goal, hs⟩
      · exact hledger h
      · exact hledger (hs.coherent h)
    | _ => exact moved_coherent h hop (hran.same .tasks (by decide) rfl)
             (hclosed (of_decide_eq_true rfl))

/-- In every run that concludes no Run whose Task is Active: an Active Task has exactly one Run
    that is not terminal, the one it points to; an Evaluating Task points to a Run of its own;
    and a Ready Task has no Run that is not terminal. -/
theorem tasks_match_runs {d₀ d : Db D} (hinstalled : Installed d₀)
    (hrun : Run.Steps ConcludesInactive d₀ d) {id : String} {task : Task D}
    (htask : d.find .tasks id = some task) :
    (task.phase = .Active → ∃ run status, task.activeRunId = some run ∧
      d.find .runStatus run = some status ∧ status.taskId = id ∧
      status.phase.isNonterminal = true ∧
      ∀ run' status', d.find .runStatus run' = some status' → status'.taskId = id →
        status'.phase.isNonterminal = true → run' = run) ∧
    (task.phase = .Evaluating → ∃ run status, task.activeRunId = some run ∧
      d.find .runStatus run = some status ∧ status.taskId = id) ∧
    (task.phase = .Ready → ∀ run status, d.find .runStatus run = some status →
      status.taskId = id → status.phase.isNonterminal = false) := by
  have hcoherent := hrun.invariant (P := TasksCoherent) ?_
    fun e op ambient he hop => apply_coherent he hop
  · obtain ⟨hactive, hevaluating, hready⟩ := hcoherent.coherent id task htask
    refine ⟨fun hp => ?_, hevaluating, fun hp run status hstatus hid => ?_⟩
    · obtain ⟨run, status, ⟨hpoint, hstatus, hid⟩, hlive⟩ := hactive hp
      exact ⟨run, status, hpoint, hstatus, hid, hlive, fun run' status' hstatus' _ hlive' =>
        nonterminal_unique hstatus' hstatus hlive' hlive⟩
    · by_contra hlive
      exact hready hp run status hstatus (by simpa using hlive) hid
  · refine ⟨fun run status hstatus => ?_, fun id task htask => ?_⟩
    · rw [hinstalled.find_none (by decide)] at hstatus
      cases hstatus
    · rw [hinstalled.find_none (by decide)] at htask
      cases htask

theorem tasks_match_runs_dispatched : ∃ d task run, runAll Sample.installed Sample.dispatched = some d ∧
    d.find .tasks "task" = some task ∧ task.phase = .Active ∧ task.activeRunId = some run ∧
    ∃ status, d.find .runStatus run = some status ∧ status.phase.isNonterminal = true := by
  obtain ⟨d, hd, ⟨⟨task, htask, hphase, -⟩, -⟩, -⟩ := Sample.concluded_twice
  have hcommands : ∀ call ∈ Sample.dispatched, ∀ e, ConcludesInactive e call.2 := by
    simp [Sample.dispatched, Sample.planned, Sample.materialize, Sample.call, ConcludesInactive]
  obtain ⟨run, status, hpoint, hstatus, -, hlive, -⟩ :=
    (tasks_match_runs Sample.installed_installed (runAll_admitted .refl hcommands hd) htask).1 hphase
  exact ⟨d, task, run, hd, htask, hphase, hpoint, status, hstatus, hlive⟩

/-- A Run is concluded as Failed and its Task stays Active, pointing to it. -/
theorem task_outlives_run : ∃ (d : Sample.Store) (task : Task PrefixDigest)
    (status : RunStatus PrefixDigest), Reachable d ∧ d.find .tasks "task" = some task ∧
    task.phase = .Active ∧ task.activeRunId = some "run" ∧ d.find .runStatus "run" = some status ∧
    status.phase = .Failed ∧ status.taskId = "task" := by
  obtain ⟨d, hd, -, d', hd', ⟨⟨task, htask, hactive, hpoint⟩, status, hrest⟩, -⟩ :=
    Sample.concluded_twice
  exact ⟨d', task, status, ⟨_, Sample.installed_installed, runAll_steps (runAll_steps .refl hd) hd'⟩,
    htask, hactive, hpoint, hrest⟩

end Pantheon
