/-
  Goal cancellation over whole runs of the store.
  `TaskMove` says once how any step can change a Task's row. From it: a Goal turned towards
  Cancelled stays so and none of its Tasks is Active again, hence no dispatch, submission,
  freeze, seal validation or publication executes afresh for them. That every Task stays
  fenced holds only in runs without a materialization under a Goal that is Finalizing:
  `materializePlan` does not read the Goal's phase. Launches stop after a cancellation that
  found none of the Goal's Runs Active: T4 and T4b read the Run and never its Task or Goal.
-/
import Pantheon.Store.Moves

namespace Pantheon

open Relational

variable {D : Type} [DecidableEq D] [DigestScheme D]

/-! ## How a Task can move -/

/-- The changes of one existing Task in one step. -/
inductive TaskMove (d : Db D) (t : Task D) : Task D → Prop where
  | stays : TaskMove d t t
  | fenced : TaskMove d t t.fenced
  | dispatched (goal : Goal) (run : String) (ready : t.phase = .Ready)
      (found : d.find .goals t.goalId = some goal) (dispatchable : goal.phase.isDispatchable = true) :
      TaskMove d t { t with phase := .Active, activeRunId := some run, revision := t.revision + 1 }
  | submitted (active : t.phase = .Active) :
      TaskMove d t { t with phase := .Evaluating, revision := t.revision + 1 }

/-- A step that is a materialization for `taskId`, of an operation of `goalId`. -/
def Materializes (op : StoreOp D) (d : Db D) (taskId goalId : String) : Prop :=
  ∃ identity operationId plan row, op = .command identity (.materializePlan operationId taskId plan) ∧
    d.find .planningOperations operationId = some row ∧ row.goalId = goalId

/-- A Task's row after a step: moved from the row before, or newly materialized. -/
def TaskAfter (op : StoreOp D) (d : Db D) (id : String) (t' : Task D) : Prop :=
  (∃ t, d.find .tasks id = some t ∧ TaskMove d t t') ∨
    (d.find .tasks id = none ∧ Materializes op d id t'.goalId ∧
      (t'.phase = .Ready ∨ t'.phase = .Pending))

variable {op : StoreOp D} {d d' : Db D} {id taskId : String} {t' t : Task D} {identity : Command D}
  {ambient : Ambient}

theorem taskAfter_materialize {operationId : String} {plan : ValidPlan D} {r : MaterializedPlan D}
    (hc : (materializePlan ambient.now operationId taskId plan.plan).Commits d r d')
    (h : d'.find .tasks id = some t') :
    TaskAfter (.command identity (.materializePlan operationId taskId plan)) d id t' := by
  obtain ⟨row, goal, task, hm⟩ := materializePlan_commits hc
  rw [hm.tasks] at h
  split at h
  · rename_i hid
    obtain rfl := Option.some.inj h
    subst hid
    exact .inr ⟨hm.task_new, ⟨identity, operationId, plan, row, rfl, hm.planned,
      hm.task_goal.symm⟩, hm.task_phase⟩
  · exact .inl ⟨t', h, .stays⟩

theorem taskAfter_cancel {goalId : String} {r : Cancellation}
    (hc : (cancelGoal goalId).Commits d r d') (h : d'.find .tasks id = some t') :
    TaskAfter op d id t' := by
  rw [(cancelGoal_commits hc).tasks] at h
  obtain ⟨t, ht, rfl⟩ := Option.map_eq_some_iff.mp h
  refine .inl ⟨t, ht, ?_⟩
  split
  · exact .fenced
  · exact .stays

theorem taskAfter_intent {intent : RunIntent D} {r : RunIntentCommit}
    (hc : (applyRunIntent intent).Commits d r d') (h : d'.find .tasks id = some t') :
    TaskAfter op d id t' := by
  obtain ⟨task, goal, hi⟩ := applyRunIntent_commits hc
  rw [hi.tasks] at h
  split at h
  · rename_i hid
    obtain rfl := Option.some.inj h
    subst hid
    exact .inl ⟨task, hi.task_found, .dispatched goal _ hi.task_ready (hi.task_goal ▸ hi.goal_found)
      hi.goal_dispatchable⟩
  · exact .inl ⟨t', h, .stays⟩

theorem taskAfter_submit {s : CandidateSubmission D} {r : SubmissionOutcome}
    (hc : (applyCandidateSubmission ambient s).Commits d r d') (h : d'.find .tasks id = some t') :
    TaskAfter op d id t' := by
  rcases applyCandidateSubmission_commits hc with rfl | ⟨lineage, run, task, goal, hs⟩
  · exact .inl ⟨t', h, .stays⟩
  · rw [hs.tasks] at h
    split at h
    · rename_i hid
      obtain rfl := Option.some.inj h
      subst hid
      exact .inl ⟨task, hs.authorized.task_found, .submitted hs.authorized.task_active⟩
    · exact .inl ⟨t', h, .stays⟩

/-- Every step moves each Task's row by a `TaskMove`, or materializes it. -/
theorem apply_task (h : (op.apply ambient d).find .tasks id = some t') : TaskAfter op d id t' := by
  rcases apply_row_before (by decide) h with hold | ⟨r, d₁, hc, htouches, h₁⟩
  · exact .inl ⟨t', hold, .stays⟩
  cases op with
  | command identity mutation =>
    cases mutation with
    | materializePlan => exact taskAfter_materialize hc h₁
    | cancelGoal => exact taskAfter_cancel hc h₁
    | commitRunIntent => exact taskAfter_intent hc h₁
    | _ => cases htouches
  | write plain =>
    cases plain with
    | submitCandidate => exact taskAfter_submit hc h₁
    | _ => cases htouches

/-! ## A cancelled Goal stays cancelled -/

/-- The Goal is turned towards Cancelled. -/
def CancelTargeted (goalId : String) (d : Db D) : Prop :=
  ∃ g, d.find .goals goalId = some g ∧ g.phase = .Finalizing ∧ g.terminalTarget = some .Cancelled

/-- Goal rows are written by creation, materialization and cancellation only, and none of
    them leads away from a cancellation. -/
theorem apply_cancelTargeted {goalId : String} (op : StoreOp D) (ambient : Ambient)
    (h : CancelTargeted goalId d) : CancelTargeted goalId (op.apply ambient d) := by
  obtain ⟨g, hg, hphase⟩ := h
  rcases apply_row op ambient (by decide) hg with hkept | ⟨r, d₁, hc, hupdates, hafter⟩
  · exact ⟨g, hkept, hphase⟩
  cases op with
  | command identity mutation =>
    cases mutation with
    | materializePlan operationId taskId plan =>
      obtain ⟨row, goal, task, hm⟩ := materializePlan_commits hc
      refine ⟨g, hafter.trans ((hm.goals goalId).trans ((if_neg ?_).trans hg)), hphase⟩
      rintro ⟨rfl, hplanning⟩
      obtain rfl := Option.some.inj (hg.symm.trans hm.goal_found)
      rw [hplanning] at hphase
      cases hphase.1
    | cancelGoal other =>
      have hcancelled := cancelGoal_commits hc
      by_cases hid : other = goalId
      · subst hid
        obtain ⟨g', hg', hphase'⟩ := hcancelled.goal
        exact ⟨g', hafter.trans hg', hphase'⟩
      · exact ⟨g, hafter.trans ((hcancelled.others goalId hid).trans hg), hphase⟩
    | _ => exact absurd hupdates (of_decide_eq_true rfl)
  | write plain => cases plain <;> exact absurd hupdates (of_decide_eq_true rfl)

/-- A cancellation that executes afresh turns its Goal and fences its Tasks. -/
theorem cancel_fresh {goalId : String}
    (h : (StoreOp.command identity (.cancelGoal goalId)).Fresh ambient d) :
    CancelTargeted goalId ((StoreOp.command identity (.cancelGoal goalId)).apply ambient d) ∧
      ∀ id t', ((StoreOp.command identity (.cancelGoal goalId)).apply ambient d).find .tasks id =
        some t' → t'.goalId = goalId → ∃ t, d.find .tasks id = some t ∧ t' = t.fenced := by
  obtain ⟨r, -, hran⟩ := fresh_ran h
  obtain ⟨d₁, hc, hframe⟩ := hran.commits
  have hcancelled := cancelGoal_commits hc
  refine ⟨?_, fun id t' ht' hgoal => ?_⟩
  · obtain ⟨g, hg, hphase⟩ := hcancelled.goal
    exact ⟨g, (State.find_congr (hframe .goals (by decide)) goalId).trans hg, hphase⟩
  · rw [State.find_congr (hframe .tasks (by decide)), hcancelled.tasks] at ht'
    obtain ⟨t, ht, rfl⟩ := Option.map_eq_some_iff.mp ht'
    refine ⟨t, ht, if_pos ?_⟩
    by_contra hne
    rw [if_neg hne] at hgoal
    exact hne hgoal

/-! ## Fenced Tasks -/

/-- A Task that work can no longer change: terminal, or on its way to Cancelled. -/
def Task.Settled (t : Task D) : Prop :=
  t.phase.isTerminal = true ∨ (t.phase = .Finalizing ∧ t.terminalTarget = some .Cancelled)

omit [DecidableEq D] [DigestScheme D] in
theorem Task.Settled.skipped (h : t.Settled) : t.Skipped :=
  h.imp id And.right

omit [DecidableEq D] [DigestScheme D] in
theorem Task.fenced_goalId (t : Task D) : t.fenced.goalId = t.goalId := by
  unfold Task.fenced
  split <;> rfl

omit [DecidableEq D] [DigestScheme D] in
theorem Task.fenced_specDigest (t : Task D) : t.fenced.specDigest = t.specDigest := by
  unfold Task.fenced
  split <;> rfl

omit [DigestScheme D] in
/-- The stored checks make a target of Cancelled agree with the phase. -/
theorem fenced_settled (h : d.find .tasks id = some t) : t.fenced.Settled := by
  unfold Task.fenced
  split
  · rename_i hskipped
    have hcheck := State.check_of_find h
    simp only [check, decide_eq_true_eq] at hcheck
    have hcoherent := hcheck.2.1
    rcases hskipped with hterminal | htarget
    · exact .inl hterminal
    · unfold Task.coherent at hcoherent
      cases hphase : t.phase <;>
        simp_all [Task.Settled, TaskPhase.isTerminal]
  · exact .inr ⟨rfl, rfl⟩

/-- Every Task of the Goal is settled. -/
def TasksFenced (goalId : String) (d : Db D) : Prop :=
  ∀ id t, d.find .tasks id = some t → t.goalId = goalId → t.Settled

/-- No materialization for a Goal that is Finalizing. -/
def NoMaterializationUnderFinalizing (d : Db D) (op : StoreOp D) : Prop :=
  ∀ taskId goalId goal, Materializes op d taskId goalId → d.find .goals goalId = some goal →
    goal.phase ≠ .Finalizing

omit [DigestScheme D] in
theorem TaskMove.goalId (h : TaskMove d t t') : t'.goalId = t.goalId := by
  cases h with
  | fenced => exact t.fenced_goalId
  | _ => rfl

omit [DigestScheme D] in
theorem TaskMove.specDigest (h : TaskMove d t t') : t'.specDigest = t.specDigest := by
  cases h with
  | fenced => exact t.fenced_specDigest
  | _ => rfl

omit [DigestScheme D] in
theorem TaskMove.settled (h : TaskMove d t t') (ht : t.Settled) : t'.Settled := by
  cases h with
  | stays => exact ht
  | fenced => rwa [Task.fenced, if_pos ht.skipped]
  | dispatched _ _ ready => rcases ht with h | h <;> simp_all [TaskPhase.isTerminal]
  | submitted active => rcases ht with h | h <;> simp_all [TaskPhase.isTerminal]

theorem apply_tasksFenced {goalId : String} (hgoal : CancelTargeted goalId d)
    (h : TasksFenced goalId d) (hop : NoMaterializationUnderFinalizing d op) :
    TasksFenced goalId (op.apply ambient d) := by
  intro id t' ht' hid
  rcases apply_task ht' with ⟨t, ht, hmove⟩ | ⟨-, hnew, -⟩
  · exact hmove.settled (h id t ht (hmove.goalId ▸ hid))
  · obtain ⟨g, hg, hphase, -⟩ := hgoal
    exact absurd hphase (hop id goalId g (hid ▸ hnew) hg)

/-- In every run in which nothing is materialized for a Finalizing Goal, all Tasks of a
    cancelled Goal are terminal or Finalizing towards Cancelled, in every state after the
    cancellation. -/
theorem cancelled_tasks_stay_fenced {identity : Command D} {goalId : String} {ambient : Ambient}
    {d d' : Db D}
    (hcancel : (StoreOp.command identity (.cancelGoal goalId)).Fresh ambient d)
    (hrun : Run.Steps NoMaterializationUnderFinalizing
      ((StoreOp.command identity (.cancelGoal goalId)).apply ambient d) d') :
    ∀ id t, d'.find .tasks id = some t → t.goalId = goalId →
      t.phase.isTerminal = true ∨ (t.phase = .Finalizing ∧ t.terminalTarget = some .Cancelled) := by
  obtain ⟨htargeted, htasks⟩ := cancel_fresh hcancel
  have hfenced : TasksFenced goalId ((StoreOp.command identity (.cancelGoal goalId)).apply ambient d) := by
    intro id t' ht' hid
    obtain ⟨t, ht, rfl⟩ := htasks id t' ht' hid
    exact fenced_settled ht
  exact (hrun.invariant (P := fun e => CancelTargeted goalId e ∧ TasksFenced goalId e)
    ⟨htargeted, hfenced⟩ fun e op amb he hop =>
      ⟨apply_cancelTargeted op amb he.1, apply_tasksFenced he.1 he.2 hop⟩).2

/-- The sample's Goal can be cancelled after its Task was materialized. -/
theorem sample_task_cancelled :
    ∃ (d : Sample.Store) (t : Task PrefixDigest), Sample.cancel.2.Fresh Sample.cancel.1 d ∧
      (Sample.cancel.2.apply Sample.cancel.1 d).find .tasks "task" = some t ∧ t.goalId = "goal" := by
  have hrun : ∃ d ∈ runAll Sample.installed (Sample.planned ++ [Sample.materialize]),
      Sample.cancel.2.Fresh Sample.cancel.1 d ∧
        ∃ t ∈ (Sample.cancel.2.apply Sample.cancel.1 d).find .tasks "task", t.goalId = "goal" := by
    decide +kernel
  obtain ⟨d, -, hfresh, t, ht, hgoal⟩ := hrun
  exact ⟨d, t, hfresh, ht, hgoal⟩

/-- A Goal with one materialized Task, then cancelled: the Task is fenced. -/
theorem cancelled_tasks_stay_fenced_sample :
    ∃ (d : Sample.Store) (t : Task PrefixDigest), Sample.cancel.2.Fresh Sample.cancel.1 d ∧
      (Sample.cancel.2.apply Sample.cancel.1 d).find .tasks "task" = some t ∧
      (t.phase.isTerminal = true ∨
        (t.phase = .Finalizing ∧ t.terminalTarget = some .Cancelled)) := by
  obtain ⟨d, t, hfresh, ht, hgoal⟩ := sample_task_cancelled
  exact ⟨d, t, hfresh, ht, cancelled_tasks_stay_fenced hfresh .refl "task" t ht hgoal⟩

/-- A plan recorded before the cancellation and materialized after it adds a Ready Task to
    the cancelled Goal. -/
theorem materialization_escapes_cancellation :
    ∃ d d' : Sample.Store, Reachable d ∧ Sample.cancel.2.Fresh Sample.cancel.1 d ∧
      Run.Steps anyStep (Sample.cancel.2.apply Sample.cancel.1 d) d' ∧
      ∃ t, d'.find .tasks "task" = some t ∧ t.goalId = "goal" ∧
        ¬(t.phase.isTerminal = true ∨
          (t.phase = .Finalizing ∧ t.terminalTarget = some .Cancelled)) := by
  have hrun : ∃ d ∈ runAll Sample.installed Sample.planned,
      Sample.cancel.2.Fresh Sample.cancel.1 d ∧
        ∃ d' ∈ runAll (Sample.cancel.2.apply Sample.cancel.1 d) [Sample.materialize],
          ∃ t ∈ d'.find .tasks "task", t.goalId = "goal" ∧ ¬(t.phase.isTerminal = true ∨
            (t.phase = .Finalizing ∧ t.terminalTarget = some .Cancelled)) := by
    decide +kernel
  obtain ⟨d, hd, hfresh, d', hd', t, ht, hfacts⟩ := hrun
  exact ⟨d, d', Sample.reachable_of_runAll hd, hfresh, runAll_steps .refl hd', t, ht, hfacts⟩

/-! ## Work under Task authority -/

/-- The Goal is turned towards Cancelled and none of its Tasks is Active. -/
def Quiet (goalId : String) (d : Db D) : Prop :=
  CancelTargeted goalId d ∧
    ∀ id t, d.find .tasks id = some t → t.goalId = goalId → t.phase ≠ .Active

omit [DecidableEq D] [DigestScheme D] in
theorem Task.Settled.not_active (h : t.Settled) : t.phase ≠ .Active := by
  intro hactive
  rcases h with h | h <;> simp [hactive, TaskPhase.isTerminal] at h

theorem cancel_quiet {goalId : String}
    (h : (StoreOp.command identity (.cancelGoal goalId)).Fresh ambient d) :
    Quiet goalId ((StoreOp.command identity (.cancelGoal goalId)).apply ambient d) := by
  obtain ⟨htargeted, htasks⟩ := cancel_fresh h
  refine ⟨htargeted, fun id t' ht' hid => ?_⟩
  obtain ⟨t, ht, rfl⟩ := htasks id t' ht' hid
  exact (fenced_settled ht).not_active

/-- Whatever is done, a quiet Goal stays quiet: a Task can be added to it, but only dispatch
    makes a Task Active, and dispatch reads the Goal's phase. -/
theorem apply_quiet {goalId : String} (op : StoreOp D) (ambient : Ambient) (h : Quiet goalId d) :
    Quiet goalId (op.apply ambient d) := by
  refine ⟨apply_cancelTargeted op ambient h.1, fun id t' ht' hid => ?_⟩
  rcases apply_task ht' with ⟨t, ht, hmove⟩ | ⟨-, -, hphase⟩
  · have hbefore := h.2 id t ht (hmove.goalId ▸ hid)
    cases hmove with
    | stays => exact hbefore
    | fenced => exact (fenced_settled ht).not_active
    | dispatched goal run ready found dispatchable =>
      obtain ⟨g, hg, hfinalizing, -⟩ := h.1
      have hgoal : t.goalId = goalId := hid
      rw [hgoal, hg] at found
      obtain rfl := Option.some.inj found
      rw [hfinalizing] at dispatchable
      cases dispatchable
    | submitted => exact fun h => nomatch h
  · rcases hphase with h | h <;> rw [h] <;> exact fun h => nomatch h

/-- The call needs authority over this Task: run-intent commit, Candidate submission through
    an Attempt of one of its Runs, Workspace freeze, seal validation, publication. -/
def StoreOp.WorksFor (d : Db D) (taskId : String) : StoreOp D → Prop
  | .command _ (.commitRunIntent intent) => intent.taskId = taskId
  | .command _ (.freezeWorkspace _ task _ _ _) => task = taskId
  | .command _ (.validateSealAuthority _ task _ _ _) => task = taskId
  | .command _ (.commitChangesetSeal changeset) => changeset.taskId = taskId
  | .write (.submitCandidate s) => ∃ attempt run,
      d.find .attempts s.credential.attemptId = some attempt ∧
      d.find .runStatus attempt.runId = some run ∧ run.taskId = taskId
  | _ => False

omit [DigestScheme D] in
theorem Responsible.active {authority : SealAuthority} (h : Responsible authority taskId d) :
    ∃ t, d.find .tasks taskId = some t ∧ t.phase = .Active := by
  obtain ⟨t, ht, hactive, -⟩ := h.task
  exact ⟨t, ht, hactive⟩

/-- A reconciled submission is not fresh, and a fresh one had an Active Task. -/
theorem submit_fresh_active {s : CandidateSubmission D} {r : SubmissionOutcome}
    (hfresh : r.reconciled = false) (hc : (applyCandidateSubmission ambient s).Commits d r d') :
    ∃ lineage run task goal, SubmissionAuthorized s lineage d run task goal := by
  obtain ⟨_, -, h₁⟩ := Writer.guard_then hc
  obtain ⟨recorded, -, h₂⟩ := Writer.guard_then h₁
  have hsubmitted : ∀ {prior}, (submitFresh ambient s prior).Commits d r d' →
      ∃ lineage run task goal, SubmissionAuthorized s lineage d run task goal := by
    intro prior h
    obtain ⟨lineage, run, task, goal, hs⟩ := submitFresh_commits h
    exact ⟨lineage, run, task, goal, hs.authorized⟩
  match recorded, h₂ with
  | some (.Succeeded _), h₂ =>
    obtain ⟨_, -, h₃⟩ := Writer.require_then h₂
    obtain ⟨_, -, h₄⟩ := Writer.guard_then h₃
    obtain ⟨rfl, -⟩ := Writer.commits_pure.mp h₄
    cases hfresh
  | some .Started, h₂ => exact hsubmitted h₂
  | some (.Failed _), h₂ => exact hsubmitted h₂
  | none, h₂ => exact hsubmitted h₂

/-- Fresh work for a Task found it Active, or Ready under a dispatchable Goal. -/
theorem fresh_work (hworks : op.WorksFor d taskId) (h : op.Fresh ambient d) :
    ∃ t, d.find .tasks taskId = some t ∧ (t.phase = .Active ∨
      ∃ g, d.find .goals t.goalId = some g ∧ g.phase.isDispatchable = true) := by
  obtain ⟨r, hfresh, hran⟩ := fresh_ran h
  obtain ⟨d₁, hc, -⟩ := hran.commits
  have hactive : ∀ {authority}, Responsible authority taskId d →
      ∃ t, d.find .tasks taskId = some t ∧ (t.phase = .Active ∨
        ∃ g, d.find .goals t.goalId = some g ∧ g.phase.isDispatchable = true) := by
    intro authority hr
    obtain ⟨t, ht, hphase⟩ := hr.active
    exact ⟨t, ht, .inl hphase⟩
  cases op with
  | command identity mutation =>
    cases mutation with
    | commitRunIntent intent =>
      obtain rfl : intent.taskId = taskId := hworks
      obtain ⟨task, goal, hi⟩ := applyRunIntent_commits hc
      exact ⟨task, hi.task_found, .inr ⟨goal, hi.task_goal ▸ hi.goal_found, hi.goal_dispatchable⟩⟩
    | freezeWorkspace authority task =>
      obtain rfl : task = taskId := hworks
      exact hactive (freezeWorkspace_commits hc)
    | validateSealAuthority authority task =>
      obtain rfl : task = taskId := hworks
      exact hactive (validateSealAuthorityCommand_commits hc)
    | commitChangesetSeal changeset =>
      obtain rfl : changeset.taskId = taskId := hworks
      exact hactive (commitChangesetSeal_commits hc)
    | _ => exact hworks.elim
  | write plain =>
    cases plain with
    | submitCandidate s =>
      obtain ⟨attempt, run, hattempt, hrun, htask⟩ := hworks
      have hnew : r.reconciled = false := Bool.not_eq_true' _ ▸ hfresh
      obtain ⟨lineage, run', task, goal, ha⟩ := submit_fresh_active hnew hc
      obtain ⟨attempt', hattempt', hid⟩ := ha.attempt_run
      obtain rfl := Option.some.inj (hattempt.symm.trans hattempt')
      obtain rfl := Option.some.inj ((hid ▸ hrun).symm.trans ha.run_found)
      have hsame : lineage.taskId = taskId := ha.run_task.symm.trans htask
      exact ⟨task, hsame ▸ ha.task_found, .inl ha.task_active⟩
    | _ => exact hworks.elim

/-- After a cancellation no run-intent commit, Candidate submission, Workspace freeze, seal
    validation or publication executes afresh for a Task of the Goal, whatever is done. -/
theorem cancelled_goal_gets_no_work {identity : Command D} {goalId : String} {ambient : Ambient}
    {d d' : Db D} (hcancel : (StoreOp.command identity (.cancelGoal goalId)).Fresh ambient d)
    (hrun : Run.Steps anyStep ((StoreOp.command identity (.cancelGoal goalId)).apply ambient d) d')
    {taskId : String} {t : Task D} (htask : d'.find .tasks taskId = some t)
    (hgoal : t.goalId = goalId) {op : StoreOp D} (hworks : op.WorksFor d' taskId)
    (later : Ambient) : ¬op.Fresh later d' := by
  have hquiet : Quiet goalId d' :=
    hrun.invariant (cancel_quiet hcancel) fun e op amb he _ => apply_quiet op amb he
  intro hfresh
  obtain ⟨t', ht', hphase⟩ := fresh_work hworks hfresh
  obtain rfl := Option.some.inj (htask.symm.trans ht')
  rcases hphase with hactive | ⟨g, hg, hdispatchable⟩
  · exact hquiet.2 taskId t htask hgoal hactive
  · obtain ⟨g', hg', hfinalizing, -⟩ := hquiet.1
    rw [hgoal, hg'] at hg
    obtain rfl := Option.some.inj hg
    rw [hfinalizing] at hdispatchable
    cases hdispatchable

/-- The sample's run intent after the cancellation of its Goal. -/
theorem cancelled_goal_gets_no_work_sample :
    ∃ d : Sample.Store, Sample.cancel.2.Fresh Sample.cancel.1 d ∧
      ¬(Sample.call 'h' (.commitRunIntent Sample.intent)).2.Fresh (Sample.ambient 'h')
        (Sample.cancel.2.apply Sample.cancel.1 d) := by
  obtain ⟨d, t, hfresh, ht, hgoal⟩ := sample_task_cancelled
  have hworks : (Sample.call 'h' (.commitRunIntent Sample.intent)).2.WorksFor
      (Sample.cancel.2.apply Sample.cancel.1 d) "task" := rfl
  exact ⟨d, hfresh, cancelled_goal_gets_no_work hfresh .refl ht hgoal hworks _⟩

/-! ## Launches -/

/-- Every Run's Task exists. -/
def RunsHaveTasks (d : Db D) : Prop :=
  ∀ id run, d.find .runs id = some run → d.find .tasks run.taskId ≠ none

theorem apply_runsHaveTasks (op : StoreOp D) (ambient : Ambient) (h : RunsHaveTasks d) :
    RunsHaveTasks (op.apply ambient d) := by
  intro id run hrun
  refine apply_grown op ambient (by decide) ?_
  rcases apply_run hrun with hold | ⟨-, task, -, htask, -⟩
  · exact h id run hold
  · rw [htask]
    exact Option.some_ne_none task

theorem reachable_runsHaveTasks (h : Reachable d) : RunsHaveTasks d := by
  obtain ⟨d₀, ⟨generation, epoch, hboot⟩, hrun⟩ := h
  refine hrun.invariant ?_ fun e op ambient he _ => apply_runsHaveTasks op ambient he
  intro id run hfound
  rw [State.find_congr (hboot.within.same .runs (by decide) (by decide))] at hfound
  cases hfound

/-- The Run belongs to a Task of the Goal. -/
def RunOf (d : Db D) (goalId runId : String) : Prop :=
  ∃ run t, d.find .runs runId = some run ∧ d.find .tasks run.taskId = some t ∧ t.goalId = goalId

/-- No Run of a Task of the Goal is Active. -/
def NoActiveRun (goalId : String) (d : Db D) : Prop :=
  ∀ runId status, RunOf d goalId runId → d.find .runStatus runId = some status →
    status.phase ≠ .Active

theorem apply_noActiveRun {goalId : String} (op : StoreOp D) (ambient : Ambient)
    (htasks : RunsHaveTasks d) (hgoal : CancelTargeted goalId d) (h : NoActiveRun goalId d) :
    NoActiveRun goalId (op.apply ambient d) := by
  rintro runId status ⟨run, t', hrun, ht', hid⟩ hstatus hactive
  rcases apply_run hrun with hold | ⟨-, task, goal, htask, hg, hdispatchable⟩
  · -- The Run was there; its Task keeps its Goal, and an Active Run was Active before.
    rcases apply_task ht' with ⟨t, ht, hmove⟩ | ⟨hnone, -⟩
    · rcases apply_run_active hstatus hactive with ⟨before, hbefore, hphase⟩ | hnew
      · exact h runId before ⟨run, t, hold, ht, hmove.goalId ▸ hid⟩ hbefore hphase
      · rw [hold] at hnew
        cases hnew
    · exact htasks runId run hold hnone
  · rcases apply_task ht' with ⟨t, ht, hmove⟩ | ⟨hnone, -⟩
    · obtain rfl := Option.some.inj (htask.symm.trans ht)
      obtain ⟨g, hg', hfinalizing, -⟩ := hgoal
      rw [← hmove.goalId, hid, hg'] at hg
      obtain rfl := Option.some.inj hg
      rw [hfinalizing] at hdispatchable
      cases hdispatchable
    · rw [htask] at hnone
      cases hnone

/-- Cancellation writes no Run, so it leaves none Active where none was. -/
theorem cancel_noActiveRun {goalId : String}
    (hcancel : (StoreOp.command identity (.cancelGoal goalId)).Fresh ambient d)
    (h : NoActiveRun goalId d) :
    NoActiveRun goalId ((StoreOp.command identity (.cancelGoal goalId)).apply ambient d) := by
  rintro runId status ⟨run, t', hrun, ht', hid⟩ hstatus
  obtain ⟨r, -, hran⟩ := fresh_ran hcancel
  rw [State.find_congr (hran.same .runs (by decide) rfl)] at hrun
  rw [State.find_congr (hran.same .runStatus (by decide) rfl)] at hstatus
  obtain ⟨t, ht, rfl⟩ := (cancel_fresh hcancel).2 _ t' ht' hid
  exact h runId status ⟨run, t, hrun, ht, t.fenced_goalId ▸ hid⟩ hstatus

/-- After a cancellation that found no Run of the Goal Active, no step ever creates an Attempt
    for a Run of the Goal's Tasks or takes one of its Attempts across launch contact. -/
theorem cancelled_goal_launches_nothing {identity : Command D} {goalId : String}
    {ambient : Ambient} {d d' : Db D} (hreachable : Reachable d)
    (hcancel : (StoreOp.command identity (.cancelGoal goalId)).Fresh ambient d)
    (hidle : NoActiveRun goalId d)
    (hrun : Run.Steps anyStep ((StoreOp.command identity (.cancelGoal goalId)).apply ambient d) d')
    (op : StoreOp D) (later : Ambient) {runId : String} (hof : RunOf d' goalId runId) :
    (∀ id attempt, (op.apply later d').find .attempts id = some attempt →
      attempt.runId = runId → d'.find .attempts id = some attempt) ∧
    (∀ id after, (op.apply later d').find .attemptStatus id = some after → after.runId = runId →
      after.launchContactState = .ContactMayHaveOccurred →
      ∃ before, d'.find .attemptStatus id = some before ∧
        before.launchContactState = .ContactMayHaveOccurred) := by
  have hinv : RunsHaveTasks d' ∧ CancelTargeted goalId d' ∧ NoActiveRun goalId d' :=
    hrun.invariant
      (P := fun e => RunsHaveTasks e ∧ CancelTargeted goalId e ∧ NoActiveRun goalId e)
      ⟨apply_runsHaveTasks _ ambient (reachable_runsHaveTasks hreachable), (cancel_fresh hcancel).1,
        cancel_noActiveRun hcancel hidle⟩
      fun e op amb he _ => ⟨apply_runsHaveTasks op amb he.1, apply_cancelTargeted op amb he.2.1,
        apply_noActiveRun op amb he.1 he.2.1 he.2.2⟩
  have hinactive : ∀ status, d'.find .runStatus runId = some status → status.phase ≠ .Active :=
    fun status => hinv.2.2 runId status hof
  constructor
  · rintro id attempt hattempt rfl
    rcases apply_attempt hattempt with hold | ⟨status, hstatus, hactive⟩
    · exact hold
    · exact absurd hactive (hinactive status hstatus)
  · rintro id after hafter rfl hcontact
    rcases apply_contact hafter hcontact with hold | ⟨status, hstatus, hactive⟩
    · exact hold
    · exact absurd hactive (hinactive status hstatus)

omit [DigestScheme D] in
theorem noActiveRun_of_rows {goalId : String}
    (h : ((d.rows .runStatus).all fun p => p.2.phase != .Active) = true) :
    NoActiveRun goalId d := by
  intro runId status _ hstatus
  have hrow := List.all_eq_true.mp h (runId, status) (State.mem_rows.mpr hstatus)
  simpa using hrow

/-- A Run that failed before the cancellation of its Goal gets no Attempt after it. -/
theorem cancelled_goal_launches_nothing_sample :
    ∃ d : Sample.Store, Sample.cancel.2.Fresh Sample.cancel.1 d ∧
      ∀ id attempt, ((Sample.call 'k' (.createAttempt Sample.attempt)).2.apply (Sample.ambient 'k')
        (Sample.cancel.2.apply Sample.cancel.1 d)).find .attempts id = some attempt →
        attempt.runId = "run" →
        (Sample.cancel.2.apply Sample.cancel.1 d).find .attempts id = some attempt := by
  have hrun : ∃ d ∈ runAll Sample.installed
        (Sample.dispatched ++ [(Sample.ambient 'i', .write (.concludeRun "run" .Failed 1))]),
      ((d.rows .runStatus).all fun p => p.2.phase != .Active) = true ∧
        Sample.cancel.2.Fresh Sample.cancel.1 d ∧
        ∃ r ∈ (Sample.cancel.2.apply Sample.cancel.1 d).find .runs "run",
          ∃ t ∈ (Sample.cancel.2.apply Sample.cancel.1 d).find .tasks r.taskId,
            t.goalId = "goal" := by
    decide +kernel
  obtain ⟨d, hd, hidle, hfresh, run, hr, t, ht, hgoal⟩ := hrun
  exact ⟨d, hfresh, (cancelled_goal_launches_nothing (Sample.reachable_of_runAll hd) hfresh
    (noActiveRun_of_rows hidle) .refl _ _ ⟨run, t, hr, ht, hgoal⟩).1⟩

/-- A Run that is Active when its Goal is cancelled still gets an Attempt, and that Attempt
    still crosses launch contact. -/
theorem launch_escapes_cancellation :
    ∃ d e e' : Sample.Store, Reachable d ∧ Sample.cancel.2.Fresh Sample.cancel.1 d ∧
      e = Sample.cancel.2.apply Sample.cancel.1 d ∧ RunOf e "goal" "run" ∧
      e' = (Sample.call 'k' (.createAttempt Sample.attempt)).2.apply (Sample.ambient 'k') e ∧
      e.find .attempts "attempt" = none ∧
      (∃ attempt, e'.find .attempts "attempt" = some attempt ∧ attempt.runId = "run") ∧
      (∃ before, e'.find .attemptStatus "attempt" = some before ∧
        before.launchContactState = .NotContacted) ∧
      ∃ after, ((StoreOp.write (.markLaunchContact "run" "attempt" "epoch" 1 1)).apply
          (Sample.ambient 'l') e').find .attemptStatus "attempt" = some after ∧
        after.runId = "run" ∧ after.launchContactState = .ContactMayHaveOccurred := by
  have hrun : ∃ d ∈ runAll Sample.installed Sample.attached, ∃ e ∈ runAll d [Sample.cancel],
      (∃ r ∈ e.find .runs "run", ∃ t ∈ e.find .tasks r.taskId, t.goalId = "goal") ∧
      e.find .attempts "attempt" = none ∧
      ∃ e' ∈ runAll e [Sample.call 'k' (.createAttempt Sample.attempt)],
        (∃ a ∈ e'.find .attempts "attempt", a.runId = "run") ∧
        (∃ s ∈ e'.find .attemptStatus "attempt", s.launchContactState = .NotContacted) ∧
        ∃ e'' ∈ runAll e' [(Sample.ambient 'l', .write (.markLaunchContact "run" "attempt" "epoch" 1 1))],
          ∃ s ∈ e''.find .attemptStatus "attempt",
            s.runId = "run" ∧ s.launchContactState = .ContactMayHaveOccurred := by
    decide +kernel
  obtain ⟨d, hd, e, he, ⟨run, hr, t, ht, hgoal⟩, hnone, e', he', hattempt, hbefore, e'', he'',
    hafter⟩ := hrun
  obtain rfl := runAll_one he''
  exact ⟨d, e, e', Sample.reachable_of_runAll hd, (runAll_cons he).1, runAll_one he,
    ⟨run, t, hr, ht, hgoal⟩, runAll_one he', hnone, hattempt, hbefore, hafter⟩

end Pantheon
