/-
  The scheduling-eligibility interval of a Task, over whole runs of the store.
  `eligible_since` stands in a table of its own, so every operation that makes a Task Ready or
  takes it out of Ready has to write both rows. Materialization and T3 do; the fence of a
  cancellation moves a Ready Task to Finalizing and leaves the interval open. `EligibilityMove`
  says once what any operation can do to a Task's readiness and interval.
-/
import Pantheon.Store.Moves
import Pantheon.Store.Frozen

namespace Pantheon

open Relational

variable {D : Type} [DecidableEq D]

/-- The recorded start of a Task's eligibility interval; no row is no interval. -/
def eligibleSince (taskId : String) (d : Db D) : Option Int :=
  (d.find .taskSchedulingState taskId).bind (·.eligibleSince)

def TaskReady (taskId : String) (d : Db D) : Prop :=
  ∃ task, d.find .tasks taskId = some task ∧ task.phase = .Ready

theorem eligibleSince_congr {d d' : Db D} {taskId : String}
    (h : d'.find .taskSchedulingState taskId = d.find .taskSchedulingState taskId) :
    eligibleSince taskId d' = eligibleSince taskId d := by
  rw [eligibleSince, eligibleSince, h]

theorem taskReady_congr {d d' : Db D} {taskId : String}
    (h : d'.find .tasks taskId = d.find .tasks taskId) : TaskReady taskId d' ↔ TaskReady taskId d := by
  rw [TaskReady, TaskReady, h]

theorem taskReady_iff {d : Db D} {taskId : String} {task : Task D}
    (h : d.find .tasks taskId = some task) : TaskReady taskId d ↔ task.phase = .Ready := by
  rw [TaskReady, h]
  simp

variable [DigestScheme D]

/-- What one operation does to a Task's readiness and interval. -/
inductive EligibilityMove (op : StoreOp D) (now : Int) (taskId : String) (d d' : Db D) : Prop where
  | kept (since : eligibleSince taskId d' = eligibleSince taskId d)
    (ready : TaskReady taskId d' ↔ TaskReady taskId d)
  | opened (before : ¬TaskReady taskId d) (ready : TaskReady taskId d')
    (since : eligibleSince taskId d' = some now)
  | closed (before : TaskReady taskId d) (ready : ¬TaskReady taskId d')
    (since : eligibleSince taskId d' = none)
  | fenced (identity : Command D) (goalId : String) (task : Task D)
    (named : op = .command identity (.cancelGoal goalId))
    (found : d.find .tasks taskId = some task) (owned : task.goalId = goalId)
    (before : task.phase = .Ready) (ready : ¬TaskReady taskId d')
    (since : eligibleSince taskId d' = eligibleSince taskId d)

theorem EligibilityMove.of_same {op : StoreOp D} {now : Int} {taskId : String} {d d' : Db D}
    (htasks : d'.table .tasks = d.table .tasks)
    (hschedulings : d'.table .taskSchedulingState = d.table .taskSchedulingState) :
    EligibilityMove op now taskId d d' :=
  .kept (eligibleSince_congr (State.find_congr hschedulings taskId))
    (taskReady_congr (State.find_congr htasks taskId))

theorem eligibility_materialize {op : StoreOp D} {now : Int} {operationId newId : String}
    {plan : Materializable D} {r : MaterializedPlan D} {d d' : Db D} (taskId : String)
    (hc : (materializePlan now operationId newId plan).Commits d r d') :
    EligibilityMove op now taskId d d' := by
  obtain ⟨row, goal, stored, recorded, graph, phase, hchecked, hwritten⟩ := materializePlan_written hc
  have htask := hwritten.tasks taskId
  have hscheduling := hwritten.schedulings taskId
  by_cases hid : newId = taskId
  · subst hid
    rw [if_pos rfl] at htask
    have hbefore : ¬TaskReady newId d := by
      rintro ⟨task, hfound, -⟩
      rw [hchecked.task_new] at hfound
      cases hfound
    by_cases hready : phase = .Ready
    · rw [if_pos ⟨rfl, hready⟩] at hscheduling
      refine .opened hbefore ((taskReady_iff htask).mpr hready) ?_
      rw [eligibleSince, hscheduling]
      rfl
    · rw [if_neg fun h => hready h.2] at hscheduling
      refine .kept (eligibleSince_congr hscheduling) ?_
      rw [taskReady_iff htask]
      exact iff_of_false hready hbefore
  · rw [if_neg hid] at htask
    rw [if_neg fun h => hid h.1] at hscheduling
    exact .kept (eligibleSince_congr hscheduling) (taskReady_congr htask)

theorem eligibility_cancel {identity : Command D} {now : Int} {goalId : String} {r : Cancellation}
    {d d' : Db D} (taskId : String) (hc : (cancelGoal goalId).Commits d r d') :
    EligibilityMove (.command identity (.cancelGoal goalId)) now taskId d d' := by
  have hsince : eligibleSince taskId d' = eligibleSince taskId d :=
    eligibleSince_congr
      (State.find_congr (hc.within.same .taskSchedulingState (by decide) (by decide)) taskId)
  have htask := (cancelGoal_commits hc).tasks taskId
  cases hfound : d.find .tasks taskId with
  | none =>
    rw [hfound] at htask
    exact .kept hsince (taskReady_congr (htask.trans hfound.symm))
  | some task =>
    rw [hfound, Option.map_some] at htask
    by_cases howned : task.goalId = goalId
    · rw [if_pos howned] at htask
      by_cases hready : task.phase = .Ready
      · refine .fenced identity goalId task rfl hfound howned hready ?_ hsince
        rw [taskReady_iff htask]
        -- a Ready Task has no target, so the fence moves it
        have hcheck := State.check_of_find hfound
        simp only [check, decide_eq_true_eq] at hcheck
        have hcoherent := hcheck.2.1
        have htarget : ¬task.Skipped := by
          unfold Task.coherent at hcoherent
          simp_all [Task.Skipped, TaskPhase.isTerminal]
        rw [Task.fenced, if_neg htarget]
        nofun
      · refine .kept hsince ?_
        rw [taskReady_iff htask, taskReady_iff hfound]
        refine iff_of_false ?_ hready
        unfold Task.fenced
        split
        · exact hready
        · nofun
    · rw [if_neg howned] at htask
      exact .kept hsince (taskReady_congr (htask.trans hfound.symm))

/-- T3 closes the interval of the Task it serves. -/
theorem applyRunIntent_closes {intent : RunIntent D} {r : RunIntentCommit} {d d' : Db D}
    (h : (applyRunIntent intent).Commits d r d') : ∃ revision, ∀ k,
      d'.find .taskSchedulingState k = if intent.taskId = k then
        some ⟨none, none, none, none, revision⟩ else d.find .taskSchedulingState k := by
  obtain ⟨_, -, h⟩ := fetch_then h
  obtain ⟨-, h⟩ := Writer.ensure_then h
  obtain ⟨-, h⟩ := Writer.ensure_then h
  obtain ⟨_, -, h⟩ := Writer.guard_then h
  obtain ⟨_, -, h⟩ := Writer.guard_then h
  obtain ⟨_, -, h⟩ := Writer.guard_then h
  obtain ⟨d₁, hbinding, -, h⟩ := insertIfAbsent_then h
  obtain ⟨d₂, hsnapshot, -, h⟩ := insertIfAbsent_then h
  obtain ⟨d₃, hrun, h⟩ := insert_then h
  obtain ⟨d₄, hstatus, h⟩ := insert_then h
  obtain ⟨d₅, _, htask, h⟩ := update_then h
  obtain ⟨_, d₆, hcharge, h⟩ := Writer.widen_then h
  obtain ⟨d₇, _, hscheduler, h⟩ := update_then h
  obtain ⟨d₈, _, hscheduling, h⟩ := update_then h
  obtain ⟨-, rfl⟩ := Writer.commits_pure.mp h
  have hcharged := fun k => State.find_congr
    (hcharge.within.same .taskSchedulingState (by decide) (by decide)) k
  refine ⟨intent.expectedTaskSchedulingRevision + 1, fun k => ?_⟩
  rw [hscheduling.after]
  simp (disch := decide) only [State.find_frame hscheduler.others, hcharged,
    State.find_frame htask.others, State.find_frame (State.insert_frame hstatus),
    State.find_frame (State.insert_frame hrun), State.find_frame hsnapshot,
    State.find_frame hbinding]
  rfl

theorem eligibility_intent {op : StoreOp D} {now : Int} {intent : RunIntent D} {r : RunIntentCommit}
    {d d' : Db D} (taskId : String) (hc : (applyRunIntent intent).Commits d r d') :
    EligibilityMove op now taskId d d' := by
  obtain ⟨task, goal, hi⟩ := applyRunIntent_commits hc
  obtain ⟨revision, hschedulings⟩ := applyRunIntent_closes hc
  have htask := hi.tasks taskId
  have hscheduling := hschedulings taskId
  by_cases hid : intent.taskId = taskId
  · subst hid
    rw [if_pos rfl] at htask hscheduling
    refine .closed ⟨task, hi.task_found, hi.task_ready⟩ ?_ ?_
    · rw [taskReady_iff htask]
      nofun
    · rw [eligibleSince, hscheduling]
      rfl
  · rw [if_neg hid] at htask hscheduling
    exact .kept (eligibleSince_congr hscheduling) (taskReady_congr htask)

theorem eligibility_submit {op : StoreOp D} {now : Int} {ambient : Ambient}
    {s : CandidateSubmission D} {r : SubmissionOutcome} {d d' : Db D} (taskId : String)
    (hc : (applyCandidateSubmission ambient s).Commits d r d') :
    EligibilityMove op now taskId d d' := by
  refine .kept (eligibleSince_congr
    (State.find_congr (hc.within.same .taskSchedulingState (by decide) (by decide)) taskId)) ?_
  rcases applyCandidateSubmission_commits hc with rfl | ⟨lineage, run, task, goal, hs⟩
  · exact Iff.rfl
  · have htask := hs.tasks taskId
    split at htask
    · rename_i hid
      subst hid
      rw [taskReady_iff htask, taskReady_iff hs.authorized.task_found, hs.authorized.task_active]
      exact iff_of_false nofun nofun
    · exact taskReady_congr htask

/-- Backoff writes the row and keeps the interval. -/
theorem eligibility_backoff {op : StoreOp D} {now : Int} {other code detail : String}
    {expected next n : Int} {d d' : Db D} (taskId : String)
    (hc : (recordSchedulingBackoff other expected code detail next).Commits d n d') :
    EligibilityMove op now taskId d d' := by
  refine .kept ?_ (taskReady_congr
    (State.find_congr (hc.within.same .tasks (by decide) (by decide)) taskId))
  obtain ⟨-, old, hu⟩ := commits_updateRevisioned hc
  have hscheduling := hu.after taskId
  split at hscheduling
  · rename_i hid
    subst hid
    rw [eligibleSince, eligibleSince, hscheduling, hu.before]
    rfl
  · exact eligibleSince_congr hscheduling

/-- Every operation moves every Task's interval by one `EligibilityMove`. -/
theorem apply_eligibility (op : StoreOp D) (ambient : Ambient) (d : Db D) (taskId : String) :
    EligibilityMove op ambient.now taskId d (op.apply ambient d) := by
  rcases apply_cases op ambient d with hsame | ⟨r, hran⟩
  · rw [hsame]
    exact .of_same rfl rfl
  obtain ⟨d₁, hc, hframe⟩ := hran.commits
  have htasks := hframe .tasks (by decide)
  have hschedulings := hframe .taskSchedulingState (by decide)
  have hledger : EligibilityMove op ambient.now taskId d d₁ →
      EligibilityMove op ambient.now taskId d (op.apply ambient d) := by
    have hs := eligibleSince_congr (State.find_congr hschedulings taskId)
    have ht := taskReady_congr (State.find_congr htasks taskId)
    intro hmove
    cases hmove with
    | kept since ready => exact .kept (hs.trans since) (ht.trans ready)
    | opened before ready since => exact .opened before (ht.mpr ready) (hs.trans since)
    | closed before ready since => exact .closed before (mt ht.mp ready) (hs.trans since)
    | fenced identity goalId task named found owned before ready since =>
      exact .fenced identity goalId task named found owned before (mt ht.mp ready) (hs.trans since)
  cases op with
  | command identity mutation =>
    cases mutation with
    | materializePlan => exact hledger (eligibility_materialize taskId hc)
    | cancelGoal => exact hledger (eligibility_cancel taskId hc)
    | commitRunIntent => exact hledger (eligibility_intent taskId hc)
    | _ => exact .of_same (hran.same _ (by decide) rfl) (hran.same _ (by decide) rfl)
  | write plain =>
    cases plain with
    | submitCandidate => exact hledger (eligibility_submit taskId hc)
    | recordSchedulingBackoff => exact hledger (eligibility_backoff taskId hc)
    | _ => exact .of_same (hran.same _ (by decide) rfl) (hran.same _ (by decide) rfl)

/-- No cancellation finds a Ready Task of its Goal. -/
def NoReadyTaskCancelled (d : Db D) (op : StoreOp D) : Prop :=
  ∀ identity goalId, op = .command identity (.cancelGoal goalId) →
    ∀ taskId task, d.find .tasks taskId = some task → task.goalId = goalId → task.phase ≠ .Ready

/-- In every run in which no cancellation finds a Ready Task of its Goal, a Task has an interval
    exactly when it is Ready; the operation that makes it Ready sets the interval to the time of
    its transaction, and no operation changes it while the Task stays Ready. -/
theorem eligible_exactly_when_ready {d₀ d : Db D} (h₀ : Installed d₀)
    (hrun : Run.Steps NoReadyTaskCancelled d₀ d) :
    (∀ taskId, (eligibleSince taskId d).isSome = true ↔ TaskReady taskId d) ∧
    ∀ (op : StoreOp D) (ambient : Ambient) taskId, TaskReady taskId (op.apply ambient d) →
      (¬TaskReady taskId d → eligibleSince taskId (op.apply ambient d) = some ambient.now) ∧
      (TaskReady taskId d → eligibleSince taskId (op.apply ambient d) = eligibleSince taskId d) := by
  constructor
  · refine hrun.invariant (P := fun e => ∀ taskId, (eligibleSince taskId e).isSome = true ↔
      TaskReady taskId e) (fun taskId => ?_) fun e op ambient he hop taskId => ?_
    · rw [eligibleSince, TaskReady, h₀.find_none (by decide), h₀.find_none (by decide)]
      simp
    · cases apply_eligibility op ambient e taskId with
      | kept since ready => rw [since, ready, he]
      | opened _ ready since =>
        rw [since]
        exact iff_of_true rfl ready
      | closed _ ready since =>
        rw [since]
        exact iff_of_false (by simp) ready
      | fenced identity goalId task named found owned before =>
        exact absurd before (hop identity goalId named taskId task found owned)
  · intro op ambient taskId hready
    cases apply_eligibility op ambient d taskId with
    | kept since ready => exact ⟨fun hbefore => absurd (ready.mp hready) hbefore, fun _ => since⟩
    | opened before _ since => exact ⟨fun _ => since, fun hbefore => absurd hbefore before⟩
    | closed _ ready => exact absurd hready ready
    | fenced _ _ _ _ _ _ _ ready => exact absurd hready ready

/-- The interval of the sample's Task starts with its materialization. -/
theorem sample_task_eligible : ∃ d : Sample.Store,
    Run.Steps NoReadyTaskCancelled Sample.installed d ∧ TaskReady "task" d ∧
      (eligibleSince "task" d).isSome = true := by
  have hrun : ∃ d ∈ runAll Sample.installed (Sample.planned ++ [Sample.materialize]),
      ∃ t ∈ d.find .tasks "task", t.phase = .Ready := by decide +kernel
  obtain ⟨d, hd, hready⟩ := hrun
  have hsteps : Run.Steps NoReadyTaskCancelled Sample.installed d := by
    refine runAll_admitted .refl (fun call hcall e identity goalId hop => ?_) hd
    simp only [Sample.planned, List.cons_append, List.nil_append, List.mem_cons,
      List.not_mem_nil, or_false] at hcall
    rcases hcall with rfl | rfl | rfl | rfl <;> cases hop
  exact ⟨d, hsteps, hready,
    ((eligible_exactly_when_ready Sample.installed_installed hsteps).1 "task").mpr hready⟩

/-- The fence of a cancellation takes the Task out of Ready and leaves its interval. -/
theorem fenced_task_still_eligible : ∃ (d : Sample.Store) (t : Task PrefixDigest), Reachable d ∧
    d.find .tasks "task" = some t ∧ t.phase = .Finalizing ∧ eligibleSince "task" d = some 10 := by
  have hrun : ∃ d ∈ runAll Sample.installed (Sample.planned ++ [Sample.materialize, Sample.cancel]),
      ∃ t ∈ d.find .tasks "task", t.phase = .Finalizing ∧ eligibleSince "task" d = some 10 := by
    decide +kernel
  obtain ⟨d, hd, t, ht, hfacts⟩ := hrun
  exact ⟨d, t, Sample.reachable_of_runAll hd, ht, hfacts⟩

end Pantheon
