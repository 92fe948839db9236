/-
  Dispatch control and Run intents in the store (`pantheon-store/src/scheduling.rs`).
  `applyRunIntent` (T3) revalidates everything its decision was made from and then creates the
  Run with its frozen Binding and source snapshot, holding the one execution slot. The guards
  are split from the writes: `intentConfiguration` and `intentAuthority` have no access rights.
  `applyRunIntent_commits` says what a commit requires of Task, Goal and slot, and what it adds.
-/
import Pantheon.Context.Guidance
import Pantheon.Execution.Binding
import Pantheon.Store.Command

namespace Pantheon

open Relational

variable {D : Type} [DecidableEq D]

/-- `read_state`. -/
def readState {A : Access TableName} : Write D A SchedulerState :=
  fetch .schedulerState () (.InvariantViolated "scheduler_state has no singleton row")

/-- `Store::set_dispatch_mode`, the mutation. -/
def setDispatchMode (mode : DispatchMode) (expected : Int) :
    Write D ⟨[], [.schedulerState]⟩ SchedulerState := do
  let _ ← updateRevisioned .schedulerState () expected fun s => { s with dispatchMode := mode }
  readState

/-- `Store::record_scheduling_backoff`. -/
def recordSchedulingBackoff (taskId : String) (expected : Int) (code detailJson : String)
    (nextAttemptAt : Int) : Write D ⟨[], [.taskSchedulingState]⟩ Int :=
  updateRevisioned .taskSchedulingState taskId expected fun s =>
    { s with
      nextAttemptAt := some nextAttemptAt
      lastFailureCode := some code
      lastFailureDetailJson := some detailJson }

/-- What the scheduler asks T3 to commit, with every revision its decision was made from. -/
structure RunIntent (D : Type) where
  runId : String
  taskId : String
  goalId : String
  expectedTaskRevision : Int
  expectedGoalRowRevision : Int
  expectedGoalCurrentRevision : Int
  expectedGraphRevision : Int
  expectedWorkspaceRevision : Int
  expectedSchedulerRevision : Int
  expectedGoalFairnessRevision : Option Int
  expectedTaskSchedulingRevision : Int
  configurationActivationSequence : Int
  bindingDigest : D
  binding : ExecutionBinding D
  snapshotDigest : D
  snapshot : ContextSourceSnapshot D
  deriving Repr, DecidableEq

structure RunIntentCommit where
  runId : String
  taskRevision : Int
  schedulerRevision : Int
  chargedServiceSequence : Int
  deriving Repr, DecidableEq

/-- The phases in which a Goal's Tasks may be dispatched. -/
def GoalPhase.isDispatchable : GoalPhase → Bool
  | .Planning | .Active | .Evaluating => true
  | _ => false

/-- The digests of the frozen guidance, or why there are none. -/
def guidanceDigests [DigestScheme D] (agentsJson : String) (agent : LogicalAgentVersion) :
    Except String (D × D) :=
  match parse agentsJson with
  | .error e => .error e.display
  | .ok value =>
    match frozenAgentGuidance value agent with
    | .error e => .error e.display
    | .ok guidance => .ok (guidanceDigest guidance.soul, guidanceDigest guidance.behavior)

/-- The configuration guards of T3: the Binding and the snapshot belong to the active
    configuration revision, guidance included, and to this Task and Goal. -/
def intentConfiguration [DigestScheme D] (intent : RunIntent D) : Write D ⟨[], []⟩ Unit := do
  let pointer ← find .activeConfiguration ()
  Writer.ensure (pointer.bind (·.activationSequence) = some intent.configurationActivationSequence)
    (.RevisionConflict "active_configuration" "singleton" intent.configurationActivationSequence
      (pointer.bind (·.activationSequence)))
  let revision ← fetch .configurationRevisions intent.configurationActivationSequence
    (.InvariantViolated s!"active configuration names revision {intent.configurationActivationSequence} which is not stored")
  Writer.ensure (revision.contentDigest = intent.binding.configurationContentDigest ∧
      revision.components = intent.binding.componentDigests ∧
      intent.snapshot.contextPolicyDigest = intent.binding.componentDigests.contextPolicy)
    (.InvariantViolated "the frozen Binding or source snapshot does not belong to the active ConfigurationRevision")
  let agents ← fetch .configurationComponents revision.components.agents
    (.InvariantViolated s!"configuration revision {intent.configurationActivationSequence} has no stored agents component")
  let expected ← requireOk (guidanceDigests agents.canonicalJson intent.snapshot.agent)
    fun detail => .InvariantViolated s!"the active ConfigurationRevision carries no usable guidance for agent {intent.snapshot.agent.name}@{intent.snapshot.agent.version}: {detail}"
  Writer.ensure (expected = (intent.snapshot.agentSoulDigest, intent.snapshot.agentBehaviorDigest))
    (.InvariantViolated "the frozen source snapshot names Agent guidance that does not belong to the active ConfigurationRevision")
  Writer.ensure (intent.binding.taskId = intent.taskId)
    (.InvariantViolated s!"the frozen Binding names task {intent.binding.taskId} but this Run commits for {intent.taskId}")
  Writer.ensure (intent.snapshot.goalId = intent.goalId)
    (.InvariantViolated s!"the frozen source snapshot names goal {intent.snapshot.goalId} but this Run commits under {intent.goalId}")

/-- The Run that holds the execution slot. -/
def slotHolder (d : Db D) : Option (String × RunStatus D) :=
  (d.rows .runStatus).find? fun p => p.2.activeSlot.isSome

/-- The slot is free, or the refusal names its holder. -/
def requireFreeSlot : Write D ⟨[], []⟩ Unit := do
  let holder ← Writer.read slotHolder
  match holder with
  | some p => Writer.fail (.DispatchSlotUnavailable p.1 p.2.taskId)
  | none => pure ()

/-- The Task and Goal guards of T3. -/
def intentTask [DigestScheme D] (intent : RunIntent D) : Write D ⟨[], []⟩ Unit := do
  let task ← fetch .tasks intent.taskId (.TaskNotDispatchable intent.taskId "Absent" none)
  Writer.ensure (task.goalId = intent.goalId)
    (.TaskNotDispatchable intent.taskId task.phase.asStr task.activeRunId)
  Writer.ensure (task.phase = .Ready ∧ task.activeRunId = none)
    (.TaskNotDispatchable intent.taskId task.phase.asStr task.activeRunId)
  Writer.ensure (task.revision = intent.expectedTaskRevision)
    (.RevisionConflict "tasks" intent.taskId intent.expectedTaskRevision (some task.revision))
  Writer.ensure (task.specDigest = intent.snapshot.taskSpecDigest)
    (.InvariantViolated s!"frozen source snapshot names task spec {debugDigest intent.snapshot.taskSpecDigest} but task {intent.taskId} stores a different one")
  let goal ← fetch .goals intent.goalId
    (.InvariantViolated s!"task {intent.taskId} names goal {intent.goalId} which does not exist")
  Writer.ensure (goal.phase.isDispatchable = true) (.GoalNotDispatchable intent.goalId goal.phase)
  Writer.ensure (goal.revision = intent.expectedGoalRowRevision)
    (.RevisionConflict "goals" intent.goalId intent.expectedGoalRowRevision (some goal.revision))
  Writer.ensure (goal.currentRevision = intent.expectedGoalCurrentRevision ∧
      goal.currentRevision = intent.snapshot.goalRevision)
    (.RevisionConflict "goal_revisions" intent.goalId intent.snapshot.goalRevision
      (some goal.currentRevision))
  let graph ← fetch .taskGraphs intent.goalId
    (.InvariantViolated s!"goal {intent.goalId} has no task graph")
  Writer.ensure (graph.revision = intent.expectedGraphRevision ∧
      graph.revision = intent.snapshot.graphRevision)
    (.RevisionConflict "task_graphs" intent.goalId intent.expectedGraphRevision
      (some graph.revision))

/-- The Workspace and slot guards of T3. -/
def intentWorkspace (intent : RunIntent D) : Write D ⟨[], []⟩ Unit := do
  let workspace ← fetch .workspaces intent.snapshot.workspaceId
    (.RevisionConflict "workspaces" intent.snapshot.workspaceId intent.expectedWorkspaceRevision none)
  Writer.ensure (workspace.taskId = intent.taskId ∧ workspace.phase = .Ready ∧
      workspace.materialization = .Present ∧
      workspace.revision = intent.expectedWorkspaceRevision)
    (.RevisionConflict "workspaces" intent.snapshot.workspaceId intent.expectedWorkspaceRevision
      (some workspace.revision))
  Writer.ensure (workspace.resolvedBase = intent.snapshot.workspaceResolvedBase)
    (.InvariantViolated s!"frozen source snapshot names workspace base {debugText intent.snapshot.workspaceResolvedBase} but the Workspace resolved to {debugText workspace.resolvedBase}")
  requireFreeSlot

/-- The rows of a frozen Binding and snapshot. -/
def storedBinding [DigestScheme D] (b : ExecutionBinding D) : StoredBinding D :=
  ⟨b.taskId, b.configurationActivationSequence, b.configurationContentDigest,
    b.toValue.toCanonicalText⟩

def storedSnapshot [DigestScheme D] (s : ContextSourceSnapshot D) : StoredSnapshot D where
  configurationActivationSequence := s.configurationActivationSequence
  contextPolicyDigest := s.contextPolicyDigest
  taskSpecDigest := s.taskSpecDigest
  goalId := s.goalId
  goalRevision := s.goalRevision
  graphRevision := s.graphRevision
  agentName := s.agent.name
  agentVersion := s.agent.version.toNat
  workspaceId := s.workspaceId
  workspaceResolvedBase := s.workspaceResolvedBase
  canonicalJson := s.toValue.toCanonicalText
  agentSoulDigest := some s.agentSoulDigest
  agentBehaviorDigest := some s.agentBehaviorDigest

/-- Charges the Goal's fairness position. -/
def chargeGoal (goalId : String) (charged : Int) :
    Option Int → Write D ⟨[.goalSchedulingState], [.goalSchedulingState]⟩ Unit
  | none => insert .goalSchedulingState goalId ⟨some charged, 1⟩
  | some expected => do
    let row ← find .goalSchedulingState goalId
    match row with
    | none => Writer.fail (.InvariantViolated
        s!"goal {goalId} had a fairness row at observation time and none at commit")
    | some _ =>
      let _ ← updateRevisioned .goalSchedulingState goalId expected
        fun s => { s with lastServedSequence := some charged }

def runIntentAccess : Access TableName :=
  ⟨[.executionBindings, .contextSourceSnapshots, .runs, .runStatus, .goalSchedulingState],
    [.tasks, .goalSchedulingState, .schedulerState, .taskSchedulingState]⟩

/-- The new Run's row and status. -/
def newRun (intent : RunIntent D) : Run D := ⟨intent.taskId, intent.bindingDigest, intent.snapshotDigest⟩

def newRunStatus (taskId : String) : RunStatus D :=
  ⟨taskId, .Active, none, 1, some "global", none, none⟩

/-- `apply_run_intent`. -/
def applyRunIntent [DigestScheme D] (intent : RunIntent D) :
    Write D runIntentAccess RunIntentCommit := do
  let state ← readState
  Writer.ensure (state.dispatchMode = .Running) .DispatchPaused
  Writer.ensure (state.revision = intent.expectedSchedulerRevision)
    (.RevisionConflict "scheduler_state" "singleton" intent.expectedSchedulerRevision
      (some state.revision))
  (intentConfiguration intent).widen (by decide) (by decide)
  (intentTask intent).widen (by decide) (by decide)
  (intentWorkspace intent).widen (by decide) (by decide)
  insertIfAbsent .executionBindings intent.bindingDigest (storedBinding intent.binding)
  insertIfAbsent .contextSourceSnapshots intent.snapshotDigest (storedSnapshot intent.snapshot)
  insert .runs intent.runId (newRun intent)
  insert .runStatus intent.runId (newRunStatus intent.taskId)
  let taskRevision ← updateRevisioned .tasks intent.taskId intent.expectedTaskRevision
    fun t => { t with phase := .Active, activeRunId := some intent.runId }
  (chargeGoal intent.goalId state.nextServiceSequence intent.expectedGoalFairnessRevision).widen
    (by decide) (by decide)
  let schedulerRevision ← updateRevisioned .schedulerState () state.revision
    fun s => { s with nextServiceSequence := state.nextServiceSequence + 1 }
  let _ ← updateRevisioned .taskSchedulingState intent.taskId intent.expectedTaskSchedulingRevision
    fun s => { s with
      eligibleSince := none
      nextAttemptAt := none
      lastFailureCode := none
      lastFailureDetailJson := none }
  return ⟨intent.runId, taskRevision, schedulerRevision, state.nextServiceSequence⟩

/-! ## What a Run intent does -/

variable {u : Unit} {d d' : Db D} {intent : RunIntent D}

theorem intentTask_commits [DigestScheme D] (h : (intentTask intent).Commits d u d') :
    ∃ task goal, d.find .tasks intent.taskId = some task ∧ task.goalId = intent.goalId ∧
      task.phase = .Ready ∧ d.find .goals intent.goalId = some goal ∧
      goal.phase.isDispatchable = true := by
  obtain ⟨task, htask, h₁⟩ := fetch_then h
  obtain ⟨hgoal, h₂⟩ := Writer.ensure_then h₁
  obtain ⟨hready, h₃⟩ := Writer.ensure_then h₂
  obtain ⟨-, h₄⟩ := Writer.ensure_then h₃
  obtain ⟨-, h₅⟩ := Writer.ensure_then h₄
  obtain ⟨goal, hfound, h₆⟩ := fetch_then h₅
  obtain ⟨hdispatch, -⟩ := Writer.ensure_then h₆
  exact ⟨task, goal, htask, hgoal, hready.1, hfound, hdispatch⟩

/-- A committed Run intent: the Task was Ready under a dispatchable Goal; the
    Run is new and Active, and the Task became Active with it. -/
structure RunIntended (intent : RunIntent D) (d d' : Db D) (task : Task D) (goal : Goal) :
    Prop where
  task_found : d.find .tasks intent.taskId = some task
  task_goal : task.goalId = intent.goalId
  task_ready : task.phase = .Ready
  goal_found : d.find .goals intent.goalId = some goal
  goal_dispatchable : goal.phase.isDispatchable = true
  run_new : d.find .runs intent.runId = none
  runs : ∀ id, d'.find .runs id =
    if intent.runId = id then some (newRun intent) else d.find .runs id
  status_new : d.find .runStatus intent.runId = none
  statuses : ∀ id, d'.find .runStatus id =
    if intent.runId = id then some (newRunStatus intent.taskId) else d.find .runStatus id
  tasks : ∀ id, d'.find .tasks id = if intent.taskId = id then
    some { task with phase := .Active, activeRunId := some intent.runId,
                     revision := task.revision + 1 } else d.find .tasks id
  scheduler : ∃ state, d.find .schedulerState () = some state ∧
    state.revision = intent.expectedSchedulerRevision ∧
    d'.find .schedulerState () = some { state with
      nextServiceSequence := state.nextServiceSequence + 1, revision := state.revision + 1 }

theorem applyRunIntent_commits [DigestScheme D] {r : RunIntentCommit}
    (h : (applyRunIntent intent).Commits d r d') :
    ∃ task goal, RunIntended intent d d' task goal := by
  obtain ⟨state, hstate, h₁⟩ := fetch_then h
  obtain ⟨-, h₂⟩ := Writer.ensure_then h₁
  obtain ⟨hrevision, h₃⟩ := Writer.ensure_then h₂
  obtain ⟨_, -, h₄⟩ := Writer.guard_then h₃
  obtain ⟨_, htask, h₅⟩ := Writer.guard_then h₄
  obtain ⟨_, -, h₆⟩ := Writer.guard_then h₅
  obtain ⟨d₁, hbinding, -, h₇⟩ := insertIfAbsent_then h₆
  obtain ⟨d₂, hsnapshot, -, h₈⟩ := insertIfAbsent_then h₇
  obtain ⟨d₃, hrun, h₉⟩ := insert_then h₈
  obtain ⟨d₄, hstatus, h₁₀⟩ := insert_then h₉
  obtain ⟨d₅, old, hupdate, h₁₁⟩ := update_then h₁₀
  obtain ⟨_, d₆, hcharge, h₁₂⟩ := Writer.widen_then h₁₁
  obtain ⟨d₇, scheduler, hscheduler, h₁₃⟩ := update_then h₁₂
  obtain ⟨d₈, _, heligible, h₁₄⟩ := update_then h₁₃
  obtain ⟨-, rfl⟩ := Writer.commits_pure.mp h₁₄
  obtain ⟨task, goal, hfound, hgoal, hready, hgoalfound, hdispatch⟩ := intentTask_commits htask
  obtain ⟨hrunnew, -, -, -, -, hruns, hrunother⟩ := State.insert_ok hrun
  obtain ⟨hstatusnew, -, -, -, -, hstatuses, hstatusother⟩ := State.insert_ok hstatus
  have hcharged : ∀ i, i ≠ .goalSchedulingState → d₆.table i = d₅.table i := fun i hi =>
    hcharge.within.same i (by simp [hi]) (by simp [hi])
  -- a table is reached through the steps that do not write it
  have hlast := hupdate.before
  have hlast' := hscheduler.before
  simp (disch := decide) only [State.find_frame hcharged, State.find_frame hupdate.others,
    State.find_frame hstatusother, State.find_frame hrunother, State.find_frame hsnapshot,
    State.find_frame hbinding, hfound, hstate] at hlast hlast' hrunnew hstatusnew
  obtain rfl := Option.some.inj hlast
  obtain rfl := Option.some.inj hlast'
  refine ⟨task, goal, hfound, hgoal, hready, hgoalfound, hdispatch,
    hrunnew, fun id => ?_, hstatusnew, fun id => ?_,
    fun id => ?_, state, hstate, hrevision, ?_⟩ <;>
  simp (disch := decide) only [State.find_frame heligible.others, hscheduler.after,
    State.find_frame hscheduler.others, State.find_frame hcharged, hupdate.after,
    State.find_frame hupdate.others, hstatuses, State.find_frame hstatusother, hruns,
    State.find_frame hrunother, State.find_frame hsnapshot, State.find_frame hbinding, if_true,
    ← hupdate.at_revision]
  · rfl
  · rfl

end Pantheon
