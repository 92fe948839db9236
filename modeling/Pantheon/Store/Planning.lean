/-
  Goals, planning and cancellation in the store (`pantheon-store/src/planning.rs`,
  `planning/materialize.rs`, `planning/cancel.rs`).
  After each operation stands what a commit of it did to the Goals and Tasks: `cancelGoal`
  leaves the Goal Finalizing towards Cancelled and every Task of it fenced; `materializePlan`
  adds one Task and moves a Goal only from Planning to Active. It reads the Goal's phase only
  to decide that move, so it does not refuse a Goal that is Finalizing.
-/
import Mathlib.Data.List.Sort
import Pantheon.Planning.Validate
import Pantheon.Store.Command

namespace Pantheon

open Relational

variable {D : Type} [DecidableEq D]

/-! ## Records -/

structure GoalRecord where
  id : String
  phase : GoalPhase
  currentRevision : Int
  revision : Int
  deriving Repr, DecidableEq

structure TaskRecord (D : Type) where
  id : String
  goalId : String
  phase : TaskPhase
  createdGraphRevision : Int
  specDigest : D
  revision : Int
  activeRunId : Option String
  deriving Repr, DecidableEq

structure PlanningDecision (D : Type) where
  operationId : String
  goalId : String
  goalRevision : Int
  expectedGraphRevision : Int
  configurationActivationSequence : Int
  planningInputDigest : D
  triggerKind : String
  plannerImplementation : String
  plannerVersion : String
  deriving Repr, DecidableEq

structure ProposalRecord (D : Type) where
  digest : D
  canonical : String
  normalizationProvenance : String
  deriving Repr, DecidableEq

structure PlanningOperationRecord (D : Type) where
  id : String
  goalId : String
  goalRevision : Int
  expectedGraphRevision : Int
  configurationActivationSequence : Int
  planningInputDigest : D
  state : PlanningState
  revision : Int
  deriving Repr, DecidableEq

structure MaterializedPlan (D : Type) where
  task : TaskRecord D
  graphRevision : Int
  goalPhase : GoalPhase
  deriving Repr, DecidableEq

structure Cancellation where
  goal : GoalRecord
  tasksFenced : Nat
  alreadyTargeted : Bool
  deriving Repr, DecidableEq

structure GraphRecord where
  goalId : String
  revision : Int
  deriving Repr, DecidableEq

/-- `Store::goal`. -/
def goalRecord (goalId : String) (d : Db D) : Option GoalRecord :=
  (d.find .goals goalId).map fun goal => ⟨goalId, goal.phase, goal.currentRevision, goal.revision⟩

/-- `Store::task_graph`. -/
def graphRecord (goalId : String) (d : Db D) : Option GraphRecord :=
  (d.find .taskGraphs goalId).map fun graph => ⟨goalId, graph.revision⟩

/-- `Store::task`. -/
def taskRecord (taskId : String) (d : Db D) : Option (TaskRecord D) :=
  (d.find .tasks taskId).map fun task =>
    ⟨taskId, task.goalId, task.phase, task.createdGraphRevision, task.specDigest, task.revision,
      task.activeRunId⟩

/-! ## Operations -/

def createGoalAccess : Access TableName := ⟨[.goals, .goalRevisions, .taskGraphs], []⟩

/-- `Store::create_goal`, the mutation. -/
def createGoal [DigestScheme D] (goalId : String) (spec : GoalSpec) :
    Write D createGoalAccess GoalRecord := do
  insert .goals goalId ⟨.Planning, 1, 1, none⟩
  insert .goalRevisions (goalId, 1) ⟨spec.digest, spec.toValue.toCanonicalText⟩
  insert .taskGraphs goalId ⟨0⟩
  return ⟨goalId, .Planning, 1, 1⟩

def recordPlanningAccess : Access TableName := ⟨[.planningOperations, .planningRecords], []⟩

/-- `Store::record_direct_planning`, the mutation. -/
def recordDirectPlanning (decision : PlanningDecision D) (proposal : ProposalRecord D) :
    Write D recordPlanningAccess (PlanningOperationRecord D) := do
  insert .planningOperations decision.operationId
    { goalId := decision.goalId
      goalRevision := decision.goalRevision
      expectedGraphRevision := decision.expectedGraphRevision
      triggerKind := decision.triggerKind
      planningInputDigest := decision.planningInputDigest
      plannerImplementation := decision.plannerImplementation
      plannerVersion := decision.plannerVersion
      configurationActivationSequence := decision.configurationActivationSequence
      state := .Planned
      revision := 1 }
  insert .planningRecords decision.operationId
    ⟨proposal.digest, proposal.canonical, proposal.normalizationProvenance⟩
  return {
    id := decision.operationId
    goalId := decision.goalId
    goalRevision := decision.goalRevision
    expectedGraphRevision := decision.expectedGraphRevision
    configurationActivationSequence := decision.configurationActivationSequence
    planningInputDigest := decision.planningInputDigest
    state := .Planned
    revision := 1 }

/-- `prerequisites_satisfied`: no active edge into the Task comes from one that has not
    succeeded. -/
def prerequisitesSatisfied (d : Db D) (taskId : String) (graphRevision : Int) : Bool :=
  (d.rows .taskGraphEdges).all fun e =>
    !(e.2.downstreamTaskId == taskId && decide (e.2.createdGraphRevision ≤ graphRevision) &&
      e.2.removedGraphRevision.all (graphRevision < ·) &&
      (d.find .tasks e.2.upstreamTaskId).any (fun up => up.phase != .Succeeded))

def materializeAccess : Access TableName :=
  ⟨[.taskSpecs, .tasks, .taskSchedulingState], [.taskGraphs, .goals, .planningOperations]⟩

/-- A newly materialized Task is eligible for scheduling at once when it is Ready. -/
def openEligibility (taskId : String) (phase : TaskPhase) (now : Int) :
    Write D ⟨[.taskSchedulingState], []⟩ Unit :=
  if phase = .Ready then insert .taskSchedulingState taskId ⟨some now, none, none, none, 1⟩
  else pure ()

/-- A Goal whose first plan lands becomes Active. -/
def activateGoal (goalId : String) (goal : Goal) : Write D ⟨[], [.goals]⟩ Unit :=
  if goal.phase = .Planning then do
    let _ ← updateRevisioned .goals goalId goal.revision fun g => { g with phase := .Active }
  else pure ()

/-- The row of a newly materialized Task. -/
def newTask (goalId : String) (graphRevision : Int) (phase : TaskPhase) (specDigest : D) : Task D :=
  { goalId
    createdGraphRevision := graphRevision
    phase
    revision := 1
    terminalTarget := none
    terminalReasonJson := none
    activeRunId := none
    specDigest }

/-- `materialize::apply`. -/
def materializePlan [DigestScheme D] (now : Int) (operationId taskId : String)
    (plan : Materializable D) : Write D materializeAccess (MaterializedPlan D) := do
  let op ← fetch .planningOperations operationId
    (.InvariantViolated s!"planning operation {operationId} does not exist")
  Writer.ensure (op.state = .Planned)
    (.RevisionConflict "planning_operations" operationId op.revision (some op.revision))
  let goal ← fetch .goals op.goalId (.InvariantViolated s!"goal {op.goalId} does not exist")
  Writer.ensure (goal.currentRevision = op.goalRevision)
    (.RevisionConflict "goal_revisions" op.goalId op.goalRevision (some goal.currentRevision))
  Writer.ensure (plan.goalRevision = op.goalRevision)
    (.InvariantViolated s!"plan was validated against goal revision {plan.goalRevision}, but the operation froze {op.goalRevision}")
  let stored ← fetch .goalRevisions (op.goalId, op.goalRevision)
    (.InvariantViolated s!"goal {op.goalId} revision {op.goalRevision} is not stored")
  Writer.ensure (stored.contentDigest = plan.goalDigest)
    (.InvariantViolated s!"plan was validated against a goal whose content is not the stored revision {op.goalRevision}")
  Writer.ensure (plan.spec.goalId = op.goalId)
    (.InvariantViolated s!"plan names goal {debugText plan.spec.goalId}, but operation {operationId} belongs to {debugText op.goalId}")
  let recorded ← fetch .planningRecords operationId
    (.InvariantViolated s!"planning operation {operationId} has no recorded proposal")
  Writer.ensure (recorded.proposalDigest = plan.proposalDigest)
    (.InvariantViolated s!"plan does not match the proposal recorded for operation {operationId}")
  let graph ← fetch .taskGraphs op.goalId
    (.InvariantViolated s!"goal {op.goalId} has no task graph")
  Writer.ensure (graph.revision = op.expectedGraphRevision)
    (.RevisionConflict "task_graphs" op.goalId op.expectedGraphRevision (some graph.revision))
  let pointer ← find .activeConfiguration ()
  let active ← Writer.require (pointer.bind (·.activationSequence))
    (.InvariantViolated "no active configuration; cannot materialize a plan")
  Writer.ensure (active = op.configurationActivationSequence)
    (.RevisionConflict "active_configuration" "singleton" op.configurationActivationSequence
      (some active))
  insertIfAbsent .taskSpecs plan.spec.digest
    { goalId := op.goalId
      goalRevision := plan.spec.goalRevision
      canonicalJson := plan.spec.toValue.toCanonicalText
      acceptanceDigest := plan.spec.acceptanceDigest
      evaluatorRegistryDigest := plan.spec.acceptance.evaluatorRegistryDigest
      configurationActivationSequence := plan.spec.acceptance.configurationActivationSequence }
  let satisfied ← Writer.read fun d => prerequisitesSatisfied d taskId (graph.revision + 1)
  let phase : TaskPhase := if satisfied then .Ready else .Pending
  insert .tasks taskId (newTask op.goalId (graph.revision + 1) phase plan.spec.digest)
  (openEligibility taskId phase now).widen (by decide) (by decide)
  let _ ← updateRevisioned .taskGraphs op.goalId graph.revision id
  (activateGoal op.goalId goal).widen (by decide) (by decide)
  let _ ← updateRevisioned .planningOperations operationId op.revision
    fun o => { o with state := .Materialized }
  return {
    task := {
      id := taskId
      goalId := op.goalId
      phase := phase
      createdGraphRevision := graph.revision + 1
      specDigest := plan.spec.digest
      revision := 1
      activeRunId := none }
    graphRevision := graph.revision + 1
    goalPhase := .Active }

def cancelAccess : Access TableName := ⟨[], [.goals, .tasks]⟩

/-- Whether a Goal in this phase with this target is already being cancelled; none where it
    can no longer be. -/
def alreadyTargeted : GoalPhase → Option GoalPhase → Option Bool
  | .Planning, _ | .Active, _ | .Evaluating, _ => some false
  | .Finalizing, some .Succeeded | .Finalizing, some .Failed => some false
  | .Finalizing, some .Cancelled => some true
  | _, _ => none

/-- A Task that the fence leaves alone. -/
def Task.Skipped (t : Task D) : Prop :=
  t.phase.isTerminal = true ∨ t.terminalTarget = some .Cancelled

instance (t : Task D) : Decidable t.Skipped := inferInstanceAs (Decidable (_ ∨ _))

/-- The fenced form of a Task. -/
def Task.fence (t : Task D) : Task D :=
  { t with
    phase := .Finalizing
    terminalTarget := some .Cancelled
    terminalReasonJson := some "\x7b\"code\":\"goal-cancelled\"\x7d" }

/-- One round of `fence_tasks`. -/
def fenceTask (row : String × Task D) : Write D ⟨[], [.tasks]⟩ Unit :=
  if row.2.Skipped then pure ()
  else do
    let fencedAt ← updateRevisioned .tasks row.1 row.2.revision Task.fence
    Writer.ensure (fencedAt = row.2.revision + 1)
      (.InvariantViolated s!"fencing task {row.1} left it at revision {fencedAt}, not {row.2.revision + 1}")

/-- The Tasks of a Goal in the order of their ids. -/
def tasksOf (goalId : String) (d : Db D) : List (String × Task D) :=
  ((d.rows .tasks).filter fun p => p.2.goalId == goalId).insertionSort fun p q => p.1 ≤ q.1

/-- `fence_tasks`. -/
def fenceTasks (goalId : String) : Write D ⟨[], [.tasks]⟩ Nat := do
  let rows ← Writer.read (tasksOf goalId)
  Writer.forEach fenceTask rows
  return (rows.filter fun p => ¬p.2.Skipped).length

/-- The revision of the Goal after it was turned towards Cancelled, if it had to be. -/
def targetGoal (goalId : String) (goal : Goal) (already : Bool) : Write D ⟨[], [.goals]⟩ Int :=
  if already then pure goal.revision
  else updateRevisioned .goals goalId goal.revision
    fun g => { g with phase := .Finalizing, terminalTarget := some .Cancelled }

/-- `Store::cancel_goal`, the mutation. -/
def cancelGoal (goalId : String) : Write D cancelAccess Cancellation := do
  let goal ← fetch .goals goalId (.InvariantViolated s!"goal {goalId} does not exist")
  Writer.ensure (alreadyTargeted goal.phase goal.terminalTarget ≠ none)
    (.GoalNotCancellable goalId goal.phase goal.terminalTarget)
  let already := (alreadyTargeted goal.phase goal.terminalTarget).getD false
  let revision ← (targetGoal goalId goal already).widen (by decide) (by decide)
  let tasksFenced ← (fenceTasks goalId).widen (by decide) (by decide)
  return ⟨⟨goalId, .Finalizing, goal.currentRevision, revision⟩, tasksFenced, already⟩

/-! ## What a materialization does -/

variable {goalId taskId : String} {u : Unit} {d d' : Db D} {now : Int}

theorem activateGoal_commits {goal : Goal} (hg : d.find .goals goalId = some goal)
    (h : (activateGoal goalId goal).Commits d u d') :
    ∀ id, d'.find .goals id = if goalId = id ∧ goal.phase = .Planning then
      some { goal with phase := .Active, revision := goal.revision + 1 } else d.find .goals id := by
  intro id
  unfold activateGoal at h
  split at h
  · rename_i hp
    obtain ⟨d₁, old, hu, h⟩ := update_then h
    obtain ⟨-, rfl⟩ := Writer.commits_pure.mp h
    have hold : goal = old := Option.some.inj (hg.symm.trans hu.before)
    rw [hu.after]
    simp only [hp, and_true, ← hold]
    rfl
  · rename_i hp
    obtain ⟨-, rfl⟩ := Writer.commits_pure.mp h
    simp [hp]

theorem openEligibility_commits {phase : TaskPhase}
    (h : (openEligibility taskId phase now).Commits d u d') :
    ∀ id, d'.find .taskSchedulingState id = if taskId = id ∧ phase = .Ready then
      some ⟨some now, none, none, none, 1⟩ else d.find .taskSchedulingState id := by
  intro id
  unfold openEligibility at h
  split at h
  · rename_i hp
    obtain ⟨-, -, -, -, -, hfind, -⟩ := State.insert_ok (commits_insert.mp h)
    rw [hfind]
    simp only [hp, and_true]
  · rename_i hp
    obtain ⟨-, rfl⟩ := Writer.commits_pure.mp h
    simp [hp]

/-- The row of a Task specification. -/
def storedSpec [DigestScheme D] (spec : TaskSpec D) : StoredTaskSpec D where
  goalId := spec.goalId
  goalRevision := spec.goalRevision
  canonicalJson := spec.toValue.toCanonicalText
  acceptanceDigest := spec.acceptanceDigest
  evaluatorRegistryDigest := spec.acceptance.evaluatorRegistryDigest
  configurationActivationSequence := spec.acceptance.configurationActivationSequence

/-- What a materialization compares before it writes anything. -/
structure PlanChecked (operationId taskId : String) (plan : Materializable D) (d : Db D)
    (op : PlanningOperation D) (goal : Goal) (stored : GoalRevision D) (recorded : PlanningRecord D)
    (graph : TaskGraph) : Prop where
  planned : d.find .planningOperations operationId = some op
  unspent : op.state = .Planned
  goal_found : d.find .goals op.goalId = some goal
  current : goal.currentRevision = op.goalRevision
  plan_revision : plan.goalRevision = op.goalRevision
  revision_found : d.find .goalRevisions (op.goalId, op.goalRevision) = some stored
  content : stored.contentDigest = plan.goalDigest
  plan_goal : plan.spec.goalId = op.goalId
  recorded_found : d.find .planningRecords operationId = some recorded
  proposal : recorded.proposalDigest = plan.proposalDigest
  graph_found : d.find .taskGraphs op.goalId = some graph
  graph_expected : graph.revision = op.expectedGraphRevision
  configuration : (d.find .activeConfiguration ()).bind (·.activationSequence) =
    some op.configurationActivationSequence
  task_new : d.find .tasks taskId = none

/-- What a materialization writes. -/
structure PlanWritten [DigestScheme D] (now : Int) (operationId taskId : String)
    (plan : Materializable D) (d d' : Db D) (op : PlanningOperation D) (goal : Goal)
    (graph : TaskGraph) (phase : TaskPhase) : Prop where
  opens : phase = .Ready ∨ phase = .Pending
  specs : ∀ k, d'.find .taskSpecs k = if plan.spec.digest = k then
    some ((d.find .taskSpecs plan.spec.digest).getD (storedSpec plan.spec)) else d.find .taskSpecs k
  tasks : ∀ id, d'.find .tasks id = if taskId = id then
    some (newTask op.goalId (graph.revision + 1) phase plan.spec.digest) else d.find .tasks id
  schedulings : ∀ id, d'.find .taskSchedulingState id = if taskId = id ∧ phase = .Ready then
    some ⟨some now, none, none, none, 1⟩ else d.find .taskSchedulingState id
  graphs : ∀ id, d'.find .taskGraphs id = if op.goalId = id then
    some ⟨graph.revision + 1⟩ else d.find .taskGraphs id
  goals : ∀ id, d'.find .goals id = if op.goalId = id ∧ goal.phase = .Planning then
    some { goal with phase := .Active, revision := goal.revision + 1 } else d.find .goals id
  operations : ∀ id, d'.find .planningOperations id = if operationId = id then
    some { op with state := .Materialized, revision := op.revision + 1 }
    else d.find .planningOperations id

theorem materializePlan_written [DigestScheme D] {operationId : String} {plan : Materializable D}
    {r : MaterializedPlan D} (h : (materializePlan now operationId taskId plan).Commits d r d') :
    ∃ op goal stored recorded graph phase,
      PlanChecked operationId taskId plan d op goal stored recorded graph ∧
        PlanWritten now operationId taskId plan d d' op goal graph phase := by
  obtain ⟨op, hop, h⟩ := fetch_then h
  obtain ⟨hunspent, h⟩ := Writer.ensure_then h
  obtain ⟨goal, hgoal, h⟩ := fetch_then h
  obtain ⟨hcurrent, h⟩ := Writer.ensure_then h
  obtain ⟨hrevision, h⟩ := Writer.ensure_then h
  obtain ⟨stored, hstored, h⟩ := fetch_then h
  obtain ⟨hcontent, h⟩ := Writer.ensure_then h
  obtain ⟨hplanGoal, h⟩ := Writer.ensure_then h
  obtain ⟨recorded, hrecorded, h⟩ := fetch_then h
  obtain ⟨hproposal, h⟩ := Writer.ensure_then h
  obtain ⟨graph, hgraph, h⟩ := fetch_then h
  obtain ⟨hexpected, h⟩ := Writer.ensure_then h
  replace h := find_then h
  obtain ⟨active, hactive, h⟩ := Writer.require_then h
  obtain ⟨hsame, h⟩ := Writer.ensure_then h
  obtain ⟨d₁, hspecs, hspec, h⟩ := insertIfAbsent_then h
  replace h := Writer.read_then h
  obtain ⟨d₂, htask, h⟩ := insert_then h
  obtain ⟨_, d₃, hopen, h⟩ := Writer.widen_then h
  obtain ⟨d₄, graph', hgraphs, h⟩ := update_then h
  obtain ⟨_, d₅, hactivated, h⟩ := Writer.widen_then h
  obtain ⟨_, op', hdone, h⟩ := update_then h
  obtain ⟨-, rfl⟩ := Writer.commits_pure.mp h
  obtain ⟨hnew, -, -, -, -, hfind, hother⟩ := State.insert_ok htask
  have ho := hopen.within
  have ha := hactivated.within
  -- a table is reached through the steps that do not write it
  have hlast := hgraphs.before
  have hlast' := hdone.before
  have hgoal' := hgoal
  rw [← State.find_frame hspecs (by decide), ← State.find_frame hother (by decide),
    ← ho.find_same (by decide) (by decide), ← State.find_frame hgraphs.others (by decide)] at hgoal'
  simp (disch := decide) only [ha.find_same, State.find_frame hgraphs.others, ho.find_same,
    State.find_frame hother, State.find_frame hspecs, hgraph, hop] at hlast hlast' hnew
  obtain rfl := Option.some.inj hlast
  obtain rfl := Option.some.inj hlast'
  subst hsame
  refine ⟨op, goal, stored, recorded, graph,
    if prerequisitesSatisfied d₁ taskId (graph.revision + 1) then .Ready else .Pending,
    ⟨hop, hunspent, hgoal, hcurrent, hrevision, hstored, hcontent, hplanGoal, hrecorded, hproposal,
      hgraph, hexpected, hactive, hnew⟩, ⟨?_, fun k => ?_, fun id => ?_, fun id => ?_, fun id => ?_,
      fun id => ?_, fun id => ?_⟩⟩
  · split
    · exact .inl rfl
    · exact .inr rfl
  all_goals
    simp (disch := decide) only [hdone.after, State.find_frame hdone.others,
      activateGoal_commits hgoal' hactivated, ha.find_same, hgraphs.after,
      State.find_frame hgraphs.others, openEligibility_commits hopen, ho.find_same, hfind,
      State.find_frame hother, hspec, State.find_frame hspecs, storedSpec, hplanGoal]
  · rfl
  · rfl

/-- A committed materialization: one new Task of the operation's Goal, and the Goal moved from
    Planning to Active if that is where it was. -/
structure Materialized (operationId taskId : String) (d d' : Db D) (op : PlanningOperation D)
    (goal : Goal) (task : Task D) : Prop where
  planned : d.find .planningOperations operationId = some op
  goal_found : d.find .goals op.goalId = some goal
  task_new : d.find .tasks taskId = none
  task_goal : task.goalId = op.goalId
  task_phase : task.phase = .Ready ∨ task.phase = .Pending
  tasks : ∀ id, d'.find .tasks id = if taskId = id then some task else d.find .tasks id
  goals : ∀ id, d'.find .goals id = if op.goalId = id ∧ goal.phase = .Planning then
    some { goal with phase := .Active, revision := goal.revision + 1 } else d.find .goals id

theorem materializePlan_commits [DigestScheme D] {operationId : String} {plan : Materializable D}
    {r : MaterializedPlan D} (h : (materializePlan now operationId taskId plan).Commits d r d') :
    ∃ op goal task, Materialized operationId taskId d d' op goal task := by
  obtain ⟨op, goal, stored, recorded, graph, phase, hchecked, hwritten⟩ := materializePlan_written h
  exact ⟨op, goal, newTask op.goalId (graph.revision + 1) phase plan.spec.digest, hchecked.planned,
    hchecked.goal_found, hchecked.task_new, rfl, hwritten.opens, hwritten.tasks, hwritten.goals⟩

/-! ## What a cancellation does -/

/-- A Task after the fence. -/
def Task.fenced (t : Task D) : Task D :=
  if t.Skipped then t else { t.fence with revision := t.revision + 1 }

theorem fenceTask_commits {id : String} {t : Task D} (ht : d.find .tasks id = some t)
    (h : (fenceTask (id, t)).Commits d u d') :
    ∀ id', d'.find .tasks id' = if id = id' then some t.fenced else d.find .tasks id' := by
  intro id'
  unfold fenceTask at h
  unfold Task.fenced
  split at h
  · rename_i hs
    obtain ⟨-, rfl⟩ := Writer.commits_pure.mp h
    rw [if_pos hs]
    split
    · rename_i heq
      exact heq ▸ ht
    · rfl
  · rename_i hs
    obtain ⟨d₁, old, hu, hend⟩ := update_then h
    obtain ⟨-, rfl⟩ := Writer.commits_ensure.mp hend
    have hold : t = old := Option.some.inj (ht.symm.trans hu.before)
    rw [hu.after, if_neg hs, ← hold]
    rfl

/-- The loop over the Tasks: each listed Task is fenced, every other one is left alone. -/
theorem fenceLoop_commits {rows : List (String × Task D)} (hnodup : (rows.map Prod.fst).Nodup)
    (hrows : ∀ p ∈ rows, d.find .tasks p.1 = some p.2)
    (h : (Writer.forEach fenceTask rows).Commits d u d') (id : String) :
    d'.find .tasks id =
      if id ∈ rows.map Prod.fst then (d.find .tasks id).map Task.fenced else d.find .tasks id := by
  induction rows generalizing d with
  | nil =>
    obtain ⟨-, rfl⟩ := Writer.commits_pure.mp h
    simp
  | cons p rows ih =>
    obtain ⟨_, d₁, hp, hrest⟩ := Writer.commits_bind.mp h
    obtain ⟨hnot, hnodup⟩ := List.nodup_cons.mp hnodup
    have hd := hrows p (List.mem_cons_self ..)
    have hone := fenceTask_commits hd hp
    have hkeep : ∀ q ∈ rows, d₁.find .tasks q.1 = some q.2 := by
      intro q hq
      rw [hone, if_neg]
      · exact hrows q (List.mem_cons_of_mem _ hq)
      · intro heq
        exact hnot (heq ▸ List.mem_map_of_mem hq)
    rw [ih hnodup hkeep hrest, hone]
    by_cases heq : p.1 = id
    · subst heq
      simp [hnot, hd]
    · rw [if_neg heq, List.map_cons]
      simp only [List.mem_cons, Ne.symm heq, false_or]

theorem mem_tasksOf {id : String} {t : Task D} :
    (id, t) ∈ tasksOf goalId d ↔ d.find .tasks id = some t ∧ t.goalId = goalId := by
  unfold tasksOf
  rw [(List.perm_insertionSort _ _).mem_iff, List.mem_filter, State.mem_rows]
  simp

theorem tasksOf_nodup (goalId : String) (d : Db D) :
    ((tasksOf goalId d).map Prod.fst).Nodup := by
  have hperm := (List.perm_insertionSort (fun p q : String × Task D => p.1 ≤ q.1)
    ((d.rows .tasks).filter fun p => p.2.goalId == goalId)).map Prod.fst
  exact hperm.nodup_iff.mpr ((d.table .tasks).nodup.sublist (List.filter_sublist.map _))

/-- A committed cancellation: the Goal is Finalizing towards Cancelled, and exactly its Tasks
    went through the fence. -/
structure GoalCancelled (goalId : String) (d d' : Db D) : Prop where
  goal : ∃ g, d'.find .goals goalId = some g ∧ g.phase = .Finalizing ∧
    g.terminalTarget = some .Cancelled
  others : ∀ id, goalId ≠ id → d'.find .goals id = d.find .goals id
  tasks : ∀ id, d'.find .tasks id =
    (d.find .tasks id).map fun t => if t.goalId = goalId then t.fenced else t

theorem alreadyTargeted_true {phase : GoalPhase} {target : Option GoalPhase}
    (h : (alreadyTargeted phase target).getD false = true) :
    phase = .Finalizing ∧ target = some .Cancelled := by
  unfold alreadyTargeted at h
  split at h <;> simp_all

theorem targetGoal_commits {goal : Goal} {n : Int} (hg : d.find .goals goalId = some goal)
    (h : (targetGoal goalId goal
      ((alreadyTargeted goal.phase goal.terminalTarget).getD false)).Commits d n d') :
    (∃ g, d'.find .goals goalId = some g ∧ g.phase = .Finalizing ∧
      g.terminalTarget = some .Cancelled) ∧
    ∀ id, goalId ≠ id → d'.find .goals id = d.find .goals id := by
  unfold targetGoal at h
  split at h
  · rename_i halready
    obtain ⟨-, rfl⟩ := Writer.commits_pure.mp h
    refine ⟨⟨goal, hg, ?_⟩, fun _ _ => rfl⟩
    exact alreadyTargeted_true halready
  · obtain ⟨-, old, hu⟩ := commits_updateRevisioned h
    refine ⟨⟨_, (hu.after goalId).trans (if_pos rfl), rfl, rfl⟩, fun id hid => ?_⟩
    rw [hu.after, if_neg hid]

theorem cancelGoal_commits {r : Cancellation} (h : (cancelGoal goalId).Commits d r d') :
    GoalCancelled goalId d d' := by
  obtain ⟨goal, hgoal, hbody⟩ := fetch_then h
  obtain ⟨-, hwrites⟩ := Writer.ensure_then hbody
  obtain ⟨_, d₁, htarget, hrest⟩ := Writer.widen_then hwrites
  obtain ⟨_, d₂, hfence, hend⟩ := Writer.widen_then hrest
  obtain ⟨-, rfl⟩ := Writer.commits_pure.mp hend
  have hread := Writer.read_then hfence
  obtain ⟨_, d₃, hloop, hcount⟩ := Writer.commits_bind.mp hread
  obtain ⟨-, rfl⟩ := Writer.commits_pure.mp hcount
  obtain ⟨hself, hothers⟩ := targetGoal_commits hgoal htarget
  have hsame : ∀ id, d'.find .goals id = d₁.find .goals id :=
    State.find_congr (hfence.within.same _ (by decide) (by decide))
  have htasks : ∀ id, d₁.find .tasks id = d.find .tasks id :=
    State.find_congr (htarget.within.same _ (by decide) (by decide))
  refine ⟨by simpa only [hsame] using hself, fun id hid => (hsame id).trans (hothers id hid), ?_⟩
  intro id
  rw [fenceLoop_commits (tasksOf_nodup goalId d₁) (fun p hp => (mem_tasksOf.mp hp).1) hloop id]
  cases hfind : d₁.find .tasks id with
  | none => simp [← htasks, hfind]
  | some t =>
    have hmem : id ∈ (tasksOf goalId d₁).map Prod.fst ↔ t.goalId = goalId := by
      constructor
      · intro hid
        obtain ⟨⟨id', t'⟩, hp, rfl⟩ := List.mem_map.mp hid
        obtain ⟨ht', hg'⟩ := mem_tasksOf.mp hp
        exact Option.some.inj (hfind.symm.trans ht') ▸ hg'
      · exact fun hg => List.mem_map.mpr ⟨(id, t), mem_tasksOf.mpr ⟨hfind, hg⟩, rfl⟩
    rw [← htasks, hfind]
    by_cases hg : t.goalId = goalId
    · simp [hmem, hg]
    · simp [hmem, hg]

end Pantheon
