/-
  What T3 compares (`apply_run_intent` in `pantheon-store/src/scheduling.rs`).
  A Run intent carries most facts up to three times: on its own, in the Binding and in the
  source snapshot. `ConfigurationGrounded` and `WorkGrounded` collect what the guards compare
  them with, each comparison under its own name. `run_intent_coherent`: with them, an intent whose Binding and
  snapshot name the same Agent and the intent's own activation sequence, under digests that
  hold nothing else, freezes one coherent world. T3 does not look at those three itself:
  `run_intent_mixed` commits a Run whose Binding is another Agent's and another revision's.
-/
import Pantheon.Store.Frozen

namespace Pantheon

open Relational

variable {D : Type} [DecidableEq D] [DigestScheme D]

/-! ## What the guards establish -/

/-- The Binding and the snapshot's policy belong to the stored active revision, and the
    guidance digests are those of the snapshot's Agent in it. -/
structure ConfigurationGrounded (intent : RunIntent D) (d : Db D)
    (revision : ConfigurationRevision D) : Prop where
  active : ∃ pointer, d.find .activeConfiguration () = some pointer ∧
    pointer.activationSequence = some intent.configurationActivationSequence
  stored : d.find .configurationRevisions intent.configurationActivationSequence = some revision
  content : revision.contentDigest = intent.binding.configurationContentDigest
  components : revision.components = intent.binding.componentDigests
  policy : intent.snapshot.contextPolicyDigest = revision.components.contextPolicy
  guidance : ∃ agents, d.find .configurationComponents revision.components.agents = some agents ∧
    guidanceDigests agents.canonicalJson intent.snapshot.agent =
      .ok (intent.snapshot.agentSoulDigest, intent.snapshot.agentBehaviorDigest)
  binding_task : intent.binding.taskId = intent.taskId
  snapshot_goal : intent.snapshot.goalId = intent.goalId

variable {d d' : Db D}

theorem intentConfiguration_grounded {intent : RunIntent D} {u : Unit}
    (h : (intentConfiguration intent).Commits d u d') :
    ∃ revision, ConfigurationGrounded intent d revision := by
  have h := find_then h
  obtain ⟨hactive, h⟩ := Writer.ensure_then h
  obtain ⟨revision, hstored, h⟩ := fetch_then h
  obtain ⟨⟨hcontent, hcomponents, hpolicy⟩, h⟩ := Writer.ensure_then h
  obtain ⟨agents, hagents, h⟩ := fetch_then h
  obtain ⟨expected, hguidance, h⟩ := requireOk_then h
  obtain ⟨hexpected, h⟩ := Writer.ensure_then h
  obtain ⟨htask, h⟩ := Writer.ensure_then h
  obtain ⟨hgoal, -⟩ := Writer.commits_ensure.mp h
  exact ⟨revision, Option.bind_eq_some_iff.mp hactive, hstored, hcontent, hcomponents,
    by rw [hpolicy, hcomponents], ⟨agents, hagents, hexpected ▸ hguidance⟩, htask, hgoal⟩

/-- The snapshot's Task, Goal, graph and Workspace facts are the stored ones. -/
structure WorkGrounded (intent : RunIntent D) (d : Db D) (task : Task D) (goal : Goal)
    (graph : TaskGraph) (workspace : Workspace) : Prop where
  task_found : d.find .tasks intent.taskId = some task
  task_goal : task.goalId = intent.goalId
  task_ready : task.phase = .Ready ∧ task.activeRunId = none
  task_revision : task.revision = intent.expectedTaskRevision
  task_spec : task.specDigest = intent.snapshot.taskSpecDigest
  goal_found : d.find .goals intent.goalId = some goal
  goal_dispatchable : goal.phase.isDispatchable = true
  goal_revision : goal.currentRevision = intent.snapshot.goalRevision
  graph_found : d.find .taskGraphs intent.goalId = some graph
  graph_revision : graph.revision = intent.snapshot.graphRevision
  workspace_found : d.find .workspaces intent.snapshot.workspaceId = some workspace
  workspace_task : workspace.taskId = intent.taskId
  workspace_ready : workspace.phase = .Ready ∧ workspace.materialization = .Present
  workspace_base : workspace.resolvedBase = intent.snapshot.workspaceResolvedBase

theorem intentWork_grounded {intent : RunIntent D} {u u' : Unit} {d'' : Db D}
    (htask : (intentTask intent).Commits d u d')
    (hworkspace : (intentWorkspace intent).Commits d u' d'') :
    ∃ task goal graph workspace, WorkGrounded intent d task goal graph workspace := by
  obtain ⟨task, hfound, h⟩ := fetch_then htask
  obtain ⟨hgoal, h⟩ := Writer.ensure_then h
  obtain ⟨hready, h⟩ := Writer.ensure_then h
  obtain ⟨hrevision, h⟩ := Writer.ensure_then h
  obtain ⟨hspec, h⟩ := Writer.ensure_then h
  obtain ⟨goal, hgoalFound, h⟩ := fetch_then h
  obtain ⟨hdispatchable, h⟩ := Writer.ensure_then h
  obtain ⟨-, h⟩ := Writer.ensure_then h
  obtain ⟨⟨-, hgoalRevision⟩, h⟩ := Writer.ensure_then h
  obtain ⟨graph, hgraph, h⟩ := fetch_then h
  obtain ⟨⟨-, hgraphRevision⟩, -⟩ := Writer.commits_ensure.mp h
  obtain ⟨workspace, hworkspaceFound, h⟩ := fetch_then hworkspace
  obtain ⟨⟨howner, hphase, hpresent, -⟩, h⟩ := Writer.ensure_then h
  obtain ⟨hbase, -⟩ := Writer.ensure_then h
  exact ⟨task, goal, graph, workspace, hfound, hgoal, hready, hrevision, hspec, hgoalFound,
    hdispatchable, hgoalRevision, hgraph, hgraphRevision, hworkspaceFound, howner,
    ⟨hphase, hpresent⟩, hbase⟩

/-- Everything a committed intent was compared with. -/
theorem applyRunIntent_grounded {intent : RunIntent D} {r : RunIntentCommit}
    (h : (applyRunIntent intent).Commits d r d') :
    (∃ revision, ConfigurationGrounded intent d revision) ∧
      ∃ task goal graph workspace, WorkGrounded intent d task goal graph workspace := by
  obtain ⟨_, -, h⟩ := fetch_then h
  obtain ⟨-, h⟩ := Writer.ensure_then h
  obtain ⟨-, h⟩ := Writer.ensure_then h
  obtain ⟨_, hconfiguration, h⟩ := Writer.guard_then h
  obtain ⟨_, htask, h⟩ := Writer.guard_then h
  obtain ⟨_, hworkspace, -⟩ := Writer.guard_then h
  exact ⟨intentConfiguration_grounded hconfiguration, intentWork_grounded htask hworkspace⟩

/-! ## Coherent Runs -/

/-- What T3 leaves to its caller: the Binding and the snapshot name one Agent and the intent's
    activation sequence. -/
structure IntentConsistent (intent : RunIntent D) : Prop where
  agent : intent.binding.agent = intent.snapshot.agent
  binding_sequence :
    intent.binding.configurationActivationSequence = intent.configurationActivationSequence
  snapshot_sequence :
    intent.snapshot.configurationActivationSequence = intent.configurationActivationSequence

/-- The Run's Binding and source snapshot, as they are stored. -/
structure Freezes (d : Db D) (runId : String) (binding : ExecutionBinding D)
    (snapshot : ContextSourceSnapshot D) : Prop where
  run : ∃ run, d.find .runs runId = some run ∧ run.taskId = binding.taskId ∧
    d.find .executionBindings run.bindingDigest = some (storedBinding binding) ∧
    d.find .contextSourceSnapshots run.contextSourceSnapshotDigest = some (storedSnapshot snapshot)

theorem steps_freezes {cond : Db D → StoreOp D → Prop} (hrun : Run.Steps cond d d') {runId : String}
    {binding : ExecutionBinding D} {snapshot : ContextSourceSnapshot D}
    (h : Freezes d runId binding snapshot) : Freezes d' runId binding snapshot := by
  obtain ⟨run, hfound, htask, hbinding, hsnapshot⟩ := h.run
  exact ⟨run, steps_frozen hrun (by decide) hfound, htask, steps_frozen hrun (by decide) hbinding,
    steps_frozen hrun (by decide) hsnapshot⟩

/-- A Binding and a source snapshot of one world, and the rows of that world. -/
structure Coherent (d : Db D) (binding : ExecutionBinding D) (snapshot : ContextSourceSnapshot D) :
    Prop where
  agent : binding.agent = snapshot.agent
  sequence : binding.configurationActivationSequence = snapshot.configurationActivationSequence
  active : ∃ pointer, d.find .activeConfiguration () = some pointer ∧
    pointer.activationSequence = some binding.configurationActivationSequence
  revision : ∃ revision agents,
    d.find .configurationRevisions binding.configurationActivationSequence = some revision ∧
    revision.contentDigest = binding.configurationContentDigest ∧
    revision.components = binding.componentDigests ∧
    snapshot.contextPolicyDigest = revision.components.contextPolicy ∧
    d.find .configurationComponents revision.components.agents = some agents ∧
    guidanceDigests agents.canonicalJson binding.agent =
      .ok (snapshot.agentSoulDigest, snapshot.agentBehaviorDigest)
  task : ∃ task, d.find .tasks binding.taskId = some task ∧ task.goalId = snapshot.goalId ∧
    task.specDigest = snapshot.taskSpecDigest
  goal : ∃ goal, d.find .goals snapshot.goalId = some goal ∧
    goal.currentRevision = snapshot.goalRevision
  graph : ∃ graph, d.find .taskGraphs snapshot.goalId = some graph ∧
    graph.revision = snapshot.graphRevision
  workspace : ∃ workspace, d.find .workspaces snapshot.workspaceId = some workspace ∧
    workspace.taskId = binding.taskId ∧ workspace.resolvedBase = snapshot.workspaceResolvedBase

omit [DecidableEq D] [DigestScheme D] in
theorem getD_own {α : Type} {o : Option α} {a : α} (h : ∀ b, o = some b → b = a) :
    o.getD a = a := by
  cases o with
  | none => rfl
  | some b => exact h b rfl

/-- Nothing but the intent's own Binding and snapshot is stored under its digests. -/
def OwnDigests (intent : RunIntent D) (d : Db D) : Prop :=
  (∀ row, d.find .executionBindings intent.bindingDigest = some row →
    row = storedBinding intent.binding) ∧
  ∀ row, d.find .contextSourceSnapshots intent.snapshotDigest = some row →
    row = storedSnapshot intent.snapshot

/-- Under its own digests, T3 stores the intent's Binding and snapshot for its Run. -/
theorem applyRunIntent_stores {intent : RunIntent D} {r : RunIntentCommit} {d'' : Db D}
    (h : (applyRunIntent intent).Commits d r d') (hown : OwnDigests intent d)
    (hframe : ∀ i, i ∉ ledgerTables → d''.table i = d'.table i) :
    Freezes d'' intent.runId intent.binding intent.snapshot := by
  obtain ⟨⟨_, hconfiguration⟩, -⟩ := applyRunIntent_grounded h
  obtain ⟨_, _, hintended⟩ := applyRunIntent_commits h
  obtain ⟨hbinding, hsnapshot⟩ := applyRunIntent_freezes h
  rw [getD_own hown.1] at hbinding
  rw [getD_own hown.2] at hsnapshot
  refine ⟨newRun intent, ?_, hconfiguration.binding_task.symm, ?_, ?_⟩
  · rw [State.find_congr (hframe .runs (by decide)), hintended.runs, if_pos rfl]
  · rw [State.find_congr (hframe .executionBindings (by decide))]
    exact hbinding
  · rw [State.find_congr (hframe .contextSourceSnapshots (by decide))]
    exact hsnapshot

/-- T3 freezes one coherent world, in every state and for every intent whose own parts agree
    where T3 does not compare them; the Run keeps it in every later state. -/
theorem run_intent_coherent {d : Db D} {ambient : Ambient} {identity : Command D}
    {intent : RunIntent D} (hconsistent : IntentConsistent intent) (hown : OwnDigests intent d)
    (hfresh : (StoreOp.command identity (.commitRunIntent intent)).Fresh ambient d) :
    Coherent d intent.binding intent.snapshot ∧
      ∀ later, Run.Steps anyStep
        ((StoreOp.command identity (.commitRunIntent intent)).apply ambient d) later →
        Freezes later intent.runId intent.binding intent.snapshot := by
  obtain ⟨r, -, d₁, hc, hframe⟩ := fresh_ran hfresh
  have hc : (applyRunIntent intent).Commits d r d₁ := hc
  refine ⟨?_, fun later hrun => steps_freezes hrun (applyRunIntent_stores hc hown hframe)⟩
  obtain ⟨⟨revision, hconfiguration⟩, task, goal, graph, workspace, hwork⟩ :=
    applyRunIntent_grounded hc
  obtain ⟨agents, hagents, hguidance⟩ := hconfiguration.guidance
  rw [← hconsistent.agent] at hguidance
  have hactive := hconfiguration.active
  have hstored := hconfiguration.stored
  rw [← hconsistent.binding_sequence] at hactive hstored
  exact {
    agent := hconsistent.agent
    sequence := hconsistent.binding_sequence.trans hconsistent.snapshot_sequence.symm
    active := hactive
    revision := ⟨revision, agents, hstored, hconfiguration.content, hconfiguration.components,
      hconfiguration.policy, hagents, hguidance⟩
    task := ⟨task, hconfiguration.binding_task ▸ hwork.task_found,
      hwork.task_goal.trans hconfiguration.snapshot_goal.symm, hwork.task_spec⟩
    goal := ⟨goal, hconfiguration.snapshot_goal ▸ hwork.goal_found, hwork.goal_revision⟩
    graph := ⟨graph, hconfiguration.snapshot_goal ▸ hwork.graph_found, hwork.graph_revision⟩
    workspace := ⟨workspace, hwork.workspace_found,
      hwork.workspace_task.trans hconfiguration.binding_task.symm, hwork.workspace_base⟩ }

namespace Sample

/-- Everything up to the Run intent. -/
def readied : List (Ambient × StoreOp PrefixDigest) := dispatched.dropLast

/-- An intent whose Binding is of another Agent and of the first revision, while its snapshot
    is of the second. -/
def mixed : RunIntent PrefixDigest :=
  let foreign := { binding with agent := ⟨"z", 1⟩ }
  let current := { snapshot with configurationActivationSequence := 2 }
  { intent with
    configurationActivationSequence := 2
    bindingDigest := foreign.digest
    binding := foreign
    snapshotDigest := current.digest
    snapshot := current }

/-- Nothing has been frozen yet. -/
def unfrozen (d : Store) : Bool :=
  (d.rows .executionBindings).isEmpty && (d.rows .contextSourceSnapshots).isEmpty

theorem unfrozen_own {intent : RunIntent PrefixDigest} {d : Store} (h : unfrozen d = true) :
    OwnDigests intent d := by
  simp only [unfrozen, Bool.and_eq_true, List.isEmpty_iff] at h
  constructor
  · intro row hrow
    have hmem := State.mem_rows.mpr hrow
    simp [h.1] at hmem
  · intro row hrow
    have hmem := State.mem_rows.mpr hrow
    simp [h.2] at hmem

/-- The second activation of the configuration. -/
def reactivate : Ambient × StoreOp PrefixDigest :=
  call 'i' (.activateConfiguration compiled "v" ⟨[7]⟩ 2)

theorem intents_commit : ∃ d ∈ runAll installed readied, unfrozen d = true ∧
    (∃ d₁, runAll d [call 'h' (.commitRunIntent intent)] = some d₁) ∧
    ∃ d' ∈ runAll d [reactivate], unfrozen d' = true ∧
      ∃ d₂, runAll d' [call 'h' (.commitRunIntent mixed)] = some d₂ := by
  simp only [← Option.isSome_iff_exists]
  decide +kernel

end Sample

theorem run_intent_coherent_sample : ∃ d : Sample.Store,
    Coherent d Sample.binding Sample.snapshot ∧
    Freezes ((Sample.call 'h' (.commitRunIntent Sample.intent)).2.apply (Sample.ambient 'h') d)
      "run" Sample.binding Sample.snapshot := by
  obtain ⟨d, -, hunfrozen, ⟨d₁, hd₁⟩, -⟩ := Sample.intents_commit
  have hconsistent : IntentConsistent Sample.intent := ⟨rfl, rfl, rfl⟩
  obtain ⟨hcoherent, hlater⟩ := run_intent_coherent hconsistent (Sample.unfrozen_own hunfrozen)
    (runAll_cons hd₁).1
  exact ⟨d, hcoherent, hlater _ .refl⟩

/-- A Run is committed whose Binding names an Agent that is not the snapshot's and the first
    activation, while the second is active. -/
theorem run_intent_mixed : ∃ d : Sample.Store, Reachable d ∧
    (Sample.call 'h' (.commitRunIntent Sample.mixed)).2.Fresh (Sample.ambient 'h') d ∧
    Freezes ((Sample.call 'h' (.commitRunIntent Sample.mixed)).2.apply (Sample.ambient 'h') d)
      "run" Sample.mixed.binding Sample.mixed.snapshot ∧
    Sample.mixed.binding.agent ≠ Sample.mixed.snapshot.agent ∧
    Sample.mixed.binding.configurationActivationSequence ≠
      Sample.mixed.snapshot.configurationActivationSequence := by
  obtain ⟨d, hd, -, -, d', hd', hunfrozen, d₂, hd₂⟩ := Sample.intents_commit
  obtain ⟨hfresh, -⟩ := runAll_cons hd₂
  obtain ⟨r, -, d₃, hc, hframe⟩ := fresh_ran hfresh
  exact ⟨d', ⟨_, Sample.installed_installed, runAll_steps (runAll_steps .refl hd) hd'⟩, hfresh,
    applyRunIntent_stores hc (Sample.unfrozen_own hunfrozen) hframe, by decide, by decide⟩

end Pantheon
