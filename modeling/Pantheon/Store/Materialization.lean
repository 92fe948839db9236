/-
  Materialized plans over whole runs of the store.
  A Task specification carries copies of facts that live elsewhere: the Goal and its revision,
  the proposal, the evaluator registry and the configuration it was pinned from. The transaction
  compares each with the row it comes from, except the two pins of the acceptance contract: it
  checks that the operation's configuration is still the active one, not that the plan was
  validated against it. An operation is spent by the first materialization.
-/
import Pantheon.Store.Activation

namespace Pantheon

open Relational

variable {D : Type} [DigestScheme D]

/-! ## Stored specifications -/

/-- Two values of one digest have one text. -/
theorem text_of_digest (hD : Collisionless D) {v w : Value} (h : (v.digest : D) = w.digest) :
    v.toCanonicalText = w.toCanonicalText := by
  have hbytes : v.toCanonicalBytes = w.toCanonicalBytes := hD h
  rw [Value.toCanonicalBytes_eq_utf8, Value.toCanonicalBytes_eq_utf8] at hbytes
  exact utf8_injective hbytes

/-- A digest stands for one specification. -/
theorem spec_of_digest (hD : Collisionless D) {spec spec' : TaskSpec D} (h : spec.Sized)
    (h' : spec'.Sized) (hdigest : spec.digest = spec'.digest) : spec = spec' := by
  have hread := TaskSpec.fromCanonicalJson_toCanonicalText (TaskSpec.toValue_wf h.1 h.2)
  rw [text_of_digest hD hdigest,
    TaskSpec.fromCanonicalJson_toCanonicalText (TaskSpec.toValue_wf h'.1 h'.2)] at hread
  exact (Except.ok.inj hread).symm

variable [DecidableEq D]

/-- Every stored specification is the row of one whose digest is its key. -/
def SpecsSound (d : Db D) : Prop :=
  ∀ k row, d.find .taskSpecs k = some row →
    ∃ spec : TaskSpec D, spec.Sized ∧ spec.digest = k ∧ row = storedSpec spec

/-- Every stored Goal revision is named by the digest of its content. -/
def GoalsSound (d : Db D) : Prop :=
  ∀ k row, d.find .goalRevisions k = some row →
    ∃ goal : GoalSpec, row.contentDigest = goal.digest ∧
      row.canonicalJson = goal.toValue.toCanonicalText

/-- Plans hold integers of the source's type. -/
def SizedPlans (_ : Db D) : StoreOp D → Prop
  | .command _ (.materializePlan _ _ plan) => plan.plan.spec.Sized
  | _ => True

variable {d : Db D}

theorem apply_specsSound {op : StoreOp D} {ambient : Ambient} (h : SpecsSound d)
    (hop : SizedPlans d op) : SpecsSound (op.apply ambient d) := by
  intro k row hafter
  rcases apply_row_before (by decide) hafter with hold | ⟨r, d₁, hc, htouches, hrow⟩
  · exact h k row hold
  cases op with
  | command identity mutation =>
    cases mutation with
    | materializePlan operationId taskId plan =>
      obtain ⟨_, _, _, _, _, _, -, hwritten⟩ := materializePlan_written hc
      rw [hwritten.specs] at hrow
      split at hrow
      · rename_i hk
        subst hk
        cases hold : d.find .taskSpecs plan.plan.spec.digest with
        | none =>
          rw [hold] at hrow
          exact ⟨plan.plan.spec, hop, rfl, (Option.some.inj hrow).symm⟩
        | some old =>
          rw [hold] at hrow
          exact h _ row (hold.trans hrow)
      · exact h k row hrow
    | _ => cases htouches
  | write plain => cases plain <;> cases htouches

theorem apply_goalsSound {op : StoreOp D} {ambient : Ambient} (h : GoalsSound d) :
    GoalsSound (op.apply ambient d) := by
  intro k row hafter
  rcases apply_row_before (by decide) hafter with hold | ⟨r, d₁, hc, htouches, hrow⟩
  · exact h k row hold
  cases op with
  | command identity mutation =>
    cases mutation with
    | createGoal goalId spec =>
      obtain ⟨d₂, hgoal, hrest⟩ := insert_then hc
      obtain ⟨d₃, hrevision, hrest⟩ := insert_then hrest
      obtain ⟨d₄, hgraph, hrest⟩ := insert_then hrest
      obtain ⟨-, rfl⟩ := Writer.commits_pure.mp hrest
      obtain ⟨-, -, -, -, -, -, hothers⟩ := State.insert_ok hgraph
      obtain ⟨-, -, -, -, -, hfind, -⟩ := State.insert_ok hrevision
      obtain ⟨-, -, -, -, -, -, hothers'⟩ := State.insert_ok hgoal
      rw [State.find_congr (hothers .goalRevisions (by decide)), hfind,
        State.find_congr (hothers' .goalRevisions (by decide))] at hrow
      split at hrow
      · obtain rfl := Option.some.inj hrow
        exact ⟨spec, rfl, rfl⟩
      · exact h k row hrow
    | _ => cases htouches
  | write plain => cases plain <;> cases htouches

theorem steps_sound {d₀ : Db D} (h₀ : Installed d₀) (hrun : Run.Steps SizedPlans d₀ d) :
    SpecsSound d ∧ GoalsSound d := by
  refine hrun.invariant (P := fun e => SpecsSound e ∧ GoalsSound e)
    ⟨fun k row hrow => ?_, fun k row hrow => ?_⟩
    fun e op ambient he hop => ⟨apply_specsSound he.1 hop, apply_goalsSound he.2⟩
  · rw [h₀.find_none (by decide)] at hrow
    cases hrow
  · rw [h₀.find_none (by decide)] at hrow
    cases hrow

/-! ## Spent operations -/

/-- The operation has been materialized. -/
def Spent (operationId : String) (d : Db D) : Prop :=
  ∃ row, d.find .planningOperations operationId = some row ∧ row.state = .Materialized

theorem apply_spent {operationId : String} (op : StoreOp D) (ambient : Ambient)
    (h : Spent operationId d) : Spent operationId (op.apply ambient d) := by
  obtain ⟨row, hrow, hstate⟩ := h
  rcases apply_row op ambient (by decide) hrow with hkept | ⟨r, d₁, hc, hupdates, hafter⟩
  · exact ⟨row, hkept, hstate⟩
  cases op with
  | command identity mutation =>
    cases mutation with
    | materializePlan other taskId plan =>
      obtain ⟨row', _, _, _, _, _, hchecked, hwritten⟩ := materializePlan_written hc
      have hop := hwritten.operations operationId
      split at hop
      · exact ⟨_, hafter.trans hop, rfl⟩
      · exact ⟨row, hafter.trans (hop.trans hrow), hstate⟩
    | _ => exact absurd hupdates (of_decide_eq_true rfl)
  | write plain => cases plain <;> exact absurd hupdates (of_decide_eq_true rfl)

/-- A spent operation is not materialized again. -/
theorem Spent.refuses {operationId : String} (h : Spent operationId d) (identity : Command D)
    (taskId : String) (plan : ValidPlan D) (ambient : Ambient) :
    ¬(StoreOp.command identity (.materializePlan operationId taskId plan)).Fresh ambient d := by
  intro hfresh
  obtain ⟨r, -, hran⟩ := fresh_ran hfresh
  obtain ⟨d₁, hc, -⟩ := hran.commits
  obtain ⟨row', _, _, _, _, _, hchecked, -⟩ := materializePlan_written hc
  obtain ⟨row, hrow, hstate⟩ := h
  obtain rfl := Option.some.inj (hrow.symm.trans hchecked.planned)
  rw [hchecked.unspent] at hstate
  cases hstate

/-! ## Materializations -/

/-- The plan's acceptance contract is pinned from the configuration its operation froze. -/
def PinsFrozen (d : Db D) : StoreOp D → Prop
  | .command _ (.materializePlan operationId _ plan) =>
    ∀ row, d.find .planningOperations operationId = some row →
      plan.plan.spec.acceptance.configurationActivationSequence =
        row.configurationActivationSequence ∧
      ∀ revision, d.find .configurationRevisions row.configurationActivationSequence = some revision →
        plan.plan.spec.acceptance.evaluatorRegistryDigest = revision.components.evaluatorRegistry
  | _ => True

/-- The new Task's specification agrees with the store the materialization found: the current
    revision of the Goal and its content, the recorded proposal and the active configuration. -/
structure FaithfulTask (operationId taskId : String) (d d' : Db D) (row : PlanningOperation D)
    (goal : Goal) (revision : GoalRevision D) (recorded : PlanningRecord D)
    (active : ConfigurationRevision D) (task : Task D) (spec : TaskSpec D) (proposal : Proposal)
    (authority : Authority D) : Prop where
  planned : d.find .planningOperations operationId = some row
  goal_found : d.find .goals row.goalId = some goal
  revision_found : d.find .goalRevisions (row.goalId, goal.currentRevision) = some revision
  recorded_found : d.find .planningRecords operationId = some recorded
  sequence : activeSequence d = some spec.acceptance.configurationActivationSequence
  active_found : d.find .configurationRevisions spec.acceptance.configurationActivationSequence =
    some active
  task_new : d.find .tasks taskId = none
  task_found : d'.find .tasks taskId = some task
  spec_found : d'.find .taskSpecs task.specDigest = some (storedSpec spec)
  named : task.specDigest = spec.digest
  goals : spec.goalId = row.goalId ∧ task.goalId = row.goalId
  revisions : spec.goalRevision = goal.currentRevision
  validated : ∃ plan, validate proposal authority = .ok plan ∧ plan.spec = spec
  content : authority.goal.toValue.toCanonicalText = revision.canonicalJson
  proposed : proposal.digest = recorded.proposalDigest
  registry : spec.acceptance.evaluatorRegistryDigest = active.components.evaluatorRegistry

/-- In every run, a materialization whose plan is pinned from the configuration its operation
    froze stores a Task whose specification agrees with the Goal, the recorded proposal and the
    active configuration, moves the graph by one revision, and is the only one its operation
    ever gets. -/
theorem materialized_task_faithful (hD : Collisionless D) {d₀ d : Db D} (h₀ : Installed d₀)
    (hrun : Run.Steps SizedPlans d₀ d) {identity : Command D} {operationId taskId : String}
    {plan : ValidPlan D} {ambient : Ambient}
    (hsized : plan.plan.spec.Sized)
    (hpins : PinsFrozen d (.command identity (.materializePlan operationId taskId plan)))
    (hfresh : (StoreOp.command identity (.materializePlan operationId taskId plan)).Fresh ambient d) :
    let d' := (StoreOp.command identity (.materializePlan operationId taskId plan)).apply ambient d
    (∃ row goal revision recorded active task spec proposal authority,
      FaithfulTask operationId taskId d d' row goal revision recorded active task spec proposal
        authority ∧
      ∃ graph, d.find .taskGraphs row.goalId = some graph ∧
        d'.find .taskGraphs row.goalId = some ⟨graph.revision + 1⟩) ∧
    ∀ d'', Run.Steps anyStep d' d'' → ∀ identity' taskId' plan' ambient',
      ¬(StoreOp.command identity' (.materializePlan operationId taskId' plan')).Fresh ambient' d'' := by
  intro d'
  obtain ⟨r, -, hran⟩ := fresh_ran hfresh
  obtain ⟨d₁, hc, hframe⟩ := hran.commits
  obtain ⟨row, goal, revision, recorded, graph, phase, hchecked, hwritten⟩ :=
    materializePlan_written hc
  obtain ⟨hspecs, hgoals⟩ := steps_sound h₀ hrun
  have hreachable : Reachable d := ⟨d₀, h₀, hrun.invariant (P := fun e => Run.Steps anyStep d₀ e)
    .refl fun _ op ambient h _ => .step h op ambient trivial⟩
  obtain ⟨proposal, authority, hvalid⟩ := plan.validated
  obtain ⟨hplanRevision, hproposal, hgoalDigest⟩ := validate_copies hvalid
  obtain ⟨hsequence, hregistry⟩ := hpins row hchecked.planned
  have hactive : activeSequence d = some plan.plan.spec.acceptance.configurationActivationSequence := by
    rw [hsequence]
    exact hchecked.configuration
  obtain ⟨active, hfound⟩ := reachable_active hreachable _ hactive
  have hstored : d₁.find .taskSpecs plan.plan.spec.digest = some (storedSpec plan.plan.spec) := by
    rw [hwritten.specs, if_pos rfl]
    cases hold : d.find .taskSpecs plan.plan.spec.digest with
    | none => rfl
    | some old =>
      -- what was there already is the row of the same specification
      obtain ⟨spec, hspec, hdigest, rfl⟩ := hspecs _ old hold
      rw [Option.getD_some, spec_of_digest hD hspec hsized hdigest]
  have hcontent : authority.goal.toValue.toCanonicalText = revision.canonicalJson := by
    obtain ⟨stored, hdigest, hjson⟩ := hgoals _ revision hchecked.revision_found
    rw [hjson]
    exact text_of_digest hD (hgoalDigest.symm.trans (hchecked.content.symm.trans hdigest))
  have hafter : ∀ i, i ∉ ledgerTables → ∀ k, d'.find i k = d₁.find i k :=
    fun i hi => State.find_congr (hframe i hi)
  refine ⟨⟨row, goal, revision, recorded, active, newTask row.goalId (graph.revision + 1) phase
    plan.plan.spec.digest, plan.plan.spec, proposal, authority, ?_, graph, hchecked.graph_found, ?_⟩,
    fun d'' hlater identity' taskId' plan' ambient' => ?_⟩
  · exact {
      planned := hchecked.planned
      goal_found := hchecked.goal_found
      revision_found := by rw [hchecked.current]; exact hchecked.revision_found
      recorded_found := hchecked.recorded_found
      sequence := hactive
      active_found := hfound
      task_new := hchecked.task_new
      task_found := by rw [hafter _ (by decide), hwritten.tasks, if_pos rfl]
      spec_found := by rw [hafter _ (by decide)]; exact hstored
      named := rfl
      goals := ⟨hchecked.plan_goal, rfl⟩
      revisions := by rw [hplanRevision, hchecked.plan_revision, hchecked.current]
      validated := ⟨plan.plan, hvalid, rfl⟩
      content := hcontent
      proposed := by rw [← hproposal, hchecked.proposal]
      registry := hregistry active (by rw [← hsequence]; exact hfound) }
  · rw [hafter _ (by decide), hwritten.graphs, if_pos rfl]
  · have hspent : Spent operationId d' :=
      ⟨_, by rw [hafter _ (by decide), hwritten.operations, if_pos rfl], rfl⟩
    have hlast : Spent operationId d'' := hlater.invariant (P := Spent operationId) hspent
      fun _ op ambient h _ => apply_spent op ambient h
    exact hlast.refuses identity' taskId' plan' ambient'

namespace Sample

/-- The sample's plan, pinned from a configuration of this registry and sequence. -/
def pinnedPlan (D : Type) [DigestScheme D] (registry : D) (sequence : Int) : ValidPlan D where
  plan :=
    { spec := ⟨"code", "o", [], [⟨"changeset", "code.changeset", false⟩], ["c"], ⟨[], [], []⟩,
        ⟨[⟨"k", "s", "e", "1", .Required⟩], registry, sequence⟩, "goal", 1⟩
      proposalDigest := proposal.digest
      goalRevision := 1
      goalDigest := goal.digest }
  validated := ⟨proposal, ⟨goal, "goal", 1, fun _ => some "1", registry, sequence⟩, rfl⟩

/-- A materialization of a plan pinned from elsewhere. -/
def foreign : Ambient × StoreOp PrefixDigest :=
  call 'd' (.materializePlan "operation" "task" (pinnedPlan PrefixDigest ⟨[9]⟩ 2))

/-- The sample's planning with digests that have no collisions. -/
def exactlyPlanned : List (Ambient × StoreOp ExactDigest) := [
  (ambient 'a', .command ⟨generation, "a", ⟨[0]⟩, "sample"⟩ (.createGoal "goal" goal)),
  (ambient 'b', activateGuided "b" "s" 1),
  (ambient 'c', .command ⟨generation, "c", ⟨[0]⟩, "sample"⟩ (.recordDirectPlanning
    ⟨"operation", "goal", 1, 0, 1, ⟨[8]⟩, "initial", "p", "1"⟩ ⟨proposal.digest, "p", "n"⟩))]

def exactPlan : ValidPlan ExactDigest :=
  pinnedPlan ExactDigest (guided "s").componentDigests.evaluatorRegistry 1

def materializeExactly : StoreOp ExactDigest :=
  .command ⟨generation, "d", ⟨[0]⟩, "sample"⟩ (.materializePlan "operation" "task" exactPlan)

end Sample

open Sample in
/-- The sample's materialization, with a plan pinned from the active configuration. -/
theorem sample_materialized_faithful : ∃ d row goal revision recorded active task spec proposal
    authority, materializeExactly.Fresh (ambient 'd') d ∧
      FaithfulTask "operation" "task" d (materializeExactly.apply (ambient 'd') d) row goal revision
        recorded active task spec proposal authority := by
  have hrun : ∃ d ∈ runAll exactlyInstalled exactlyPlanned,
      materializeExactly.Fresh (ambient 'd') d ∧
        (∀ row ∈ d.find .planningOperations "operation",
          row.configurationActivationSequence = 1) ∧
        ∀ revision ∈ d.find .configurationRevisions 1,
          exactPlan.plan.spec.acceptance.evaluatorRegistryDigest =
            revision.components.evaluatorRegistry := by decide +kernel
  obtain ⟨d, hd, hfresh, hsequence, hregistry⟩ := hrun
  have hsteps : Run.Steps SizedPlans exactlyInstalled d := by
    refine runAll_admitted .refl (fun call hcall e => ?_) hd
    simp only [exactlyPlanned, List.mem_cons, List.not_mem_nil, or_false] at hcall
    rcases hcall with rfl | rfl | rfl <;> trivial
  have hpins : PinsFrozen d materializeExactly := by
    intro row hrow
    have hone := hsequence row hrow
    refine ⟨hone.symm, fun revision hrevision => hregistry revision ?_⟩
    rwa [hone] at hrevision
  obtain ⟨⟨row, goal, revision, recorded, active, task, spec, proposal, authority, hfaithful, -⟩, -⟩ :=
    materialized_task_faithful exactDigest_collisionless exactlyInstalled_installed hsteps
      (by decide) hpins hfresh
  exact ⟨d, row, goal, revision, recorded, active, task, spec, proposal, authority, hfresh, hfaithful⟩

/-- A plan pinned from another registry and sequence is materialized all the same. -/
theorem foreign_pins_stored : ∃ (d : Sample.Store) (task : Task PrefixDigest)
    (stored : StoredTaskSpec PrefixDigest) (active : ConfigurationRevision PrefixDigest),
    Reachable d ∧ Sample.foreign.2.Fresh Sample.foreign.1 d ∧
      (Sample.foreign.2.apply Sample.foreign.1 d).find .tasks "task" = some task ∧
      (Sample.foreign.2.apply Sample.foreign.1 d).find .taskSpecs task.specDigest = some stored ∧
      activeSequence d = some 1 ∧ d.find .configurationRevisions 1 = some active ∧
      stored.configurationActivationSequence = 2 ∧
      stored.evaluatorRegistryDigest ≠ active.components.evaluatorRegistry := by
  have hrun : ∃ d ∈ runAll Sample.installed Sample.planned, activeSequence d = some 1 ∧
      Sample.foreign.2.Fresh Sample.foreign.1 d ∧
        ∃ task ∈ (Sample.foreign.2.apply Sample.foreign.1 d).find .tasks "task",
          ∃ stored ∈ (Sample.foreign.2.apply Sample.foreign.1 d).find .taskSpecs task.specDigest,
            ∃ active ∈ d.find .configurationRevisions 1,
              stored.configurationActivationSequence = 2 ∧
                stored.evaluatorRegistryDigest ≠ active.components.evaluatorRegistry := by
    decide +kernel
  obtain ⟨d, hd, hactive, hfresh, task, htask, stored, hstored, active, hfound, hfacts⟩ := hrun
  exact ⟨d, task, stored, active, Sample.reachable_of_runAll hd, hfresh, htask, hstored, hactive,
    hfound, hfacts⟩

end Pantheon
