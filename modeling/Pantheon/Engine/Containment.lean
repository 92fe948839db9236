/-
  Authority from the Goal down to a sealed changeset.
  A machine of planning and sealing calls beside arbitrary other store operations. A Task that the
  planning controller materializes stays within the stored Goal revision: its effects, resources
  and the pins of its criteria (`Contained`), and every path a seal publishes for it is covered by
  a resource pattern of the Goal. `materialize` reads the digest of the evaluator registry and the
  registry itself in two reads, and the store compares neither with the configuration it checks;
  the theorem is about runs in which the configuration a plan names is still the active one when
  the plan is materialized.
-/
import Pantheon.Engine.Capture
import Pantheon.Engine.Planning
import Pantheon.Planning.Glob
import Pantheon.Store.Cancellation
import Pantheon.Store.Materialization

namespace Pantheon

open Interleave Relational Routine

variable {D : Type} [DecidableEq D] [DigestScheme D]

/-! ## What a validation has read -/

section Planning

variable {E L : Type} {C : Type → Type} {h : List (SiteMoment D E L C)}

/-- The facts behind a planning context, each as it was read; the registry was read after the
    configuration that names it. -/
structure ContextRead (h : List (SiteMoment D E L C)) (goalId : String) (found : PlanningContext D) :
    Prop where
  goal : ∃ s text, Moment.tx .read s s ∈ h ∧ goalRevisionJson goalId found.goalRevision s.db = some text ∧
    GoalSpec.fromCanonicalJson text = .ok found.goal
  registry : ∃ s t older active text, Moment.tx .read t t :: older <:+ h ∧ Moment.tx .read s s ∈ older ∧
    Durable s.db active ∧ active.activationSequence = found.configurationActivationSequence ∧
    active.components.evaluatorRegistry = found.evaluatorRegistryDigest ∧
    activeEvaluatorComponentJson t.db = some text ∧
    RegistryResolver.fromCanonicalJson text = .ok found.evaluators

theorem ContextRead.mono {h' : List (SiteMoment D E L C)} (hs : h <:+ h') {goalId : String}
    {found : PlanningContext D} (hr : ContextRead h goalId found) : ContextRead h' goalId found := by
  obtain ⟨⟨s, text, hmem, hgoal⟩, ⟨s', t, older, active, text', hsuffix, hregistry⟩⟩ := hr
  exact ⟨⟨s, text, hs.subset hmem, hgoal⟩, ⟨s', t, older, active, text', hsuffix.trans hs, hregistry⟩⟩

variable {act : List (SiteMoment D E L C) → Action (SiteLabel D L) C → Prop}
  (hread : ∀ h, act h (.tx .read))

include hread

theorem observed_accounted (goalId : String) :
    Accounted act h (PlanningController.observed goalId) fun h' found =>
      ∃ s, Moment.tx .read s s ∈ h' ∧ Durable s.db found.2.2 := by
  unfold PlanningController.observed
  refine .readThen (hread _) fun _ => .orElseThen fun goal _ => ?_
  refine .readThen (hread _) fun _ => .orElseThen fun graph _ => ?_
  refine .tryReadThen (hread _) fun s pointer hpointer => .orElseThen fun active hactive => .pure ?_
  exact ⟨s, List.mem_cons_self, (configurationPointer_ok hpointer).2 active hactive⟩

theorem interpreted_accounted (goalId : String) (goal : GoalRecord) (graph : GraphRecord)
    (active : ActivatedConfiguration D) {s : Site D E} (hmem : Moment.tx .read s s ∈ h)
    (hdurable : Durable s.db active) :
    Accounted act h (PlanningController.interpreted goalId goal graph active) fun h' found =>
      ContextRead h' goalId found := by
  unfold PlanningController.interpreted
  refine .readThen (hread _) fun t => .orElseThen fun component hcomponent => ?_
  refine .ofExceptThen fun evaluators hevaluators => ?_
  refine .readThen (hread _) fun t' => .orElseThen fun stored hstored => ?_
  refine .ofExceptThen fun spec hspec => .pure {
    goal := ⟨t', stored, List.mem_cons_self, hstored, mapError_eq_ok.mp hspec⟩
    registry := ⟨s, t, h, active, component, List.suffix_cons _ _, hmem, hdurable, rfl, rfl, hcomponent,
      mapError_eq_ok.mp hevaluators⟩ }

theorem context_accounted (goalId : String) :
    Accounted act h (PlanningController.context goalId) fun h' found =>
      ContextRead h' goalId found := by
  refine Accounted.andThen (observed_accounted hread goalId) fun h₁ found _ hobserved => ?_
  obtain ⟨s, hmem, hdurable⟩ := hobserved
  exact interpreted_accounted hread goalId found.1 found.2.1 found.2.2 hmem hdurable

/-- A validation's plan, with the context it was validated against. -/
def PlanRead (h : List (SiteMoment D E L C)) (plan : Materializable D) : Prop :=
  ∃ goalId proposal found, ContextRead h goalId found ∧
    validate proposal (found.authority goalId) = .ok plan

theorem validate_accounted (goalId : String) (proposal : Proposal) :
    Accounted act h (PlanningController.validate goalId proposal) fun h' plan =>
      PlanRead h' plan.plan := by
  unfold PlanningController.validate
  refine Accounted.andThen (context_accounted hread goalId) fun h₁ found _ hfound => ?_
  refine .ofExcept fun plan hplan => ?_
  exact ⟨goalId, proposal, found, hfound, validPlan_ok (mapError_eq_ok.mp hplan)⟩

end Planning

/-! ## What a run keeps of Tasks and configurations -/

variable {d d' : Db D} {text taskId : String} {spec : TaskSpec D}

/-- A Task keeps its specification. -/
theorem steps_task (hrun : Run.Steps anyStep d d') {id : String} {specDigest : D}
    (h : ∃ task, d.find .tasks id = some task ∧ task.specDigest = specDigest) :
    ∃ task, d'.find .tasks id = some task ∧ task.specDigest = specDigest := by
  refine hrun.invariant (P := fun e => ∃ task, e.find .tasks id = some task ∧
    task.specDigest = specDigest) h fun e op ambient he _ => ?_
  obtain ⟨task, htask, hdigest⟩ := he
  have hgrown : (op.apply ambient e).find .tasks id ≠ none :=
    apply_grown op ambient (by decide) (by rw [htask]; exact Option.some_ne_none _)
  obtain ⟨task', htask'⟩ := Option.ne_none_iff_exists'.mp hgrown
  rcases apply_task htask' with ⟨old, hold, hmove⟩ | ⟨hnone, -⟩
  · obtain rfl := Option.some.inj (htask.symm.trans hold)
    exact ⟨task', htask', hmove.specDigest.trans hdigest⟩
  · rw [htask] at hnone
    cases hnone

/-- The active sequence never falls. -/
theorem steps_activeSequence (h : Reachable d) (hrun : Run.Steps anyStep d d') {n : Int}
    (hn : activeSequence d = some n) : ∃ m, activeSequence d' = some m ∧ n ≤ m := by
  refine (hrun.invariant (P := fun e => Reachable e ∧ ∃ m, activeSequence e = some m ∧ n ≤ m)
    ⟨h, n, hn, le_rfl⟩ fun e op ambient he _ => ?_).2
  obtain ⟨hreachable, m, hm, hle⟩ := he
  obtain ⟨m', hm', hle'⟩ : ∃ m', activeSequence (op.apply ambient e) = some m' ∧ m ≤ m' :=
    (apply_active (reachable_active hreachable)).2 m hm
  exact ⟨hreachable.apply op ambient, m', hm', hle.trans hle'⟩

omit [DigestScheme D] in
theorem activeEvaluatorComponentJson_some (h : activeEvaluatorComponentJson d = some text) :
    ∃ n revision component, activeSequence d = some n ∧
      d.find .configurationRevisions n = some revision ∧
      d.find .configurationComponents revision.components.evaluatorRegistry = some component ∧
      component.canonicalJson = text := by
  obtain ⟨active, hactive, h⟩ := Option.bind_eq_some_iff.mp h
  obtain ⟨n, hn, h⟩ := Option.bind_eq_some_iff.mp h
  obtain ⟨revision, hrevision, h⟩ := Option.bind_eq_some_iff.mp h
  obtain ⟨component, hcomponent, h⟩ := Option.bind_eq_some_iff.mp h
  refine ⟨n, revision, component, ?_, hrevision, hcomponent, Option.some.inj h⟩
  rw [activeSequence, hactive]
  exact hn

/-- The text under this digest is a registry that resolves the reference to the version. -/
def Registered (d : Db D) (registry : D) (reference version : String) : Prop :=
  ∃ component resolver, d.find .configurationComponents registry = some component ∧
    RegistryResolver.fromCanonicalJson component.canonicalJson = .ok resolver ∧
    resolver.resolve reference = some version

/-- A specification within the authority of a stored Goal revision, its criteria at the versions
    of the stored registry it names. -/
structure WithinGoal (d : Db D) (spec : TaskSpec D) (goal : GoalSpec) : Prop where
  revision : ∃ row, d.find .goalRevisions (spec.goalId, spec.goalRevision) = some row ∧
    row.canonicalJson = goal.toValue.toCanonicalText
  effects : ∀ effect ∈ spec.scope.permittedEffects,
    effect ∈ goal.constraints.permittedEffects ∧ effect ∉ goal.constraints.forbiddenEffects
  resources : ∀ resource ∈ spec.scope.resources, resource ∈ goal.constraints.permittedResources
  criteria : ∀ criterion ∈ spec.acceptance.criteria, Registered d
    spec.acceptance.evaluatorRegistryDigest criterion.evaluatorRef criterion.evaluatorVersion

theorem WithinGoal.later {goal : GoalSpec} (hrun : Run.Steps anyStep d d')
    (h : WithinGoal d spec goal) : WithinGoal d' spec goal := by
  obtain ⟨row, hrow, htext⟩ := h.revision
  refine ⟨⟨row, steps_frozen hrun (by decide) hrow, htext⟩, h.effects, h.resources,
    fun criterion hmem => ?_⟩
  obtain ⟨component, resolver, hcomponent, hread⟩ := h.criteria criterion hmem
  exact ⟨component, resolver, steps_frozen hrun (by decide) hcomponent, hread⟩

/-- The Task's stored specification is this one, and it is within the Goal's authority. -/
structure Contained (d : Db D) (taskId : String) (spec : TaskSpec D) (goal : GoalSpec) : Prop
    extends WithinGoal d spec goal where
  task : ∃ row, d.find .tasks taskId = some row ∧ row.specDigest = spec.digest
  stored : d.find .taskSpecs spec.digest = some (storedSpec spec)

theorem Contained.later {goal : GoalSpec} (hrun : Run.Steps anyStep d d')
    (h : Contained d taskId spec goal) :
    Contained d' taskId spec goal where
  toWithinGoal := h.toWithinGoal.later hrun
  task := steps_task hrun h.task
  stored := steps_frozen hrun (by decide) h.stored

theorem pinCriterion_ok {resolve : String → Option String} {c : ProposedCriterion}
    {pinned : AcceptanceCriterion} (h : pinCriterion resolve c = .ok pinned) :
    resolve pinned.evaluatorRef = some pinned.evaluatorVersion := by
  unfold pinCriterion at h
  split at h
  · rename_i version hversion
    obtain rfl := Except.ok.inj h
    exact hversion
  · cases h

/-- The registry a context names is the one it has read, if its configuration is still active. -/
theorem registry_read {s t : Db D} {active : ActivatedConfiguration D} (hreachable : Reachable s)
    (hst : Run.Steps anyStep s t) (htd : Run.Steps anyStep t d) (hdurable : Durable s active)
    (htext : activeEvaluatorComponentJson t = some text)
    (hactive : activeSequence d = some active.activationSequence) :
    ∃ component, d.find .configurationComponents active.components.evaluatorRegistry = some component ∧
      component.canonicalJson = text := by
  obtain ⟨n, revision, component, hn, hrevision, hcomponent, rfl⟩ :=
    activeEvaluatorComponentJson_some htext
  -- sequences only grow, so the registry was read under the configuration that names it
  obtain ⟨n', hn', hle⟩ := steps_activeSequence hreachable hst hdurable.sequence
  obtain rfl := Option.some.inj (hn.symm.trans hn')
  obtain ⟨m, hm, hle'⟩ := steps_activeSequence (hreachable.steps hst) htd hn
  obtain rfl := Option.some.inj (hactive.symm.trans hm)
  obtain rfl := le_antisymm hle hle'
  obtain ⟨version, hrow⟩ := hdurable.revision
  have hsame := steps_frozen hst (i := .configurationRevisions) (by decide) hrow
  obtain rfl := Option.some.inj (hsame.symm.trans hrevision)
  exact ⟨component, steps_frozen htd (i := .configurationComponents) (by decide) hcomponent, rfl⟩

/-! ## The machine -/

/-- The object store's acknowledgements are recorded. -/
def acknowledge {β : Type} (c : SealPort D β) (b : β) (s : Site D (Acknowledged D)) :
    Site D (Acknowledged D) :=
  match c, b with
  | .publish _, .ok reference => { s with own := reference :: s.own }
  | _, _ => s

omit [DigestScheme D] in
theorem acknowledge_db {β : Type} (c : SealPort D β) (b : β) (s : Site D (Acknowledged D)) :
    (acknowledge c b s).db = s.db := by
  unfold acknowledge
  split <;> rfl

inductive ControlCall (D : Type) where
  | plan (command : Command D) (operationId goalId : String)
  | materialize (command : Command D) (operationId taskId goalId : String) (proposal : Proposal)
  | sealChangeset (workspaceRoot : String) (command : SealCommand D) (request : SealRequest)

/-- The program of a call; who called reads the answer. -/
def ControlCall.program : ControlCall D → Routine D (Acknowledged D) Unit (SealPort D) Unit
  | .plan command operationId goalId =>
    (PlanningController.plan command operationId goalId).run.discard
  | .materialize command operationId taskId goalId proposal =>
    (PlanningController.materialize command operationId taskId goalId proposal).run.discard
  | .sealChangeset workspaceRoot command request =>
    (ChangesetSealer.seal workspaceRoot command request).run.discard

abbrev ControlConfig (D : Type) [DecidableEq D] [DigestScheme D] : Type 1 :=
  Config (Site D (Acknowledged D)) (SiteLabel D Unit) (SealPort D) Unit

abbrev ControlEvent (D : Type) [DecidableEq D] [DigestScheme D] : Type 1 :=
  Event (Site D (Acknowledged D)) (SiteLabel D Unit) (SealPort D) Unit

/-- Planning and sealing calls beside any other operations of the store, with crashes. -/
def controlMachine : Machine (Site D (Acknowledged D)) (SiteLabel D Unit) (SealPort D) Unit where
  starts p := ∃ call : ControlCall D, p = call.program
  env s s' := ∃ ambient op, SizedPlans s.db op ∧ s' = { s with db := op.apply ambient s.db }
  onCrash := id
  hear := acknowledge

/-- The configuration a plan names is the active one. -/
def PinsActive (d : Db D) : StoreOp D → Prop
  | .command _ (.materializePlan _ _ plan) =>
    activeSequence d = some plan.plan.spec.acceptance.configurationActivationSequence
  | _ => True

/-- Plans hold integers of the source's type, and are materialized under the configuration they
    name. -/
def PinnedSteps (c : ControlConfig D) (e : ControlEvent D) : Prop :=
  ∀ ambient op others, e = .tx (.call ambient op) others →
    SizedPlans c.shared.db op ∧ PinsActive c.shared.db op

/-- What justifies the actions of a call. -/
def controlAct (h : List (SealMoment D)) : Action (SiteLabel D Unit) (SealPort D) → Prop
  | .tx (.call _ (.command _ (.materializePlan _ _ plan))) => PlanRead h plan.plan
  | .tx (.call _ (.command _ (.commitChangesetSeal sealed))) => ∃ spec scope entries,
      SpecRead h sealed.taskId spec ∧ sealScope spec = .ok scope ∧
        sealed.artifactJson = (changesetManifest sealed.repository sealed.resolvedBase
          sealed.revisionStateDigest entries).toCanonicalText ∧
        ∀ entry ∈ entries, scope.authorizes entry.path = true
  | _ => True

omit [DigestScheme D] in
theorem workspaceForTask_taskId {workspace : WorkspaceRecord}
    (h : workspaceForTask taskId d = .ok (some workspace)) : workspace.taskId = taskId := by
  unfold workspaceForTask at h
  split at h
  · cases h
  · rename_i p hp
    have hrow := List.find?_some hp
    simp only [Bool.and_eq_true, beq_iff_eq] at hrow
    split at h
    · rename_i record hrecord
      obtain rfl := Option.some.inj (Except.ok.inj h)
      unfold decodeWorkspace at hrecord
      split at hrecord
      · cases hrecord
      · split at hrecord
        · cases hrecord
        · obtain rfl := Except.ok.inj hrecord
          exact hrow.1
    · cases h

/-- A seal's account, as far as the scope goes. -/
theorem sealAct_controlAct {workspaceRoot : String} {command : SealCommand D} {request : SealRequest}
    {h : List (SealMoment D)} {a : Action (SiteLabel D Unit) (SealPort D)}
    (ha : sealAct workspaceRoot command request h a) : controlAct h a := by
  unfold controlAct
  split
  · exact ha.elim
  · obtain ⟨spec, scope, workspace, fence, entries, assembled, hu, hbacked⟩ := ha
    obtain ⟨s, -, hread⟩ := hu.workspace_read
    obtain ⟨captured, hassembled⟩ := hbacked.assembled
    obtain ⟨finalEntries, -, hassembled⟩ := bind_ok hassembled
    obtain ⟨state, -, hassembled⟩ := bind_ok hassembled
    obtain rfl := hbacked.published
    obtain rfl := Except.ok.inj hassembled
    have htask : workspace.taskId = request.taskId := workspaceForTask_taskId hread
    refine ⟨spec, scope, entries, ?_, hu.compiled, rfl, fun entry he => (hbacked.backed entry he).authorized⟩
    rw [sealedChangeset, htask]
    exact hu.spec_read
  · trivial

theorem plan_controlled (command : Command D) (operationId goalId : String) :
    Accounted controlAct ([] : List (SealMoment D))
      (PlanningController.plan command operationId goalId) fun _ _ => True :=
  Accounted.andThen (context_accounted (fun _ => trivial) goalId) fun _ _ _ _ =>
    .perform trivial fun _ => trivial

theorem materialize_controlled (command : Command D) (operationId taskId goalId : String)
    (proposal : Proposal) :
    Accounted controlAct ([] : List (SealMoment D))
      (PlanningController.materialize command operationId taskId goalId proposal) fun _ _ => True := by
  unfold PlanningController.materialize
  refine Accounted.andThen (validate_accounted (fun _ => trivial) goalId proposal)
    fun h₁ plan _ hplan => ?_
  refine .perform trivial fun _ => ?_
  obtain ⟨goalId, proposal, found, hcontext, hvalid⟩ := hplan
  exact ⟨goalId, proposal, found, hcontext.mono (List.suffix_cons _ _), hvalid⟩

theorem program_accounts (call : ControlCall D) :
    call.program.Accounts ⟨controlAct, honest⟩ (fun _ _ => True) [] := by
  cases call with
  | plan command operationId goalId =>
    exact .bind (plan_controlled command operationId goalId) fun _ _ _ => trivial
  | materialize command operationId taskId goalId proposal =>
    exact .bind (materialize_controlled command operationId taskId goalId proposal)
      fun _ _ _ => trivial
  | sealChangeset workspaceRoot command request =>
    exact .bind (.weaken (fun _ _ => sealAct_controlAct)
      (seal_seals : Seals workspaceRoot command request [] _ _)) fun _ _ _ => trivial

theorem controlMachine_bound : StoreBound SizedPlans (controlMachine (D := D)) where
  effects p hp := by
    obtain ⟨call, rfl⟩ := hp
    exact ⟨_, _, program_accounts call⟩
  hear c b s := acknowledge_db c b s
  crash _ := rfl
  env s s' h := by
    obtain ⟨ambient, op, hop, rfl⟩ := h
    exact ⟨ambient, op, hop, rfl⟩

/-! ## What a call of the controller has read, in the present state -/

/-- The states of a trail lie before the present one, and are states of installations. -/
structure Backward (h : List (SealMoment D)) (now : Site D (Acknowledged D)) : Prop where
  chain : Chain Since h now
  own : ∀ l s s', Moment.tx l s s' ∈ h → Since s s'
  reachable : ∀ l s s', Moment.tx l s s' ∈ h → Reachable s.db
  goals : ∀ l s s', Moment.tx l s s' ∈ h → GoalsSound s.db

theorem since_trans (s s' s'' : Site D (Acknowledged D)) (h : Since s s') (h' : Since s' s'') :
    Since s s'' := h.trans h'

theorem Backward.read {h : List (SealMoment D)} {now s : Site D (Acknowledged D)} (hb : Backward h now)
    (hmem : Moment.tx .read s s ∈ h) : Run.Steps anyStep s.db now.db :=
  hb.chain.mem since_trans hb.own hmem

/-- A validated plan is within the Goal's authority while its configuration is active. -/
theorem planRead_withinGoal {h : List (SealMoment D)} {now : Site D (Acknowledged D)}
    (hb : Backward h now) {plan : Materializable D} (hread : PlanRead h plan)
    (hactive : activeSequence now.db = some plan.spec.acceptance.configurationActivationSequence) :
    ∃ goal, WithinGoal now.db plan.spec goal := by
  obtain ⟨goalId, proposal, found, hcontext, hvalid⟩ := hread
  obtain ⟨task, haccepted⟩ := validate_ok hvalid
  refine ⟨found.goal, ?_, ?_, ?_, fun criterion hcriterion => ?_⟩
  · obtain ⟨s, text, hmem, htext, hgoal⟩ := hcontext.goal
    obtain ⟨row, hrow, rfl⟩ := Option.map_eq_some_iff.mp htext
    obtain ⟨goal, -, hcanonical⟩ := hb.goals _ _ _ hmem _ _ hrow
    rw [hcanonical, GoalSpec.fromCanonicalJson_toCanonicalText] at hgoal
    obtain rfl := Except.ok.inj hgoal
    refine ⟨row, ?_, hcanonical⟩
    rw [haccepted.goal.1, haccepted.goal.2.1]
    exact steps_frozen (hb.read hmem) (by decide) hrow
  · rw [haccepted.scope]
    exact haccepted.effects
  · rw [haccepted.scope]
    exact haccepted.resources
  · obtain ⟨c, -, hpinned⟩ := Reorder.forall₂_mem_right haccepted.pinned criterion hcriterion
    obtain ⟨s, t, older, active, text, hsuffix, hmem, hdurable, hsequence, hregistry, htext,
      hresolver⟩ := hcontext.registry
    have ht : Moment.tx .read t t ∈ h := hsuffix.subset List.mem_cons_self
    have hs : Moment.tx .read s s ∈ h := ((List.suffix_cons _ _).trans hsuffix).subset hmem
    have hst : Run.Steps anyStep s.db t.db := (hb.chain.before hsuffix).mem since_trans
      (fun l s s' hm => hb.own l s s' (((List.suffix_cons _ _).trans hsuffix).subset hm)) hmem
    have hstill : activeSequence now.db = some active.activationSequence := by
      rw [hactive, haccepted.configuration, hsequence]
      rfl
    obtain ⟨component, hcomponent, rfl⟩ := registry_read (hb.reachable _ _ _ hs) hst (hb.read ht)
      hdurable htext hstill
    refine ⟨component, found.evaluators, ?_, hresolver, pinCriterion_ok hpinned⟩
    rw [haccepted.registry, ← hcomponent, hregistry]
    rfl

/-- A materialization stores the specification of its plan under the Task. -/
theorem materialized_stored (hD : Collisionless D) {ambient : Ambient} {identity : Command D}
    {operationId : String} {plan : ValidPlan D} (hsound : SpecsSound d)
    (hsized : plan.plan.spec.Sized) (hnew : d.find .tasks taskId = none) {task : Task D}
    (hmade : (StoreOp.apply (.command identity (.materializePlan operationId taskId plan)) ambient d).find
      .tasks taskId = some task) :
    task.specDigest = plan.plan.spec.digest ∧
      (StoreOp.apply (.command identity (.materializePlan operationId taskId plan)) ambient d).find
        .taskSpecs plan.plan.spec.digest = some (storedSpec plan.plan.spec) := by
  rcases apply_cases (.command identity (.materializePlan operationId taskId plan)) ambient d with
    hsame | ⟨r, d', hc, hframe⟩
  · rw [hsame, hnew] at hmade
    cases hmade
  · obtain ⟨op, goal, stored, recorded, graph, phase, -, hwritten⟩ := materializePlan_written hc
    rw [State.find_congr (hframe .tasks (by decide)), hwritten.tasks, if_pos rfl] at hmade
    obtain rfl := Option.some.inj hmade
    refine ⟨rfl, ?_⟩
    rw [State.find_congr (hframe .taskSpecs (by decide)), hwritten.specs, if_pos rfl]
    cases hrow : d.find .taskSpecs plan.plan.spec.digest with
    | none => rfl
    | some row =>
      obtain ⟨spec, hspec, hdigest, rfl⟩ := hsound _ _ hrow
      obtain rfl := spec_of_digest hD hspec hsized hdigest
      rfl

section Run

variable {c c' : ControlConfig D}

/-- The trail of the call that takes a step, with its justification. -/
theorem controlled_step (h : Reach controlMachine PinnedSteps (fun s => Installed s.db) c)
    {l : SiteLabel D Unit} {others : List (Prog (Site D (Acknowledged D)) (SiteLabel D Unit) (SealPort D) Unit)}
    (hs : Step controlMachine c (.tx l others) c') :
    ∃ trail, controlAct trail (.tx l) ∧ Backward trail c.shared := by
  cases hs with
  | @tx s past ps qs l _ t k =>
    obtain ⟨p₀, trail, ⟨call, rfl⟩, htrail, hof, hchain, hown⟩ :=
      storeBound_trail controlMachine_bound h (.tx l t k) (by simp)
    have haccount := (program_accounts call).trail htrail
    have hguarded := storeBound_guarded controlMachine_bound
      (fun c ambient op others hc => (hc ambient op others rfl).1) (fun _ h => h) h
    refine ⟨trail, haccount.1, hchain, hown, fun l s s' hm => ?_, fun l s s' hm => ?_⟩
    · obtain ⟨d₀, hinstalled, hrun⟩ := hguarded s (hof _ hm).1
      exact ⟨d₀, hinstalled, hrun.weaken fun _ _ _ => trivial⟩
    · obtain ⟨d₀, hinstalled, hrun⟩ := hguarded s (hof _ hm).1
      exact (steps_sound hinstalled hrun).2

/-- A path a seal publishes is covered by a resource pattern of the Goal. -/
theorem sealed_within {goal : GoalSpec} (hcontained : Contained c.shared.db taskId spec goal)
    (hsized : spec.Sized) (h : Reach controlMachine PinnedSteps (fun s => Installed s.db) c)
    {ambient : Ambient} {identity : Command D} {sealed : SealedChangeset D} {others}
    (hs : Step controlMachine c
      (.tx (.call ambient (.command identity (.commitChangesetSeal sealed))) others) c')
    (htask : sealed.taskId = taskId) :
    ∃ entries, sealed.artifactJson = (changesetManifest sealed.repository sealed.resolvedBase
        sealed.revisionStateDigest entries).toCanonicalText ∧
      ∀ entry ∈ entries, ∃ pattern ∈ goal.constraints.permittedResources, ∃ segments,
        Spells segments pattern ∧ Covered segments (pathComponents entry.path.bytes) := by
  obtain ⟨trail, ⟨spec', scope, entries, hread, hscope, hmanifest, hauthorized⟩, hb⟩ :=
    controlled_step h hs
  -- the specification the seal has read is the stored one
  obtain ⟨s, task, hmem, htaskRecord, -, hdigest⟩ := hread.task
  obtain ⟨row, hrow, rfl⟩ := Option.map_eq_some_iff.mp htaskRecord
  obtain ⟨row', hrow', hdigest'⟩ := steps_task (hb.read hmem) ⟨row, hrow, hdigest⟩
  obtain ⟨row'', hrow'', hspec⟩ := hcontained.task
  rw [htask] at hrow'
  obtain rfl := Option.some.inj (hrow'.symm.trans hrow'')
  obtain ⟨s', text, hmem', htext, hdecoded⟩ := hread.stored
  obtain ⟨stored, hstored, rfl⟩ := Option.map_eq_some_iff.mp htext
  have hsame : spec'.digest = spec.digest := hdigest'.symm.trans hspec
  have hkept := steps_frozen (hb.read hmem') (i := .taskSpecs) (by decide) hstored
  rw [hsame, hcontained.stored] at hkept
  obtain rfl := Option.some.inj hkept
  have hround := TaskSpec.fromCanonicalJson_toCanonicalText (TaskSpec.toValue_wf hsized.1 hsized.2)
  obtain rfl := Except.ok.inj (hdecoded.symm.trans hround)
  obtain ⟨compiled, hcompiled, hrest⟩ := bind_ok hscope
  obtain ⟨_, -, hrest⟩ := bind_ok hrest
  obtain rfl := Except.ok.inj hrest
  refine ⟨entries, hmanifest, fun entry hentry => ?_⟩
  obtain ⟨pattern, hpattern, hcovered⟩ :=
    (authorizes_iff (mapError_eq_ok.mp hcompiled) entry.path).mp (hauthorized entry hentry)
  exact ⟨pattern, hcontained.resources pattern hpattern, hcovered⟩

end Run

/-! ## A call of `materialize` -/

section Call

variable {E L : Type} {C : Type → Type} {world : Site D E → ∀ {β : Type}, C β → β → Prop}
  {s : Site D E} {goalId : String} {goal : GoalRecord} {graph : GraphRecord}
  {active : ActivatedConfiguration D}

theorem observed_computes {pointer : ConfigurationPointer D} (hgoal : goalRecord goalId s.db = some goal)
    (hgraph : graphRecord goalId s.db = some graph) (hpointer : configurationPointer s.db = .ok pointer)
    (hactive : pointer.active = some active) :
    Site.Computes @world (PlanningController.observed goalId : Fallible PlanningError D E L C _) s
      (.ok (goal, graph, active)) := by
  unfold PlanningController.observed
  refine Site.Computes.readStore.thenOk ?_
  rw [hgoal]
  refine Site.Computes.orElse.thenOk ?_
  refine Site.Computes.readStore.thenOk ?_
  rw [hgraph]
  refine Site.Computes.orElse.thenOk ?_
  have hread := congrArg (Except.mapError PlanningError.Store) hpointer
  refine (hread ▸ Site.Computes.tryRead).thenOk ?_
  rw [hactive]
  exact Site.Computes.orElse.thenOk .pure

theorem interpreted_computes {stored : String} {evaluators : RegistryResolver} {spec : GoalSpec}
    (hcomponent : activeEvaluatorComponentJson s.db = some text)
    (hevaluators : RegistryResolver.fromCanonicalJson text = .ok evaluators)
    (hrevision : goalRevisionJson goalId goal.currentRevision s.db = some stored)
    (hspec : GoalSpec.fromCanonicalJson stored = .ok spec) :
    Site.Computes @world (PlanningController.interpreted goalId goal graph active :
      Fallible PlanningError D E L C _) s (.ok ⟨spec, goal.currentRevision, graph.revision,
        active.activationSequence, active.components.evaluatorRegistry, evaluators⟩) := by
  unfold PlanningController.interpreted
  refine Site.Computes.readStore.thenOk ?_
  rw [hcomponent]
  refine Site.Computes.orElse.thenOk ?_
  rw [hevaluators]
  refine Site.Computes.ofExcept.thenOk ?_
  refine Site.Computes.readStore.thenOk ?_
  rw [hrevision]
  refine Site.Computes.orElse.thenOk ?_
  rw [hspec]
  exact Site.Computes.ofExcept.thenOk .pure

end Call

def CallsStore : ControlEvent D → Prop
  | .tx (.call _ _) _ => True
  | _ => False

/-- A condition that only refuses calls of the store. -/
def Lenient (cond : ControlConfig D → ControlEvent D → Prop) : Prop :=
  ∀ c e, ¬CallsStore e → cond c e

section Forward

variable {cond : ControlConfig D → ControlEvent D → Prop} {init : Site D (Acknowledged D) → Prop}

/-- Others run operations of the store while the calls in flight wait. -/
theorem Lenient.others (hcond : Lenient cond) {own : Acknowledged D}
    {past : List (Site D (Acknowledged D))} {pool}
    (h : Reach controlMachine cond init ⟨⟨d, own⟩, past, pool⟩) (hrun : Run.Steps SizedPlans d d') :
    ∃ past', Reach controlMachine cond init ⟨⟨d', own⟩, past', pool⟩ := by
  refine hrun.invariant (P := fun e => ∃ past', Reach controlMachine cond init ⟨⟨e, own⟩, past', pool⟩)
    ⟨past, h⟩ fun e op ambient he hop => ?_
  obtain ⟨past', hreach⟩ := he
  exact ⟨_, hreach.step (.env _ ⟨ambient, op, hop, rfl⟩) (hcond _ _ id)⟩

/-- A call in flight reads the store by itself. -/
theorem Lenient.reads (hcond : Lenient cond) {s : Site D (Acknowledged D)}
    {past : List (Site D (Acknowledged D))} {ε α β : Type}
    {x : Fallible ε D (Acknowledged D) Unit (SealPort D) α}
    {f : α → Fallible ε D (Acknowledged D) Unit (SealPort D) β} {a : α}
    (h : Reach controlMachine cond init ⟨s, past, [(x >>= f).run.discard]⟩)
    (hx : Site.Computes (fun _ _ _ _ => False) x s (.ok a))
    {R : List (SealMoment D) → α → Prop} {trail : List (SealMoment D)}
    (haccounted : Accounted (fun _ => Eq (.tx .read)) trail x R) :
    ∃ past', Reach controlMachine cond init ⟨s, past', [(f a).run.discard]⟩ := by
  have hshape : (x >>= f).run.discard =
      x.run >>= fun r => ExceptT.bindCont f r >>= fun _ => pure () := Prog.bind_assoc _ _ _
  rw [hshape] at h
  have hdoes : x.run.Does acknowledge s (.ret (.ok a)) s :=
    Prog.Runs.does nofun ((hx _ _).mpr ⟨rfl, rfl⟩)
  refine Reach.part [] [] h hdoes haccounted ?_ fun c _ x b => hcond _ (.call x b) id
  intro trail c l others hl
  obtain rfl := Action.tx.inj hl
  exact hcond _ (.tx .read others) id

/-- A call of `materialize` comes to its transaction, whatever others have done since it has read
    the active configuration. -/
theorem Lenient.materialize (hcond : Lenient cond) {d₀ : Db D} (h₀ : init ⟨d₀, []⟩)
    (hbefore : Run.Steps SizedPlans d₀ d) (hbetween : Run.Steps SizedPlans d d') {goalId : String}
    {goal : GoalRecord} {graph : GraphRecord} {pointer : ConfigurationPointer D}
    {active : ActivatedConfiguration D} (hgoal : goalRecord goalId d = some goal)
    (hgraph : graphRecord goalId d = some graph) (hpointer : configurationPointer d = .ok pointer)
    (hactive : pointer.active = some active) {stored : String} {evaluators : RegistryResolver}
    {spec : GoalSpec} (hcomponent : activeEvaluatorComponentJson d' = some text)
    (hevaluators : RegistryResolver.fromCanonicalJson text = .ok evaluators)
    (hrevision : goalRevisionJson goalId goal.currentRevision d' = some stored)
    (hspec : GoalSpec.fromCanonicalJson stored = .ok spec) (proposal : Proposal) {plan : ValidPlan D}
    (hplan : validPlan proposal (PlanningContext.authority ⟨spec, goal.currentRevision, graph.revision,
      active.activationSequence, active.components.evaluatorRegistry, evaluators⟩ goalId) = .ok plan)
    (command : Command D) (operationId taskId : String) (ambient : Ambient) :
    ∃ c c', Reach controlMachine cond init c ∧ c.shared.db = d' ∧ Step controlMachine c
      (.tx (.call ambient (.command command (.materializePlan operationId taskId plan))) []) c' := by
  obtain ⟨past, hreach⟩ := hcond.others (.start h₀) hbefore
  replace hreach := hreach.step
    (.spawn _ ⟨.materialize command operationId taskId goalId proposal, rfl⟩) (hcond _ _ id)
  have hshape : (PlanningController.materialize command operationId taskId goalId proposal :
      Fallible PlanningError D (Acknowledged D) Unit (SealPort D) _) =
      PlanningController.observed goalId >>= fun found =>
        PlanningController.interpreted goalId found.1 found.2.1 found.2.2 >>= fun found =>
          Routine.ofExcept ((validPlan proposal (found.authority goalId)).mapError .Invalid) >>=
            fun plan => tryAs .Store
              (Routine.perform (.command command (.materializePlan operationId taskId plan))) := by
    rw [PlanningController.materialize, PlanningController.validate, PlanningController.context,
      Routine.bind_assoc, Routine.bind_assoc]
  rw [ControlCall.program, hshape] at hreach
  -- the Goal, its graph and the configuration first, then what others do, and then the texts
  obtain ⟨past₁, hreach⟩ := hcond.reads hreach (observed_computes hgoal hgraph hpointer hactive)
    (observed_accounted (h := []) (fun _ => rfl) goalId)
  obtain ⟨past₂, hreach⟩ := hcond.others hreach hbetween
  obtain ⟨past₃, hreach⟩ := hcond.reads hreach
    (interpreted_computes hcomponent hevaluators hrevision hspec)
    (interpreted_accounted (s := ⟨d, []⟩) (fun _ => rfl) goalId _ _ _ (List.mem_singleton.mpr rfl)
      ((configurationPointer_ok hpointer).2 _ hactive))
  rw [hplan] at hreach
  replace hreach := hreach.step
    (@Step.call _ _ _ _ controlMachine _ _ [] [] _ Surrounded.ambient _ ambient) (hcond _ _ id)
  exact ⟨_, _, hreach, rfl, @Step.tx _ _ _ _ controlMachine _ _ [] [] _ _ _ _⟩

end Forward

/-! ## Two registries -/

namespace Sample

/-- A configuration whose registry has one reference, at this version. -/
def evaluating (version : String) : CompiledConfiguration :=
  ⟨⟨[]⟩, ⟨[], [], []⟩, ⟨[], []⟩, ⟨[⟨"e", version⟩], []⟩, contextPolicy, ⟨1, []⟩⟩

def exactCall (id : Char) (mutation : Mutation ExactDigest) : Ambient × StoreOp ExactDigest :=
  (ambient id, .command ⟨generation, String.ofList [id], ⟨[0]⟩, "sample"⟩ mutation)

def activateEvaluating (id : Char) (version : String) (expected : Int) :
    Ambient × StoreOp ExactDigest :=
  exactCall id (.activateConfiguration
    ⟨(evaluating version).componentRecords, (evaluating version).componentDigests⟩ compilerVersion
    ⟨[7]⟩ expected)

def recordPlanning (sequence : Int) : Ambient × StoreOp ExactDigest :=
  exactCall 'p' (.recordDirectPlanning
    ⟨"operation", "goal", 1, 0, sequence, ⟨[8]⟩, "initial", "p", "1"⟩ ⟨proposal.digest, "p", "n"⟩)

/-- A Goal under a configuration with the first version. -/
def firstEvaluating : List (Ambient × StoreOp ExactDigest) :=
  [exactCall 'a' (.createGoal "goal" goal), activateEvaluating 'b' "1" 1]

/-- A plan that names the registry of the first version and pins this one. -/
def versioned (version : String) : ValidPlan ExactDigest where
  plan :=
    { spec := ⟨"code", "o", [], [⟨"changeset", "code.changeset", false⟩], ["c"], ⟨[], [], []⟩,
        ⟨[⟨"k", "s", "e", version, .Required⟩], (evaluating "1").componentDigests.evaluatorRegistry, 1⟩,
        "goal", 1⟩
      proposalDigest := proposal.digest
      goalRevision := 1
      goalDigest := goal.digest }
  validated := ⟨proposal, ⟨goal, "goal", 1, RegistryResolver.resolve ⟨[("e", version)]⟩,
    (evaluating "1").componentDigests.evaluatorRegistry, 1⟩, rfl⟩

def materializeVersioned (version : String) : Ambient × StoreOp ExactDigest :=
  exactCall 'm' (.materializePlan "operation" "task" (versioned version))

theorem evaluating_text (version : String) :
    RegistryResolver.fromCanonicalJson (evaluating version).evaluators.toValue.toCanonicalText =
      .ok ⟨[("e", version)]⟩ :=
  fromCanonicalJson_component (EvaluatorComponent.toValue_wf nofun)

/-- Steps whose plans hold integers of the source's type. -/
def SizedSteps (c : ControlConfig ExactDigest) (e : ControlEvent ExactDigest) : Prop :=
  ∀ ambient op others, e = .tx (.call ambient op) others → SizedPlans c.shared.db op

/-- A call of `materialize` that reads the configuration of the first version, and the registry
    after what others have done. -/
theorem versioned_step {cond : ControlConfig ExactDigest → ControlEvent ExactDigest → Prop}
    (hcond : Lenient cond) {between : List (Ambient × StoreOp ExactDigest)} {version : String}
    {d' : Db ExactDigest} (hrun : runAll exactlyInstalled (firstEvaluating ++ between) = some d')
    (hsized : ∀ call ∈ between, ∀ e, SizedPlans e call.2)
    (hcomponent : activeEvaluatorComponentJson d' =
      some (evaluating version).evaluators.toValue.toCanonicalText)
    (hrevision : goalRevisionJson "goal" 1 d' = some goal.toValue.toCanonicalText) :
    ∃ c c', Reach controlMachine cond (fun s => Installed s.db) c ∧ c.shared.db = d' ∧
      Step controlMachine c (.tx (.call (ambient 'm') (materializeVersioned version).2) []) c' := by
  have hfirst : ((runAll exactlyInstalled firstEvaluating).any fun d =>
      goalRecord "goal" d == some ⟨"goal", .Planning, 1, 1⟩ && graphRecord "goal" d == some ⟨"goal", 0⟩ &&
        d.find .activeConfiguration () == some ⟨2, some 1⟩ &&
        (d.find .configurationRevisions 1).any fun row =>
          row.components == (evaluating "1").componentDigests) = true := by decide +kernel
  obtain ⟨d, hd, hbetween⟩ := runAll_append hrun
  rw [hd, Option.any_some] at hfirst
  simp only [Bool.and_eq_true, beq_iff_eq, Option.any_eq_true] at hfirst
  obtain ⟨⟨⟨hgoal, hgraph⟩, hpointer⟩, row, hrow, hcomponents⟩ := hfirst
  have hbefore : Run.Steps SizedPlans exactlyInstalled d := by
    refine runAll_admitted .refl (fun call hcall e => ?_) hd
    simp only [firstEvaluating, List.mem_cons, List.not_mem_nil, or_false] at hcall
    rcases hcall with rfl | rfl <;> trivial
  have hcompiled : Run.Steps OfCompiled exactlyInstalled d := by
    refine runAll_admitted .refl (fun call hcall e => ?_) hd
    simp only [firstEvaluating, List.mem_cons, List.not_mem_nil, or_false] at hcall
    rcases hcall with rfl | rfl
    · trivial
    · exact ⟨rfl, evaluating "1", rfl⟩
  have hread := configurationPointer_sound exactDigest_collisionless
    (steps_configurationSound exactlyInstalled_installed hcompiled) hpointer hrow
  rw [hcomponents] at hread
  exact hcond.materialize exactlyInstalled_installed hbefore (runAll_admitted .refl hsized hbetween)
    hgoal hgraph hread rfl hcomponent (evaluating_text version) hrevision
    (GoalSpec.fromCanonicalJson_toCanonicalText goal) proposal (validPlan_of rfl) _ _ _ _

end Sample

/-- A Task the planning controller materializes stays within the authority of the stored Goal in
    every later state, and so does every path a later seal publishes for it. -/
theorem goal_authority_contained (hD : Collisionless D) {c c' : ControlConfig D}
    (h : Reach controlMachine PinnedSteps (fun s => Installed s.db) c) {ambient : Ambient}
    {identity : Command D} {operationId taskId : String} {plan : ValidPlan D} {others}
    (hs : Step controlMachine c
      (.tx (.call ambient (.command identity (.materializePlan operationId taskId plan))) others) c')
    (hcond : PinnedSteps c
      (.tx (.call ambient (.command identity (.materializePlan operationId taskId plan))) others))
    (hnew : c.shared.db.find .tasks taskId = none) (hmade : c'.shared.db.find .tasks taskId ≠ none) :
    ∃ goal, ∀ later, Steps controlMachine PinnedSteps c' later →
      Contained later.shared.db taskId plan.plan.spec goal ∧
      ∀ next ambient identity sealed others,
        Step controlMachine later
          (.tx (.call ambient (.command identity (.commitChangesetSeal sealed))) others) next →
        sealed.taskId = taskId →
        ∃ entries, sealed.artifactJson = (changesetManifest sealed.repository sealed.resolvedBase
            sealed.revisionStateDigest entries).toCanonicalText ∧
          ∀ entry ∈ entries, ∃ pattern ∈ goal.constraints.permittedResources, ∃ segments,
            Spells segments pattern ∧ Covered segments (pathComponents entry.path.bytes) := by
  obtain ⟨trail, hread, hb⟩ := controlled_step h hs
  obtain ⟨hsized, hactive⟩ := hcond _ _ _ rfl
  obtain ⟨goal, hwithin⟩ := planRead_withinGoal hb hread hactive
  have hafter := h.step hs hcond
  have hsince : Run.Steps anyStep c.shared.db c'.shared.db :=
    step_kept (storeBound_preserves controlMachine_bound) h hs
  obtain ⟨d₀, hinstalled, hrun⟩ := storeBound_guarded controlMachine_bound
    (fun c ambient op others hc => (hc ambient op others rfl).1) (fun _ h => h) h c.shared
    List.mem_cons_self
  have hdb := storeBound_call controlMachine_bound h hs
  obtain ⟨task, htask⟩ := Option.ne_none_iff_exists'.mp hmade
  obtain ⟨hspec, hstored⟩ := materialized_stored hD (steps_sound hinstalled hrun).1 hsized hnew
    (hdb ▸ htask)
  have hcontained : Contained c'.shared.db taskId plan.plan.spec goal :=
    ⟨hwithin.later hsince, ⟨task, htask, hspec⟩, hdb ▸ hstored⟩
  refine ⟨goal, fun later hlater => ?_⟩
  have hstill := hcontained.later
    (steps_kept (storeBound_preserves controlMachine_bound) hafter hlater)
  exact ⟨hstill, fun next ambient identity sealed others hseal htaskId =>
    sealed_within hstill hsized (hafter.steps hlater) hseal htaskId⟩

open Sample in
/-- A plan materialized under the configuration it names. -/
theorem goal_authority_contained_sample : ∃ (c c' : ControlConfig ExactDigest) (goal : GoalSpec),
    Step controlMachine c (.tx (.call (ambient 'm') (materializeVersioned "1").2) []) c' ∧
      Contained c'.shared.db "task" (versioned "1").plan.spec goal := by
  have hrun : ((runAll exactlyInstalled (firstEvaluating ++ [recordPlanning 1])).any fun d =>
      activeEvaluatorComponentJson d == some (evaluating "1").evaluators.toValue.toCanonicalText &&
        goalRevisionJson "goal" 1 d == some goal.toValue.toCanonicalText &&
        activeSequence d == some 1 && (d.find .tasks "task").isNone &&
        (((materializeVersioned "1").2.apply (ambient 'm') d).find .tasks "task").isSome) = true := by
    decide +kernel
  obtain ⟨d, hd, hp⟩ := (Option.any_eq_true _ _).mp hrun
  simp only [Bool.and_eq_true, beq_iff_eq, Option.isNone_iff_eq_none] at hp
  obtain ⟨⟨⟨⟨hcomponent, hrevision⟩, hactive⟩, hnew⟩, hmade⟩ := hp
  have hlenient : Lenient (PinnedSteps (D := ExactDigest)) := by
    rintro c e he ambient op others rfl
    exact absurd trivial he
  obtain ⟨c, c', hreach, rfl, hstep⟩ := versioned_step hlenient hd
    (List.forall_mem_singleton.mpr fun _ => trivial) hcomponent hrevision
  have hsized : (versioned "1").plan.spec.Sized := by decide
  have hpinned : PinnedSteps c (.tx (.call (ambient 'm') (materializeVersioned "1").2) []) := by
    rintro ambient op others heq
    obtain ⟨heq, -⟩ := Event.tx.inj heq
    obtain ⟨-, rfl⟩ := SiteLabel.call.inj heq
    exact ⟨hsized, hactive⟩
  have hafter := storeBound_call controlMachine_bound hreach hstep
  obtain ⟨goal, hcontained⟩ := goal_authority_contained exactDigest_collisionless hreach hstep hpinned
    hnew (by rw [hafter]; exact Option.isSome_iff_ne_none.mp hmade)
  exact ⟨c, c', goal, hstep, (hcontained c' .refl).1⟩

open Sample in
/-- A call reads the configuration, others activate the next one and record the planning operation
    under it, and the call goes on with the registry of the next one: the stored specification pins
    a version that the registry it names does not declare. -/
theorem pins_from_two_registries : ∃ c c' : ControlConfig ExactDigest,
    Reach controlMachine SizedSteps (fun s => Installed s.db) c ∧
      Step controlMachine c (.tx (.call (ambient 'm') (materializeVersioned "2").2) []) c' ∧
      c.shared.db.find .tasks "task" = none ∧
      (∃ task, c'.shared.db.find .tasks "task" = some task ∧
        task.specDigest = (versioned "2").plan.spec.digest) ∧
      c'.shared.db.find .taskSpecs (versioned "2").plan.spec.digest =
        some (storedSpec (versioned "2").plan.spec) ∧
      ∃ criterion ∈ (versioned "2").plan.spec.acceptance.criteria,
        ¬Registered c'.shared.db (versioned "2").plan.spec.acceptance.evaluatorRegistryDigest
          criterion.evaluatorRef criterion.evaluatorVersion := by
  have hrun : ((runAll exactlyInstalled
      (firstEvaluating ++ [activateEvaluating 'c' "2" 2, recordPlanning 2])).any fun d =>
      activeEvaluatorComponentJson d == some (evaluating "2").evaluators.toValue.toCanonicalText &&
        goalRevisionJson "goal" 1 d == some goal.toValue.toCanonicalText &&
        (d.find .configurationComponents (evaluating "1").componentDigests.evaluatorRegistry).any
          (fun component => component.canonicalJson ==
            (evaluating "1").evaluators.toValue.toCanonicalText) &&
        (d.find .tasks "task").isNone &&
        (((materializeVersioned "2").2.apply (ambient 'm') d).find .tasks "task").isSome) = true := by
    decide +kernel
  obtain ⟨d, hd, hp⟩ := (Option.any_eq_true _ _).mp hrun
  simp only [Bool.and_eq_true, beq_iff_eq, Option.isNone_iff_eq_none, Option.any_eq_true,
    Option.isSome_iff_exists] at hp
  obtain ⟨⟨⟨⟨hcomponent, hrevision⟩, component, hfound, htext⟩, hnew⟩, task, htask⟩ := hp
  have hlenient : Lenient SizedSteps := by
    rintro c e he ambient op others rfl
    exact absurd trivial he
  have hsized : ∀ call ∈ firstEvaluating ++ [activateEvaluating 'c' "2" 2, recordPlanning 2],
      ∀ e, SizedPlans e call.2 := by
    simp [firstEvaluating, activateEvaluating, recordPlanning, exactCall, SizedPlans]
  obtain ⟨hspec, hstored⟩ := materialized_stored exactDigest_collisionless
    (steps_sound exactlyInstalled_installed (runAll_admitted .refl hsized hd)).1 (by decide) hnew htask
  obtain ⟨c, c', hreach, rfl, hstep⟩ := versioned_step hlenient hd
    (fun call hcall => hsized call (List.mem_append_right _ hcall)) hcomponent hrevision
  have hafter := storeBound_call controlMachine_bound hreach hstep
  refine ⟨c, c', hreach, hstep, hnew, ⟨task, by rwa [hafter], hspec⟩, by rwa [hafter], _,
    List.mem_cons_self, ?_⟩
  rintro ⟨component', resolver, hcomponent', hresolver, hresolve⟩
  have hkept : c'.shared.db.find .configurationComponents
      (evaluating "1").componentDigests.evaluatorRegistry = some component := by
    rw [hafter]
    exact apply_frozen _ _ (by decide) hfound
  obtain rfl := Option.some.inj (hkept.symm.trans hcomponent')
  rw [htext, evaluating_text] at hresolver
  obtain rfl := Except.ok.inj hresolver
  exact absurd hresolve (by decide)

end Pantheon
