/-
  Proposals and their deterministic validation (`pantheon-core/src/planning/proposal.rs`,
  `planning/validate.rs`, `planning/evaluators.rs`).
  A `Materializable` can only be obtained from `validate` in the source; `ValidPlan` carries
  that as a field, so the store's operations take nothing else.
-/
import Pantheon.Planning.Spec

namespace Pantheon

open Value

/-! ## Proposals -/

structure ProposedCriterion where
  id : String
  statement : String
  evaluatorRef : String
  required : Bool
  deriving Repr, DecidableEq

structure ProposedTask where
  taskType : String
  objective : String
  inputs : List (String × String)
  outputs : List (String × String × Bool)
  competencies : List String
  resources : List String
  permittedEffects : List String
  forbiddenEffects : List String
  criteria : List ProposedCriterion
  deriving Repr, DecidableEq

structure Proposal where
  tasks : List ProposedTask
  edges : List (Nat × Nat)
  deriving Repr, DecidableEq

def ProposedCriterion.toValue (c : ProposedCriterion) : Value :=
  object [
    ("id", .str c.id),
    ("statement", .str c.statement),
    ("evaluatorRef", .str c.evaluatorRef),
    ("required", .bool c.required)]

def ProposedTask.toValue (t : ProposedTask) : Value :=
  object [
    ("type", .str t.taskType),
    ("objective", .str t.objective),
    ("inputs", .arr (t.inputs.map fun i => inputValue i.1 i.2)),
    ("outputs", .arr (t.outputs.map fun o => outputValue o.1 o.2.1 o.2.2)),
    ("competencies", strings t.competencies),
    ("scope", scopeValue t.resources t.permittedEffects t.forbiddenEffects),
    ("criteria", .arr (t.criteria.map ProposedCriterion.toValue))]

def Proposal.toValue (p : Proposal) : Value :=
  object [
    ("tasks", .arr (p.tasks.map ProposedTask.toValue)),
    ("edges", .arr (p.edges.map fun e =>
      object [
        ("upstream", .integer (saturatedI64 e.1)),
        ("downstream", .integer (saturatedI64 e.2))]))]

def Proposal.digest {D : Type} [DigestScheme D] (p : Proposal) : D := p.toValue.digest

/-! ## Validation -/

inductive PlanError where
  | Shape (detail : String)
  | InvalidValue (path detail : String)
  | UnknownEvaluator (reference : String)
  | ScopeEscalation (detail : String)
  | DeliverableNotCovered (name kind : String)
  | ForbiddenTaskContent (detail : String)
  deriving Repr, DecidableEq

/-- What a proposal is validated against. The resolver is the `EvaluatorResolver` trait. -/
structure Authority (D : Type) where
  goal : GoalSpec
  goalId : String
  goalRevision : Int
  resolve : String → Option String
  evaluatorRegistryDigest : D
  configurationActivationSequence : Int

/-- A plan that passed validation. -/
structure Materializable (D : Type) where
  spec : TaskSpec D
  proposalDigest : D
  goalRevision : Int
  goalDigest : D
  deriving Repr, DecidableEq

/-- The `White_Space` property, which `trim` uses. -/
def isWhitespace (c : Char) : Bool :=
  (0x09 ≤ c.toNat && c.toNat ≤ 0x0d) || c.toNat == 0x20 || c.toNat == 0x85 || c.toNat == 0xa0 ||
    c.toNat == 0x1680 || (0x2000 ≤ c.toNat && c.toNat ≤ 0x200a) || c.toNat == 0x2028 ||
    c.toNat == 0x2029 || c.toNat == 0x202f || c.toNat == 0x205f || c.toNat == 0x3000

/-- `text.trim().is_empty()`. -/
def isBlankText (text : String) : Bool := text.toList.all isWhitespace

/-- `FORBIDDEN_PREFIXES`: reference schemes no Task specification may contain. -/
def forbiddenSchemes : List (String × String) := [
  ("agent://", "a Logical Agent assignment"),
  ("backend://", "a backend assignment"),
  ("model://", "a provider or model assignment"),
  ("runtime://", "a runtime assignment"),
  ("secret://", "credential material"),
  ("run://", "a Run reference"),
  ("attempt://", "an Attempt reference"),
  ("sandbox://", "a Sandbox reference")]

/-- The description of the forbidden scheme a reference starts with. -/
def forbiddenScheme (reference : String) : Option String :=
  (forbiddenSchemes.find? fun s => s.1.toList.isPrefixOf reference.toList).map Prod.snd

/-- `reject_forbidden_content`: inputs first, then resources. -/
def rejectForbiddenContent (task : ProposedTask) : Except PlanError Unit :=
  (task.inputs.map Prod.snd ++ task.resources).forM fun reference =>
    match forbiddenScheme reference with
    | some description => .error (.ForbiddenTaskContent s!"{description} ({reference})")
    | none => .ok ()

/-- The scope ceiling for one effect. -/
def checkEffect (constraints : GoalConstraints) (effect : String) : Except PlanError Unit :=
  if effect ∉ constraints.permittedEffects then
    .error (.ScopeEscalation s!"effect {debugText effect} is not permitted by the Goal")
  else if effect ∈ constraints.forbiddenEffects then
    .error (.ScopeEscalation s!"effect {debugText effect} is forbidden by the Goal")
  else .ok ()

/-- The scope ceiling for one resource. -/
def checkResource (constraints : GoalConstraints) (resource : String) : Except PlanError Unit :=
  if resource ∉ constraints.permittedResources then
    .error (.ScopeEscalation s!"resource {debugText resource} is outside the Goal's scope")
  else .ok ()

/-- A required deliverable needs a required output of its kind. -/
def checkCovered (task : ProposedTask) (d : Deliverable) : Except PlanError Unit :=
  if d.required ∧ ¬task.outputs.any fun o => o.2.2 && o.2.1 == d.kind then
    .error (.DeliverableNotCovered d.name d.kind)
  else .ok ()

/-- Pins a criterion's evaluator. -/
def pinCriterion (resolve : String → Option String) (c : ProposedCriterion) :
    Except PlanError AcceptanceCriterion :=
  match resolve c.evaluatorRef with
  | some version =>
    .ok ⟨c.id, c.statement, c.evaluatorRef, version, if c.required then .Required else .Advisory⟩
  | none => .error (.UnknownEvaluator c.evaluatorRef)

/-- `validate`. -/
def validate {D : Type} [DigestScheme D] (proposal : Proposal) (authority : Authority D) :
    Except PlanError (Materializable D) := do
  match proposal.tasks with
  | [task] =>
    if proposal.edges ≠ [] then
      .error (.Shape s!"DIRECT planning proposes no dependencies, found {proposal.edges.length} edge(s)")
    if isBlankText task.taskType then .error (.InvalidValue "task.type" "must not be empty")
    if isBlankText task.objective then .error (.InvalidValue "task.objective" "must not be empty")
    if task.competencies = [] then
      .error (.InvalidValue "task.competencies" "a Task must state the semantic abilities it needs")
    if task.criteria = [] then
      .error (.InvalidValue "task.criteria" "a Task must carry an acceptance contract")
    rejectForbiddenContent task
    task.permittedEffects.forM (checkEffect authority.goal.constraints)
    task.resources.forM (checkResource authority.goal.constraints)
    authority.goal.deliverables.forM (checkCovered task)
    let criteria ← task.criteria.mapM (pinCriterion authority.resolve)
    return {
      spec := {
        taskType := task.taskType
        objective := task.objective
        inputs := task.inputs.map fun i => ⟨i.1, i.2⟩
        outputs := task.outputs.map fun o => ⟨o.1, o.2.1, o.2.2⟩
        competencies := task.competencies
        scope := ⟨task.resources, task.permittedEffects, task.forbiddenEffects⟩
        goalId := authority.goalId
        acceptance := ⟨criteria, authority.evaluatorRegistryDigest,
          authority.configurationActivationSequence⟩
        goalRevision := authority.goalRevision }
      proposalDigest := proposal.digest
      goalRevision := authority.goalRevision
      goalDigest := authority.goal.digest }
  | tasks => .error (.Shape s!"DIRECT planning proposes exactly one task, found {tasks.length}")

/-- A refusal at the head of a block. -/
theorem refusal_eq_ok {ε α : Type} {p : Prop} [Decidable p] {e : ε} {f : Unit → Except ε α}
    {x : Except ε α} {a : α} :
    (if p then (Except.error e : Except ε Unit) >>= f else x) = .ok a ↔ ¬p ∧ x = .ok a := by
  by_cases hp : p
  · rw [if_pos hp]
    exact iff_of_false nofun fun h => h.1 hp
  · rw [if_neg hp]
    simp [hp]

/-- What an accepted proposal has passed, and what its plan is made of. -/
structure AcceptedPlan {D : Type} [DigestScheme D] (proposal : Proposal) (authority : Authority D)
    (plan : Materializable D) (task : ProposedTask) : Prop where
  single : proposal.tasks = [task]
  effects : ∀ effect ∈ task.permittedEffects, effect ∈ authority.goal.constraints.permittedEffects ∧
    effect ∉ authority.goal.constraints.forbiddenEffects
  resources : ∀ resource ∈ task.resources, resource ∈ authority.goal.constraints.permittedResources
  covered : ∀ d ∈ authority.goal.deliverables, d.required = true →
    ∃ output ∈ task.outputs, output.2.2 = true ∧ output.2.1 = d.kind
  pinned : List.Forall₂ (fun c pinned => pinCriterion authority.resolve c = .ok pinned)
    task.criteria plan.spec.acceptance.criteria
  outputs : plan.spec.outputs = task.outputs.map fun o => ⟨o.1, o.2.1, o.2.2⟩
  scope : plan.spec.scope = ⟨task.resources, task.permittedEffects, task.forbiddenEffects⟩
  goal : plan.spec.goalId = authority.goalId ∧ plan.spec.goalRevision = authority.goalRevision ∧
    plan.goalRevision = authority.goalRevision
  registry : plan.spec.acceptance.evaluatorRegistryDigest = authority.evaluatorRegistryDigest
  configuration : plan.spec.acceptance.configurationActivationSequence =
    authority.configurationActivationSequence
  digests : plan.proposalDigest = proposal.digest ∧ plan.goalDigest = authority.goal.digest

theorem checkEffect_eq_ok {constraints : GoalConstraints} {effect : String} {u : Unit} :
    checkEffect constraints effect = .ok u ↔
      effect ∈ constraints.permittedEffects ∧ effect ∉ constraints.forbiddenEffects := by
  unfold checkEffect
  split_ifs with hpermitted hforbidden <;> simp_all

theorem checkResource_eq_ok {constraints : GoalConstraints} {resource : String} {u : Unit} :
    checkResource constraints resource = .ok u ↔ resource ∈ constraints.permittedResources := by
  unfold checkResource
  split_ifs with houtside <;> simp_all

theorem checkCovered_eq_ok {task : ProposedTask} {d : Deliverable} {u : Unit} :
    checkCovered task d = .ok u ↔
      (d.required = true → ∃ output ∈ task.outputs, output.2.2 = true ∧ output.2.1 = d.kind) := by
  unfold checkCovered
  split_ifs with huncovered <;> simp_all

theorem validate_ok {D : Type} [DigestScheme D] {proposal : Proposal} {authority : Authority D}
    {plan : Materializable D} (h : validate proposal authority = .ok plan) :
    ∃ task, AcceptedPlan proposal authority plan task := by
  unfold validate at h
  split at h
  · rename_i task htask
    simp only [refusal_eq_ok, bind_eq_ok, pure_eq_ok] at h
    obtain ⟨-, -, -, -, -, _, -, _, heffects, _, hresources, _, hcovered, criteria, hpinned, rfl⟩ := h
    exact ⟨task, {
      single := htask
      effects := fun effect he => checkEffect_eq_ok.mp (forM_eq_ok.mp heffects effect he)
      resources := fun resource hr => checkResource_eq_ok.mp (forM_eq_ok.mp hresources resource hr)
      covered := fun d hd => checkCovered_eq_ok.mp (forM_eq_ok.mp hcovered d hd)
      pinned := mapM_eq_ok.mp hpinned
      outputs := rfl
      scope := rfl
      goal := ⟨rfl, rfl, rfl⟩
      registry := rfl
      configuration := rfl
      digests := ⟨rfl, rfl⟩ }⟩
  · cases h

/-- What validation copies from the authority and the proposal. -/
theorem validate_copies {D : Type} [DigestScheme D] {proposal : Proposal} {authority : Authority D}
    {plan : Materializable D} (h : validate proposal authority = .ok plan) :
    plan.spec.goalRevision = plan.goalRevision ∧ plan.proposalDigest = proposal.digest ∧
      plan.goalDigest = authority.goal.digest := by
  obtain ⟨task, hvalid⟩ := validate_ok h
  exact ⟨hvalid.goal.2.1.trans hvalid.goal.2.2.symm, hvalid.digests⟩

/-- A plan with its provenance: only validation produces one. -/
structure ValidPlan (D : Type) [DigestScheme D] where
  plan : Materializable D
  validated : ∃ proposal authority, validate proposal authority = .ok plan

/-! ## Forbidden references -/

/-- The text begins with one of the forbidden schemes. -/
def NamesExecution (text : String) : Prop :=
  ∃ scheme ∈ forbiddenSchemes, scheme.1.toList <+: text.toList

instance (text : String) : Decidable (NamesExecution text) :=
  inferInstanceAs (Decidable (∃ scheme ∈ forbiddenSchemes, _))

theorem forbiddenScheme_eq_none {text : String} :
    forbiddenScheme text = none ↔ ¬NamesExecution text := by
  simp [forbiddenScheme, NamesExecution]

theorem rejectForbiddenContent_eq_ok {task : ProposedTask} {u : Unit} :
    rejectForbiddenContent task = .ok u ↔
      ∀ text ∈ task.inputs.map Prod.snd ++ task.resources, ¬NamesExecution text := by
  rw [rejectForbiddenContent, forM_eq_ok]
  refine forall₂_congr fun text _ => ?_
  rw [← forbiddenScheme_eq_none]
  cases forbiddenScheme text <;> simp

/-- The texts of a specification that could name something to execute with. -/
def TaskSpec.references {D : Type} (spec : TaskSpec D) : List String :=
  spec.inputs.map (·.reference) ++ spec.scope.resources ++ spec.scope.permittedEffects ++
    spec.scope.forbiddenEffects

/-- An accepted plan's inputs and resources name nothing to execute with. Its effects are the
    proposal's, which nothing checks: the plan is clean exactly if these are. -/
theorem plan_references {D : Type} [DigestScheme D] {proposal : Proposal} {authority : Authority D}
    {plan : Materializable D} (h : validate proposal authority = .ok plan) :
    (∀ text ∈ plan.spec.inputs.map (·.reference) ++ plan.spec.scope.resources, ¬NamesExecution text) ∧
    ((∀ text ∈ plan.spec.references, ¬NamesExecution text) ↔ ∀ task ∈ proposal.tasks,
      ∀ effect ∈ task.permittedEffects ++ task.forbiddenEffects, ¬NamesExecution effect) := by
  unfold validate at h
  split at h
  · rename_i task htask
    simp only [refusal_eq_ok, bind_eq_ok, pure_eq_ok] at h
    obtain ⟨-, -, -, -, -, _, hclean, _, -, _, -, _, -, criteria, -, rfl⟩ := h
    have hclean := rejectForbiddenContent_eq_ok.mp hclean
    have hinputs : (task.inputs.map fun i => (⟨i.1, i.2⟩ : TaskInput)).map (·.reference) =
        task.inputs.map Prod.snd := by rw [List.map_map]; rfl
    rw [TaskSpec.references, hinputs, htask, List.forall_mem_singleton, List.append_assoc]
    refine ⟨hclean, fun hall => (List.forall_mem_append.mp hall).2, fun heffects => ?_⟩
    exact List.forall_mem_append.mpr ⟨hclean, heffects⟩
  · cases h

namespace Sample

/-- A task of these effects alone. -/
def effectsOnly (permitted forbidden : List String) : Proposal :=
  ⟨[⟨"code", "o", [], [], ["c"], [], permitted, forbidden, [⟨"k", "s", "e", true⟩]⟩], []⟩

/-- A Goal that permits these effects. -/
def permitting (permitted : List String) : Authority ExactDigest :=
  ⟨⟨"o", [], [], ⟨permitted, [], []⟩⟩, "goal", 1, fun _ => some "1", ⟨[]⟩, 1⟩

end Sample

/-- A plan with a Run and a secret among its effects is accepted. -/
theorem plan_effects_unchecked : ∃ plan, validate (Sample.effectsOnly ["run://1"] ["secret://k"])
      (Sample.permitting ["run://1"]) = .ok plan ∧
    plan.spec.scope.permittedEffects = ["run://1"] ∧ NamesExecution "run://1" ∧
    plan.spec.scope.forbiddenEffects = ["secret://k"] ∧ NamesExecution "secret://k" :=
  ⟨_, rfl, rfl, by decide, rfl, by decide⟩

/-- A plan whose effects name nothing of the kind. -/
theorem plan_references_clean : ∃ plan, validate (Sample.effectsOnly ["write"] [])
      (Sample.permitting ["write"]) = .ok plan ∧
    ∀ text ∈ plan.spec.references, ¬NamesExecution text := by
  refine ⟨_, rfl, ?_⟩
  have hvalid : validate (Sample.effectsOnly ["write"] []) (Sample.permitting ["write"]) = .ok _ := rfl
  exact (plan_references hvalid).2.mpr (by decide)

end Pantheon
