/-
  The path from a Goal to a Ready Task (`pantheon-engine/src/planning.rs`).
  `plan` records a decision, `materialize` validates a proposal and hands the result to the store.
  Both start from a `PlanningContext` that is read in five separate reads: the Goal, its graph,
  the active configuration, the text of the active evaluator registry, and the Goal revision. The
  digest of the registry comes from the third read, its content from the fourth.
-/
import Pantheon.Engine.Site
import Pantheon.Planning.Direct
import Pantheon.Planning.Goals
import Pantheon.Planning.Registry

namespace Pantheon

open Interleave Routine

variable {D : Type} [DecidableEq D]

/-! ## Reads -/

/-- `Store::goal_revision_json`. -/
def goalRevisionJson (goalId : String) (revision : Int) (d : Db D) : Option String :=
  (d.find .goalRevisions (goalId, revision)).map (·.canonicalJson)

/-- `Store::active_evaluator_component_json`. -/
def activeEvaluatorComponentJson (d : Db D) : Option String := do
  let active ← d.find .activeConfiguration ()
  let sequence ← active.activationSequence
  let revision ← d.find .configurationRevisions sequence
  let component ← d.find .configurationComponents revision.components.evaluatorRegistry
  return component.canonicalJson

/-! ## The controller -/

inductive PlanningError where
  | Invalid (error : PlanError)
  | Store (error : StoreError)
  | Configuration (detail : String)
  deriving Repr, DecidableEq

structure PlanningContext (D : Type) where
  goal : GoalSpec
  goalRevision : Int
  graphRevision : Int
  configurationActivationSequence : Int
  evaluatorRegistryDigest : D
  evaluators : RegistryResolver

def PlanningContext.authority (context : PlanningContext D) (goalId : String) : Authority D where
  goal := context.goal
  goalId := goalId
  goalRevision := context.goalRevision
  resolve := context.evaluators.resolve
  evaluatorRegistryDigest := context.evaluatorRegistryDigest
  configurationActivationSequence := context.configurationActivationSequence

def PlanningContext.input (context : PlanningContext D) (goalId : String) : PlanningInput where
  goalId := goalId
  goalRevision := context.goalRevision
  goal := context.goal
  expectedGraphRevision := context.graphRevision
  configurationActivationSequence := context.configurationActivationSequence
  trigger := .Initial

variable [DigestScheme D]

/-- `validate`, with the provenance of its plan. -/
def validPlan (proposal : Proposal) (authority : Authority D) : Except PlanError (ValidPlan D) :=
  match h : validate proposal authority with
  | .ok plan => .ok ⟨plan, proposal, authority, h⟩
  | .error e => .error e

omit [DecidableEq D] in
theorem validPlan_ok {proposal : Proposal} {authority : Authority D} {plan : ValidPlan D}
    (h : validPlan proposal authority = .ok plan) : validate proposal authority = .ok plan.plan := by
  unfold validPlan at h
  split at h
  · obtain rfl := Except.ok.inj h
    assumption
  · cases h

omit [DecidableEq D] in
theorem validPlan_of {proposal : Proposal} {authority : Authority D} {plan : ValidPlan D}
    (h : validate proposal authority = .ok plan.plan) : validPlan proposal authority = .ok plan := by
  unfold validPlan
  split
  · rename_i plan' h'
    obtain rfl := Except.ok.inj (h'.symm.trans h)
    rfl
  · rename_i e h'
    cases h'.symm.trans h

namespace PlanningController

variable {E L : Type} {C : Type → Type}

/-- The first half of `PlanningController::context`: the Goal, its graph and the active
    configuration. -/
def observed (goalId : String) :
    Fallible PlanningError D E L C (GoalRecord × GraphRecord × ActivatedConfiguration D) := do
  let found ← always (Routine.readStore (goalRecord goalId))
  let goal ← orElse (.Configuration s!"goal {goalId} does not exist") found
  let found ← always (Routine.readStore (graphRecord goalId))
  let graph ← orElse (.Configuration s!"goal {goalId} has no task graph") found
  let pointer ← tryAs .Store (Routine.readStore configurationPointer)
  let active ← orElse (.Configuration "no active configuration") pointer.active
  return (goal, graph, active)

/-- The second half: the texts of the registry and of the Goal revision. -/
def interpreted (goalId : String) (goal : GoalRecord) (graph : GraphRecord)
    (active : ActivatedConfiguration D) : Fallible PlanningError D E L C (PlanningContext D) := do
  let found ← always (Routine.readStore activeEvaluatorComponentJson)
  let component ← orElse (.Configuration "active configuration has no evaluators") found
  let evaluators ← Routine.ofExcept ((RegistryResolver.fromCanonicalJson component).mapError
    fun e => .Configuration e.display)
  let found ← always (Routine.readStore (goalRevisionJson goalId goal.currentRevision))
  let stored ← orElse
    (.Configuration s!"goal {goalId} revision {goal.currentRevision} is not stored") found
  let spec ← Routine.ofExcept ((GoalSpec.fromCanonicalJson stored).mapError
    fun e => .Configuration (e.message "goal revision"))
  return ⟨spec, goal.currentRevision, graph.revision, active.activationSequence,
    active.components.evaluatorRegistry, evaluators⟩

/-- `PlanningController::context`. -/
def context (goalId : String) : Fallible PlanningError D E L C (PlanningContext D) := do
  let (goal, graph, active) ← observed goalId
  interpreted goalId goal graph active

/-- `PlanningController::validate`. -/
def validate (goalId : String) (proposal : Proposal) :
    Fallible PlanningError D E L C (ValidPlan D) := do
  let found ← context goalId
  Routine.ofExcept ((validPlan proposal (found.authority goalId)).mapError .Invalid)

/-- `PlanningController::proposal`. -/
def proposal (goalId : String) : Fallible PlanningError D E L C Proposal := do
  let found ← context (D := D) goalId
  return directPlan (found.input goalId)

variable [Surrounded C]

/-- `PlanningController::create_goal`. -/
def createGoal (command : Command D) (goalId : String) (spec : GoalSpec) :
    Fallible PlanningError D E L C (Committed GoalRecord) :=
  tryAs .Store (Routine.perform (.command command (.createGoal goalId spec)))

/-- The decision `plan` records. -/
def decision (operationId goalId : String) (found : PlanningContext D) : PlanningDecision D where
  operationId := operationId
  goalId := goalId
  goalRevision := found.goalRevision
  expectedGraphRevision := found.graphRevision
  configurationActivationSequence := found.configurationActivationSequence
  planningInputDigest := (found.input goalId).digest
  triggerKind := Trigger.Initial.asStr
  plannerImplementation := plannerImplementation
  plannerVersion := plannerVersion

/-- `PlanningController::plan`. -/
def plan (command : Command D) (operationId goalId : String) :
    Fallible PlanningError D E L C (Committed (PlanningOperationRecord D)) := do
  let found ← context goalId
  let proposal := directPlan (found.input goalId)
  tryAs .Store (Routine.perform (.command command (.recordDirectPlanning
    (decision operationId goalId found)
    ⟨proposal.digest, proposal.toValue.toCanonicalText, "direct/v1"⟩)))

/-- `PlanningController::materialize`. -/
def materialize (command : Command D) (operationId taskId goalId : String) (proposal : Proposal) :
    Fallible PlanningError D E L C (Committed (MaterializedPlan D)) := do
  let plan ← validate goalId proposal
  tryAs .Store (Routine.perform (.command command (.materializePlan operationId taskId plan)))

end PlanningController

end Pantheon
