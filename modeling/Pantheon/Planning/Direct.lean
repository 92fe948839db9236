/-
  The DIRECT planner (`pantheon-core/src/planning/direct.rs`).
  A Goal is taken as one bounded Task: its inputs, deliverables and constraints become those of
  the Task. The proposal is a function of the Goal alone; the rest of the planning input enters
  only its digest.
-/
import Pantheon.Planning.Validate

namespace Pantheon

open Value

/-- `PLANNER_IMPLEMENTATION`. -/
def plannerImplementation : String := "pantheon-direct-planner"

/-- `PLANNER_VERSION`. -/
def plannerVersion : String := "v1"

/-- `MVP_EVALUATOR_REF`. -/
def mvpEvaluatorRef : String := "check://project/unit-tests"

inductive Trigger where
  | Initial
  deriving Repr, DecidableEq

def Trigger.asStr : Trigger → String
  | .Initial => "initial"

structure PlanningInput where
  goalId : String
  goalRevision : Int
  goal : GoalSpec
  expectedGraphRevision : Int
  configurationActivationSequence : Int
  trigger : Trigger
  deriving Repr, DecidableEq

/-- `PlanningInput::digest`. -/
def PlanningInput.digest {D : Type} [DigestScheme D] (input : PlanningInput) : D :=
  (object [
    ("goalId", .str input.goalId),
    ("goalRevision", .integer input.goalRevision),
    ("goalSpec", input.goal.toValue),
    ("expectedGraphRevision", .integer input.expectedGraphRevision),
    ("configurationActivationSequence", .integer input.configurationActivationSequence),
    ("trigger", .str input.trigger.asStr),
    ("plannerImplementation", .str plannerImplementation),
    ("plannerVersion", .str plannerVersion)]).digest

/-- `direct::plan`. -/
def directPlan (input : PlanningInput) : Proposal where
  tasks := [{
    taskType := "code.change"
    objective := input.goal.objective
    inputs := input.goal.inputs.map fun i => (i.name, i.reference)
    outputs := input.goal.deliverables.map fun d => (d.name, d.kind, d.required)
    competencies := ["code.analysis", "code.editing", "test.execution"]
    resources := input.goal.constraints.permittedResources
    permittedEffects := input.goal.constraints.permittedEffects
    forbiddenEffects := input.goal.constraints.forbiddenEffects
    criteria := [⟨"acceptance-checks-pass", "The configured deterministic acceptance checks pass.",
      mvpEvaluatorRef, true⟩] }]
  edges := []

end Pantheon
