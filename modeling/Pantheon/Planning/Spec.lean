/-
  Goals and Tasks: lifecycles and immutable content (`pantheon-core/src/planning/goal.rs`,
  `planning/task.rs`). `GoalSpec` and `TaskSpec` are encoded to canonical values, addressed by
  the digest of their encoding, and decoded from stored text.
-/
import Pantheon.Config.Decode

namespace Pantheon

open Value

/-! ## The Goal -/

inductive GoalPhase where
  | Planning
  | Active
  | Evaluating
  | Finalizing
  | Succeeded
  | Failed
  | Cancelled
  deriving Repr, DecidableEq

/-- `GoalPhase::as_str`. -/
def GoalPhase.asStr : GoalPhase → String
  | .Planning => "Planning"
  | .Active => "Active"
  | .Evaluating => "Evaluating"
  | .Finalizing => "Finalizing"
  | .Succeeded => "Succeeded"
  | .Failed => "Failed"
  | .Cancelled => "Cancelled"

structure GoalInput where
  name : String
  reference : String
  deriving Repr, DecidableEq

structure Deliverable where
  name : String
  kind : String
  required : Bool
  deriving Repr, DecidableEq

structure GoalConstraints where
  permittedEffects : List String
  forbiddenEffects : List String
  permittedResources : List String
  deriving Repr, DecidableEq

structure GoalSpec where
  objective : String
  inputs : List GoalInput
  deliverables : List Deliverable
  constraints : GoalConstraints
  deriving Repr, DecidableEq

/-- A named reference, as Goal and Task inputs encode it. -/
def inputValue (name reference : String) : Value :=
  object [("name", .str name), ("ref", .str reference)]

/-- A named kind, as deliverables and Task outputs encode it. -/
def outputValue (name kind : String) (required : Bool) : Value :=
  object [("name", .str name), ("kind", .str kind), ("required", .bool required)]

namespace GoalSpec

def toValue (g : GoalSpec) : Value :=
  object [
    ("objective", .str g.objective),
    ("inputs", .arr (g.inputs.map fun i => inputValue i.name i.reference)),
    ("deliverables", .arr (g.deliverables.map fun d => outputValue d.name d.kind d.required)),
    ("constraints", object [
      ("permittedEffects", strings g.constraints.permittedEffects),
      ("forbiddenEffects", strings g.constraints.forbiddenEffects),
      ("permittedResources", strings g.constraints.permittedResources)])]

def digest {D : Type} [DigestScheme D] (g : GoalSpec) : D := g.toValue.digest

def decodeInput (entry : Value) : Except DecodeError GoalInput :=
  match entry.get "name", entry.get "ref" with
  | some (.str name), some (.str reference) => .ok ⟨name, reference⟩
  | _, _ => .error (.field "malformed input")

def decodeDeliverable (entry : Value) : Except DecodeError Deliverable :=
  match entry.get "name", entry.get "kind", entry.get "required" with
  | some (.str name), some (.str kind), some (.bool required) => .ok ⟨name, kind, required⟩
  | _, _, _ => .error (.field "malformed deliverable")

/-- A list of the constraints block. -/
def decodeConstraint (constraints : Value) (name : String) : Except DecodeError (List String) :=
  constraints.stringList name s!"missing constraints.{name}"
    fun _ => s!"constraints.{name} is not strings"

/-- The entries of a list field; a field of another kind counts as an empty list. -/
def decodeEntries {α : Type} (f : Value → Except DecodeError α) (v : Value) :
    Except DecodeError (List α) :=
  match v with
  | .arr entries => entries.mapM f
  | _ => .ok []

/-- `GoalSpec::from_canonical_json`. -/
def fromCanonicalJson (text : String) : Except DecodeError GoalSpec := do
  let value ← parseStored text
  let field (name : String) : Except DecodeError Value :=
    match value.get name with
    | some v => .ok v
    | none => .error (.field s!"missing {name}")
  let objective ← match ← field "objective" with
    | .str objective => .ok objective
    | _ => .error (.field "objective is not a string")
  let inputs ← decodeEntries decodeInput (← field "inputs")
  let deliverables ← decodeEntries decodeDeliverable (← field "deliverables")
  let constraints ← field "constraints"
  let permittedEffects ← decodeConstraint constraints "permittedEffects"
  let forbiddenEffects ← decodeConstraint constraints "forbiddenEffects"
  let permittedResources ← decodeConstraint constraints "permittedResources"
  return ⟨objective, inputs, deliverables,
    ⟨permittedEffects, forbiddenEffects, permittedResources⟩⟩

end GoalSpec

/-! ## The Task -/

inductive TaskPhase where
  | Pending
  | Ready
  | Active
  | Waiting
  | Evaluating
  | Finalizing
  | Succeeded
  | Failed
  | Cancelled
  | Superseded
  deriving Repr, DecidableEq

namespace TaskPhase

/-- `TaskPhase::is_terminal`. -/
def isTerminal : TaskPhase → Bool
  | .Succeeded | .Failed | .Cancelled | .Superseded => true
  | _ => false

/-- `TaskPhase::requires_no_run`. -/
def requiresNoRun : TaskPhase → Bool
  | .Ready | .Waiting => true
  | _ => false

/-- `TaskPhase::as_str`. -/
def asStr : TaskPhase → String
  | .Pending => "Pending"
  | .Ready => "Ready"
  | .Active => "Active"
  | .Waiting => "Waiting"
  | .Evaluating => "Evaluating"
  | .Finalizing => "Finalizing"
  | .Succeeded => "Succeeded"
  | .Failed => "Failed"
  | .Cancelled => "Cancelled"
  | .Superseded => "Superseded"

end TaskPhase

structure TaskInput where
  name : String
  reference : String
  deriving Repr, DecidableEq

structure TaskOutput where
  name : String
  kind : String
  required : Bool
  deriving Repr, DecidableEq

structure TaskScope where
  resources : List String
  permittedEffects : List String
  forbiddenEffects : List String
  deriving Repr, DecidableEq

inductive Severity where
  | Required
  | Advisory
  deriving Repr, DecidableEq

/-- `Severity::as_str`. -/
def Severity.asStr : Severity → String
  | .Required => "required"
  | .Advisory => "advisory"

structure AcceptanceCriterion where
  id : String
  statement : String
  evaluatorRef : String
  evaluatorVersion : String
  severity : Severity
  deriving Repr, DecidableEq

structure AcceptanceContract (D : Type) where
  criteria : List AcceptanceCriterion
  evaluatorRegistryDigest : D
  configurationActivationSequence : Int
  deriving Repr, DecidableEq

structure TaskSpec (D : Type) where
  taskType : String
  objective : String
  inputs : List TaskInput
  outputs : List TaskOutput
  competencies : List String
  scope : TaskScope
  acceptance : AcceptanceContract D
  goalId : String
  goalRevision : Int
  deriving Repr, DecidableEq

/-- The scope block of Tasks and proposals. -/
def scopeValue (resources permittedEffects forbiddenEffects : List String) : Value :=
  object [
    ("resources", strings resources),
    ("permittedEffects", strings permittedEffects),
    ("forbiddenEffects", strings forbiddenEffects)]

def AcceptanceCriterion.toValue (c : AcceptanceCriterion) : Value :=
  object [
    ("id", .str c.id),
    ("statement", .str c.statement),
    ("evaluatorRef", .str c.evaluatorRef),
    ("evaluatorVersion", .str c.evaluatorVersion),
    ("severity", .str c.severity.asStr)]

namespace TaskSpec

variable {D : Type} [DigestScheme D]

/-- `TaskSpec::acceptance_value`. -/
def acceptanceValue (t : TaskSpec D) : Value :=
  object [
    ("strategy", .str "all"),
    ("criteria", .arr (t.acceptance.criteria.map AcceptanceCriterion.toValue)),
    ("evaluatorRegistryDigest", .str (toDisplay t.acceptance.evaluatorRegistryDigest)),
    ("configurationActivationSequence", .integer t.acceptance.configurationActivationSequence)]

def toValue (t : TaskSpec D) : Value :=
  object [
    ("type", .str t.taskType),
    ("objective", .str t.objective),
    ("inputs", .arr (t.inputs.map fun i => inputValue i.name i.reference)),
    ("outputs", .arr (t.outputs.map fun o => outputValue o.name o.kind o.required)),
    ("competencies", strings t.competencies),
    ("scope", scopeValue t.scope.resources t.scope.permittedEffects t.scope.forbiddenEffects),
    ("acceptance", t.acceptanceValue),
    ("goalId", .str t.goalId),
    ("goalRevision", .integer t.goalRevision)]

def digest (t : TaskSpec D) : D := t.toValue.digest

/-- `TaskSpec::acceptance_digest`. -/
def acceptanceDigest (t : TaskSpec D) : D := t.acceptanceValue.digest

def decodeInput (entry : Value) : Except DecodeError TaskInput :=
  match entry.get "name", entry.get "ref" with
  | some (.str name), some (.str reference) => .ok ⟨name, reference⟩
  | _, _ => .error (.field "malformed input")

def decodeOutput (entry : Value) : Except DecodeError TaskOutput :=
  match entry.get "name", entry.get "kind", entry.get "required" with
  | some (.str name), some (.str kind), some (.bool required) => .ok ⟨name, kind, required⟩
  | _, _, _ => .error (.field "malformed output")

def decodeSeverity : String → Except DecodeError Severity
  | "required" => .ok .Required
  | "advisory" => .ok .Advisory
  | other => .error (.field s!"unknown criterion severity {debugText other}")

def decodeCriterion (entry : Value) : Except DecodeError AcceptanceCriterion := do
  let id ← entry.entryString "id"
  let statement ← entry.entryString "statement"
  let evaluatorRef ← entry.entryString "evaluatorRef"
  let evaluatorVersion ← entry.entryString "evaluatorVersion"
  let severity ← decodeSeverity (← entry.entryString "severity")
  return ⟨id, statement, evaluatorRef, evaluatorVersion, severity⟩

/-- A list field whose other kinds are refused. -/
def decodeEntries {α : Type} (f : Value → Except DecodeError α) (wrong : String) :
    Option Value → Except DecodeError (List α)
  | some (.arr entries) => entries.mapM f
  | _ => .error (.field wrong)

def decodeStrings (parent : Value) (name : String) : Except DecodeError (List String) :=
  parent.stringList name s!"missing or malformed {name}"
    fun other => s!"{name} contains a non-string value ({other.kind})"

def required (v : Value) (name missing : String) : Except DecodeError Value :=
  match v.get name with
  | some field => .ok field
  | none => .error (.field missing)

/-- `TaskSpec::from_canonical_json`. -/
def fromCanonicalJson (text : String) : Except DecodeError (TaskSpec D) := do
  let value ← parseStored text
  let inputs ← decodeEntries decodeInput "missing or malformed inputs" (value.get "inputs")
  let outputs ← decodeEntries decodeOutput "missing or malformed outputs" (value.get "outputs")
  let scope ← required value "scope" "missing scope"
  let acceptance ← required value "acceptance" "missing acceptance"
  let criteriaValue ← required acceptance "criteria" "missing acceptance.criteria"
  let criteria ← decodeEntries decodeCriterion "acceptance.criteria is not an array"
    (some criteriaValue)
  let strategy ← acceptance.entryString "strategy"
  if strategy ≠ "all" then
    .error (.field s!"unsupported acceptance strategy {debugText strategy}")
  let evaluatorRegistryDigest ←
    match fromDisplay (← acceptance.entryString "evaluatorRegistryDigest") with
    | some d => .ok d
    | none => .error (.field "invalid evaluator registry digest")
  let configurationActivationSequence ←
    acceptance.entryInteger "configurationActivationSequence"
  let taskType ← value.entryString "type"
  let objective ← value.entryString "objective"
  let competencies ← decodeStrings value "competencies"
  let resources ← decodeStrings scope "resources"
  let permittedEffects ← decodeStrings scope "permittedEffects"
  let forbiddenEffects ← decodeStrings scope "forbiddenEffects"
  let goalId ← value.entryString "goalId"
  let goalRevision ← value.entryInteger "goalRevision"
  return {
    taskType, objective, inputs, outputs, competencies, goalId, goalRevision
    scope := ⟨resources, permittedEffects, forbiddenEffects⟩
    acceptance := ⟨criteria, evaluatorRegistryDigest, configurationActivationSequence⟩ }

/-- The integers of a specification are in the range of the source's type. -/
def Sized (spec : TaskSpec D) : Prop :=
  IsI64 spec.goalRevision ∧ IsI64 spec.acceptance.configurationActivationSequence

instance (spec : TaskSpec D) : Decidable spec.Sized := inferInstanceAs (Decidable (_ ∧ _))

theorem toValue_wf {t : TaskSpec D} (hgoal : IsI64 t.goalRevision)
    (hsequence : IsI64 t.acceptance.configurationActivationSequence) : t.toValue.Wf := by
  have hacceptance : t.acceptanceValue.Wf := by
    refine wf_object ?_
    simp only [List.mem_cons, List.not_mem_nil, or_false, forall_eq_or_imp, forall_eq, wf_str,
      true_and]
    refine ⟨wf_arr.mpr fun v hv => ?_, hsequence⟩
    obtain ⟨criterion, -, rfl⟩ := List.mem_map.mp hv
    exact wf_object (by simp)
  refine wf_object ?_
  simp only [List.mem_cons, List.not_mem_nil, or_false, forall_eq_or_imp, forall_eq, wf_str,
    true_and]
  refine ⟨wf_arr.mpr fun v hv => ?_, wf_arr.mpr fun v hv => ?_, wf_strings _,
    wf_object (by simp [strings, wf_strings]), hacceptance, hgoal⟩
  · obtain ⟨input, -, rfl⟩ := List.mem_map.mp hv
    exact wf_object (by simp)
  · obtain ⟨output, -, rfl⟩ := List.mem_map.mp hv
    exact wf_object (by simp)

theorem decodeCriterion_toValue (c : AcceptanceCriterion) : decodeCriterion c.toValue = .ok c := by
  obtain ⟨_, _, _, _, severity⟩ := c
  cases severity <;> simp [decodeCriterion, AcceptanceCriterion.toValue, entryString, get_object,
    List.lookup_cons, decodeSeverity, Severity.asStr]

/-- A specification is read back from its canonical text. -/
theorem fromCanonicalJson_toCanonicalText {t : TaskSpec D} (h : t.toValue.Wf) :
    fromCanonicalJson t.toValue.toCanonicalText = .ok t := by
  have hinputs : (t.inputs.map fun i => inputValue i.name i.reference).mapM decodeInput =
      .ok t.inputs :=
    mapM_encoded (fun i => by simp [decodeInput, inputValue, get_object, List.lookup_cons]) _
  have houtputs : (t.outputs.map fun o => outputValue o.name o.kind o.required).mapM decodeOutput =
      .ok t.outputs :=
    mapM_encoded (fun o => by simp [decodeOutput, outputValue, get_object, List.lookup_cons]) _
  have hcriteria : (t.acceptance.criteria.map AcceptanceCriterion.toValue).mapM decodeCriterion =
      .ok t.acceptance.criteria := mapM_encoded decodeCriterion_toValue _
  rw [fromCanonicalJson, parseStored_toCanonicalText h]
  simp [toValue, acceptanceValue, scopeValue, get_object, List.lookup_cons, entryString,
    entryInteger, decodeEntries, required, decodeStrings, stringList, strings,
    stringElements_strings, hinputs, houtputs, hcriteria, fromDisplay_toDisplay]

end TaskSpec

end Pantheon
