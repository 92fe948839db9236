/-
  Context preparation (`pantheon-engine/src/context.rs`).
  `prepareRunContext` reads each frozen source in its own transaction, proves that what it
  read is what the Run froze, builds the plan and attaches it once. It reads no phase of the
  Workspace and no active configuration.
-/
import Pantheon.Context.Plan
import Pantheon.Engine.Ports

namespace Pantheon

open Interleave Value

variable {D : Type} [DecidableEq D] [DigestScheme D]

structure PreparedContext (D : Type) where
  runId : String
  sourceSnapshotDigest : D
  contextPlanDigest : D
  plan : ContextPlan D

inductive ContextPreparationError where
  | Store (error : StoreError)
  | FrozenSnapshotUnavailable (digest : String)
  | SourceDigestMismatch (source expected actual : String)
  | RequiredSourceUnavailable (detail : String)
  | WrongSourceRelation (detail : String)
  | MalformedSource (detail : String)
  | PolicyUnsatisfiable (detail : String)
  deriving Repr, DecidableEq

def ContextPreparationError.display : ContextPreparationError → String
  | .Store error => s!"context preparation store failure: {error.display}"
  | .FrozenSnapshotUnavailable digest =>
    s!"the frozen context source snapshot {digest} is unavailable"
  | .SourceDigestMismatch source expected actual =>
    s!"frozen source {source} hashes to {actual}, not the {expected} the Run recorded"
  | .RequiredSourceUnavailable detail =>
    s!"required frozen source is unavailable: {detail}; preparation fails closed instead of substituting a newer generation"
  | .WrongSourceRelation detail => s!"frozen source does not belong to this Run: {detail}"
  | .MalformedSource detail => s!"persisted canonical source is malformed: {detail}"
  | .PolicyUnsatisfiable detail => s!"the frozen context policy cannot be satisfied: {detail}"

abbrev ContextControl (D : Type) [DecidableEq D] [DigestScheme D] : Type → Type 1 :=
  Control ContextPreparationError D

/-! ## Verified decoding -/

/-- `decode_frozen_snapshot`: the stored bytes and then the decoded content must have the
    frozen identity. -/
def decodeFrozenSnapshot (stored : Option String) (expected : D) :
    Except ContextPreparationError (ContextSourceSnapshot D) :=
  match stored with
  | none => .error (.FrozenSnapshotUnavailable (toDisplay expected))
  | some text =>
    let actual : D := DigestScheme.ofBytes (utf8 text)
    if actual ≠ expected then .error (.SourceDigestMismatch "context-source-snapshot"
      (toDisplay expected) (toDisplay actual))
    else match ContextSourceSnapshot.fromCanonicalJson text with
      | .error e => .error (.MalformedSource (e.message "context source snapshot"))
      | .ok (snapshot : ContextSourceSnapshot D) =>
        if snapshot.digest ≠ expected then .error (.SourceDigestMismatch "context-source-snapshot"
          (toDisplay expected) (toDisplay snapshot.digest))
        else .ok snapshot

/-- `decode_frozen_policy`. -/
def decodeFrozenPolicy (stored : Option (ComponentDomain × String)) (expected : D) :
    Except ContextPreparationError ContextComponent :=
  match stored with
  | none => .error (.RequiredSourceUnavailable s!"context policy component {toDisplay expected}")
  | some (domain, text) =>
    if domain ≠ .context then .error (.MalformedSource
      s!"digest {toDisplay expected} is stored as the {domain.asStr} component, not context")
    else match parse text with
      | .error e => .error (.MalformedSource e.display)
      | .ok value => match ContextComponent.fromCanonicalValue value with
        | .error e => .error (.MalformedSource (e.message "context policy"))
        | .ok policy => .ok policy

/-- `decode_task_spec`. -/
def decodeTaskSpec (stored : Option String) (expected : D) :
    Except ContextPreparationError (TaskSpec D) :=
  match stored with
  | none => .error (.RequiredSourceUnavailable s!"task specification {toDisplay expected}")
  | some text => match TaskSpec.fromCanonicalJson text with
    | .error e => .error (.MalformedSource (e.message "task specification"))
    | .ok (spec : TaskSpec D) =>
      if spec.digest ≠ expected then .error (.SourceDigestMismatch "task-specification"
        (toDisplay expected) (toDisplay (spec.digest : D)))
      else .ok spec

/-- `verify_task_relation`. -/
def verifyTaskRelation (spec : TaskSpec D) (snapshot : ContextSourceSnapshot D) :
    Except ContextPreparationError Unit :=
  if spec.goalId ≠ snapshot.goalId ∨ spec.goalRevision ≠ snapshot.goalRevision then
    .error (.WrongSourceRelation
      s!"spec names goal {spec.goalId}@{spec.goalRevision} but the snapshot froze goal {snapshot.goalId}@{snapshot.goalRevision}")
  else .ok ()

/-- `verify_goal_content`. -/
def verifyGoalContent (content : GoalRevisionContent D) : Except ContextPreparationError Unit :=
  let actual : D := DigestScheme.ofBytes (utf8 content.canonicalJson)
  if actual ≠ content.contentDigest then .error (.SourceDigestMismatch "goal-revision"
    (toDisplay content.contentDigest) (toDisplay actual))
  else .ok ()

/-- `decode_agent_guidance`. -/
def decodeAgentGuidance (agentsComponentJson : String) (snapshot : ContextSourceSnapshot D) :
    Except ContextPreparationError AgentGuidance :=
  match parse agentsComponentJson with
  | .error e => .error (.MalformedSource e.display)
  | .ok value => match frozenAgentGuidance value snapshot.agent with
    | .error (.VersionAbsent agent) => .error (.RequiredSourceUnavailable
        s!"agent {agent.name}@{agent.version} in the frozen agents component")
    | .error (.Malformed detail) => .error (.MalformedSource detail)
    | .ok guidance =>
      let soul : D := guidanceDigest guidance.soul
      let behavior : D := guidanceDigest guidance.behavior
      if soul ≠ snapshot.agentSoulDigest ∨ behavior ≠ snapshot.agentBehaviorDigest then
        .error (.SourceDigestMismatch "agent-guidance"
          s!"soul {toDisplay snapshot.agentSoulDigest}, behavior {toDisplay snapshot.agentBehaviorDigest}"
          s!"soul {toDisplay soul}, behavior {toDisplay behavior}")
      else .ok guidance

/-- `verify_workspace_relation`. -/
def verifyWorkspaceRelation (workspace : Option WorkspaceRecord) (taskId : String)
    (snapshot : ContextSourceSnapshot D) : Except ContextPreparationError WorkspaceRecord :=
  match workspace with
  | none => .error (.RequiredSourceUnavailable s!"workspace {snapshot.workspaceId}")
  | some workspace =>
    if workspace.taskId ≠ taskId then .error (.WrongSourceRelation
      s!"workspace {snapshot.workspaceId} belongs to task {workspace.taskId} but this Run commits for {taskId}")
    else if workspace.resolvedBase.text ≠ snapshot.workspaceResolvedBase then
      .error (.WrongSourceRelation
        s!"workspace {snapshot.workspaceId} resolved to {workspace.resolvedBase.text}, not the frozen base {snapshot.workspaceResolvedBase}")
    else .ok workspace

/-! ## Preparation -/

/-- A store read that cannot fail, except for the storage itself. -/
def readSource {α : Type} (f : Db D → α) : ContextControl D α := Control.step (readStore f)

/-- Steps 1 to 8: the plan of a Run, from its verified frozen sources. -/
def plannedContext (run : RunRecord D) : ContextControl D (ContextPlan D) := do
  let storedSnapshot ← readSource (contextSourceSnapshotJson run.contextSourceSnapshotDigest)
  let snapshot ← Control.ofExcept
    (decodeFrozenSnapshot storedSnapshot run.contextSourceSnapshotDigest)
  let storedPolicy ← Control.lift .Store
    (readStore (configurationComponentJson snapshot.contextPolicyDigest))
  let policy ← Control.ofExcept (decodeFrozenPolicy storedPolicy snapshot.contextPolicyDigest)
  let storedSpec ← readSource (taskSpecJson snapshot.taskSpecDigest)
  let spec ← Control.ofExcept (decodeTaskSpec storedSpec snapshot.taskSpecDigest)
  Control.ofExcept (verifyTaskRelation spec snapshot)
  let storedGoal ← readSource (goalRevisionContent snapshot.goalId snapshot.goalRevision)
  let goal ← Control.orElse (.RequiredSourceUnavailable
    s!"goal revision {snapshot.goalId}@{snapshot.goalRevision}") storedGoal
  Control.ofExcept (verifyGoalContent goal)
  let storedAgents ← readSource
    (revisionAgentsComponentJson snapshot.configurationActivationSequence)
  let agentsJson ← Control.orElse (.RequiredSourceUnavailable
    s!"agents component of configuration revision {snapshot.configurationActivationSequence}")
    storedAgents
  let guidance ← Control.ofExcept (decodeAgentGuidance agentsJson snapshot)
  let storedWorkspace ← Control.lift .Store (readStore (workspaceRecord snapshot.workspaceId))
  let workspace ← Control.ofExcept
    (verifyWorkspaceRelation storedWorkspace run.taskId snapshot)
  let sources : FrozenSources D :=
    ⟨spec, goal.contentDigest, guidance.soul, guidance.behavior, workspace.repository⟩
  match buildContextPlan snapshot sources policy with
  | .error e => throw (.PolicyUnsatisfiable e.display)
  | .ok plan => return plan

/-- The request an attachment command is identified by. -/
def attachmentRequest (run : RunRecord D) (planDigest : D) : D :=
  (object [
    ("kind", .str "run.context-plan-attachment"),
    ("runId", .str run.id),
    ("sourceSnapshotDigest", .str (toDisplay run.contextSourceSnapshotDigest)),
    ("planDigest", .str (toDisplay planDigest))]).digest

/-- The attachment command: named by the first sixteen bytes of its request hash. -/
def attachmentCommand (epoch : String) (requestHash : D) : Command D :=
  let hex := String.ofList (toHex ((DigestScheme.asBytes requestHash).take 16))
  ⟨epoch, s!"t3a-{hex}", requestHash, "run.context.attached"⟩

/-- `ContextPreparationController::prepare_run_context`. -/
def prepareRunContext (runId : String) : ContextControl D (PreparedContext D) := do
  let found ← readSource (runRecord runId)
  let run ← Control.orElse (.Store (.RunNotFound runId)) found
  let plan ← plannedContext run
  let prepared : PreparedContext D :=
    ⟨run.id, run.contextSourceSnapshotDigest, plan.digest, plan⟩
  let existing ← readSource (runContextPlan run.id)
  if existing = some plan.digest then return prepared
  else
    let epoch ← Control.lift .Store (readStore currentRestoreGeneration)
    let _ ← Control.lift .Store (perform (.command
      (attachmentCommand epoch (attachmentRequest run plan.digest))
      (.attachRunContextPlan ⟨run.id, run.contextSourceSnapshotDigest, plan.digest,
        contextBuilderVersion, plan.toValue.toCanonicalText⟩)))
    return prepared

/-! ## Preparation keeps beside the lineage of Runs -/

theorem readSource_looks {α : Type} (f : Db D → α) :
    (readSource f : ContextControl D α).run.Each Looking := each_step (readStore_looks f)

theorem plannedContext_looks (run : RunRecord D) : (plannedContext run).run.Each Looking := by
  refine .andThen (readSource_looks _) fun _ => .andThen (each_ofExcept _) fun snapshot => ?_
  refine .andThen (each_lift (readStore_looks _)) fun _ => .andThen (each_ofExcept _) fun _ => ?_
  refine .andThen (readSource_looks _) fun _ => .andThen (each_ofExcept _) fun spec => ?_
  refine .andThen (each_ofExcept _) fun _ => .andThen (readSource_looks _) fun _ => ?_
  refine .andThen (each_orElse _ _) fun goal => .andThen (each_ofExcept _) fun _ => ?_
  refine .andThen (readSource_looks _) fun _ => .andThen (each_orElse _ _) fun _ => ?_
  refine .andThen (each_ofExcept _) fun guidance => ?_
  refine .andThen (each_lift (readStore_looks _)) fun _ => .andThen (each_ofExcept _) fun _ => ?_
  dsimp only
  split <;> trivial

theorem prepareRunContext_prepares (runId : String) :
    (prepareRunContext runId : ContextControl D _).run.Each Preparing := by
  refine .andThen (looks_prepares (readSource_looks _)) fun _ =>
    .andThen (each_orElse _ _) fun run => ?_
  refine .andThen (looks_prepares (plannedContext_looks run)) fun plan => ?_
  refine .andThen (looks_prepares (readSource_looks _)) fun existing => ?_
  split
  · trivial
  · refine .andThen (each_lift (readStore_prepares _)) fun epoch => ?_
    exact .andThen (each_lift (perform_prepares rfl rfl)) fun _ => trivial

end Pantheon
