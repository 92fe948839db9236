/-
  Building the context plan of a Run (`pantheon-core/src/context.rs`).
  `buildContextPlan` is pure: the frozen snapshot, the verified frozen sources and the frozen
  policy determine the sections, their order and the digest. `applyOptionalDrop` is the drop
  pass; the composed path gives it no measured capacity, so there it drops nothing.
-/
import Mathlib.Data.Prod.Lex
import Pantheon.Config.Model
import Pantheon.Context.Guidance
import Pantheon.Execution.Binding
import Pantheon.Planning.Spec

namespace Pantheon

open Value

def contextBuilderVersion : String := "context-builder-v1"

def sectionTaskContract : String := "task-contract"

def sectionGoalContract : String := "goal-contract"

def sectionAgentSoul : String := "agent-soul"

def sectionAgentBehavior : String := "agent-behavior"

def sectionWorkspaceOrientation : String := "workspace-orientation"

def sectionReferenceInput : String := "reference-input"

inductive InclusionClass where
  | Mandatory
  | Preload
  | OnDemand
  deriving Repr, DecidableEq

namespace InclusionClass

def asStr : InclusionClass → String
  | .Mandatory => "mandatory"
  | .Preload => "preload"
  | .OnDemand => "on-demand"

def rank : InclusionClass → Nat
  | .Mandatory => 0
  | .Preload => 1
  | .OnDemand => 2

end InclusionClass

inductive PrecedenceStratum where
  | ExecutionProtocol
  | GoalTaskContract
  | AgentGuidance
  | ContinuationEvidence
  | ReferenceData
  deriving Repr, DecidableEq

namespace PrecedenceStratum

def asStr : PrecedenceStratum → String
  | .ExecutionProtocol => "execution-protocol"
  | .GoalTaskContract => "goal-task-contract"
  | .AgentGuidance => "agent-guidance"
  | .ContinuationEvidence => "continuation-evidence"
  | .ReferenceData => "reference-data"

def rank : PrecedenceStratum → Nat
  | .ExecutionProtocol => 0
  | .GoalTaskContract => 1
  | .AgentGuidance => 2
  | .ContinuationEvidence => 3
  | .ReferenceData => 4

end PrecedenceStratum

/-- `kind_rank`; any other kind comes last. -/
def kindRank (kind : String) : Nat :=
  if kind = sectionTaskContract then 0
  else if kind = sectionGoalContract then 1
  else if kind = sectionAgentSoul then 2
  else if kind = sectionAgentBehavior then 3
  else if kind = sectionWorkspaceOrientation then 4
  else if kind = sectionReferenceInput then 5
  else 255

structure ContextSection where
  kind : String
  key : String
  inclusion : InclusionClass
  precedence : PrecedenceStratum
  provenance : Value
  instruction : Option String
  deriving Repr

namespace ContextSection

def orderKey (s : ContextSection) : Nat ×ₗ Nat ×ₗ Nat ×ₗ String ×ₗ String :=
  toLex (s.inclusion.rank, toLex (s.precedence.rank, toLex (kindRank s.kind,
    toLex (s.kind, s.key))))

/-- `compare_sections` answered less or equal. -/
def Le (s t : ContextSection) : Prop := s.orderKey ≤ t.orderKey

instance : DecidableRel Le := fun s t => inferInstanceAs (Decidable (s.orderKey ≤ t.orderKey))

def toValue (s : ContextSection) : Value :=
  object [
    ("kind", .str s.kind),
    ("key", .str s.key),
    ("inclusion", .str s.inclusion.asStr),
    ("precedence", .str s.precedence.asStr),
    ("provenance", s.provenance),
    ("instruction", s.instruction.elim .null .str)]

end ContextSection

structure DroppedSection where
  kind : String
  key : String
  reason : String
  deriving Repr, DecidableEq

def DroppedSection.toValue (s : DroppedSection) : Value :=
  object [("kind", .str s.kind), ("key", .str s.key), ("reason", .str s.reason)]

/-! ## The drop pass -/

/-- The last greatest section of a list, as `max_by` picks it. -/
def lastGreatest (sections : List ContextSection) : Option ContextSection :=
  sections.foldl (fun best s => some (best.elim s fun b => if b.Le s then s else b)) none

theorem lastGreatest_mem {sections : List ContextSection} {s : ContextSection}
    (h : lastGreatest sections = some s) : s ∈ sections := by
  have hfold : ∀ (l : List ContextSection) (best : Option ContextSection),
      l.foldl (fun best s => some (best.elim s fun b => if b.Le s then s else b)) best = some s →
        best = some s ∨ s ∈ l := by
    intro l
    induction l with
    | nil => exact fun best h => .inl h
    | cons t l ih =>
      intro best h
      rcases ih _ h with hbest | hmem
      · cases best with
        | none => exact .inr (by simp [← Option.some.inj hbest])
        | some b =>
          simp only [Option.elim, Option.some.injEq] at hbest
          split at hbest
          · exact .inr (hbest ▸ List.mem_cons_self)
          · exact .inl (congrArg some hbest)
      · exact .inr (List.mem_cons_of_mem _ hmem)
  exact (hfold sections none h).resolve_left nofun

/-- The section of a kind that goes next. -/
def victim (kind : String) (kept : List ContextSection) : Option ContextSection :=
  lastGreatest (kept.filter fun s => s.inclusion = .Preload ∧ s.kind = kind)

/-- What is left without the sections that share a section's kind and key. -/
def withoutSection (s : ContextSection) (kept : List ContextSection) : List ContextSection :=
  kept.filter fun r => r.kind ≠ s.kind ∨ r.key ≠ s.key

theorem withoutSection_shorter {kind : String} {kept : List ContextSection} {s : ContextSection}
    (h : victim kind kept = some s) : (withoutSection s kept).length < kept.length := by
  have hmem : s ∈ kept := List.mem_of_mem_filter (lastGreatest_mem h)
  exact List.length_filter_lt_length_iff_exists.mpr ⟨s, hmem, by simp⟩

/-- The loop over one kind of the drop order. -/
def dropKind (exceeded : List ContextSection → Bool) (kind : String)
    (kept : List ContextSection) (dropped : List DroppedSection) :
    List ContextSection × List DroppedSection :=
  if exceeded kept then
    match _h : victim kind kept with
    | some s => dropKind exceeded kind (withoutSection s kept)
        (dropped ++ [⟨s.kind, s.key, "policy-drop-order"⟩])
    | none => (kept, dropped)
  else (kept, dropped)
termination_by kept.length
decreasing_by exact withoutSection_shorter _h

/-- `apply_optional_drop`. -/
def applyOptionalDrop (sections : List ContextSection) (dropOrder : List String)
    (exceeded : List ContextSection → Bool) : List ContextSection × List DroppedSection :=
  dropOrder.foldl (fun state kind => dropKind exceeded kind state.1 state.2) (sections, [])

/-! ## The plan -/

structure ContextPlan (D : Type) where
  sourceSnapshotDigest : D
  contextPolicyDigest : D
  taskSpecDigest : D
  goalId : String
  goalRevision : Int
  graphRevision : Int
  agent : LogicalAgentVersion
  agentSoulDigest : D
  agentBehaviorDigest : D
  workspaceId : String
  workspaceResolvedBase : String
  sections : List ContextSection
  dropped : List DroppedSection
  deriving Repr

variable {D : Type} [DigestScheme D]

namespace ContextPlan

def toValue (p : ContextPlan D) : Value :=
  object [
    ("builder", object [
      ("version", .str contextBuilderVersion),
      ("contextPolicyDigest", .str (toDisplay p.contextPolicyDigest))]),
    ("sourceSnapshot", .str (toDisplay p.sourceSnapshotDigest)),
    ("task", object [
      ("specDigest", .str (toDisplay p.taskSpecDigest)),
      ("goalId", .str p.goalId),
      ("goalRevision", .integer p.goalRevision),
      ("graphRevision", .integer p.graphRevision)]),
    ("agent", object [
      ("name", .str p.agent.name),
      ("version", .integer p.agent.version.toNat),
      ("soul", .str (toDisplay p.agentSoulDigest)),
      ("behavior", .str (toDisplay p.agentBehaviorDigest))]),
    ("workspace", object [
      ("id", .str p.workspaceId),
      ("resolvedBase", .str p.workspaceResolvedBase)]),
    ("sections", .arr (p.sections.map ContextSection.toValue)),
    ("dropped", .arr (p.dropped.map DroppedSection.toValue))]

def digest (p : ContextPlan D) : D := p.toValue.digest

end ContextPlan

structure FrozenSources (D : Type) where
  taskSpec : TaskSpec D
  goalContentDigest : D
  soul : String
  behavior : String
  workspaceRepository : String

inductive ContextPlanError where
  | MandatorySectionUnsatisfiable (required : String)
  deriving Repr, DecidableEq

def ContextPlanError.display : ContextPlanError → String
  | .MandatorySectionUnsatisfiable required =>
    s!"the frozen context policy requires section {debugText required}, which cannot be produced from the frozen sources"

/-- A guidance section of the selected agent. -/
def guidanceSection (kind : String) (agent : LogicalAgentVersion) (digest : D) (text : String) :
    ContextSection :=
  ⟨kind, "", .Mandatory, .AgentGuidance,
    object [
      ("agentName", .str agent.name),
      ("agentVersion", .integer agent.version.toNat),
      ("digest", .str (toDisplay digest))],
    some text⟩

def referenceSection (input : TaskInput) : ContextSection :=
  ⟨sectionReferenceInput, input.name, .OnDemand, .ReferenceData,
    object [("ref", .str input.reference)], none⟩

/-- The sections before ordering: the fixed ones, then the inputs by name. -/
def planSections (snapshot : ContextSourceSnapshot D) (sources : FrozenSources D) :
    List ContextSection := [
  ⟨sectionTaskContract, "", .Mandatory, .GoalTaskContract,
    object [
      ("specDigest", .str (toDisplay snapshot.taskSpecDigest)),
      ("acceptanceDigest", .str (toDisplay (sources.taskSpec.acceptanceDigest : D))),
      ("goalId", .str snapshot.goalId),
      ("goalRevision", .integer snapshot.goalRevision)],
    some sources.taskSpec.objective⟩,
  ⟨sectionGoalContract, "", .Mandatory, .GoalTaskContract,
    object [
      ("goalId", .str snapshot.goalId),
      ("goalRevision", .integer snapshot.goalRevision),
      ("contentDigest", .str (toDisplay sources.goalContentDigest))],
    none⟩,
  guidanceSection sectionAgentSoul snapshot.agent snapshot.agentSoulDigest sources.soul,
  guidanceSection sectionAgentBehavior snapshot.agent snapshot.agentBehaviorDigest
    sources.behavior,
  ⟨sectionWorkspaceOrientation, "", .Preload, .ReferenceData,
    object [
      ("workspaceId", .str snapshot.workspaceId),
      ("repository", .str sources.workspaceRepository),
      ("resolvedBase", .str snapshot.workspaceResolvedBase)],
    none⟩] ++
  (sources.taskSpec.inputs.insertionSort fun a b => a.name ≤ b.name).map referenceSection

/-- `build_context_plan`. -/
def buildContextPlan (snapshot : ContextSourceSnapshot D) (sources : FrozenSources D)
    (policy : ContextComponent) : Except ContextPlanError (ContextPlan D) :=
  let sections := planSections snapshot sources
  match policy.mandatorySections.find? fun required => !sections.any (·.kind == required) with
  | some required => .error (.MandatorySectionUnsatisfiable required)
  | none =>
    let (ordered, dropped) := applyOptionalDrop sections policy.optionalDropOrder fun _ => false
    .ok {
      sourceSnapshotDigest := snapshot.digest
      contextPolicyDigest := snapshot.contextPolicyDigest
      taskSpecDigest := snapshot.taskSpecDigest
      goalId := snapshot.goalId
      goalRevision := snapshot.goalRevision
      graphRevision := snapshot.graphRevision
      agent := snapshot.agent
      agentSoulDigest := snapshot.agentSoulDigest
      agentBehaviorDigest := snapshot.agentBehaviorDigest
      workspaceId := snapshot.workspaceId
      workspaceResolvedBase := snapshot.workspaceResolvedBase
      sections := ordered.insertionSort ContextSection.Le
      dropped }

end Pantheon
