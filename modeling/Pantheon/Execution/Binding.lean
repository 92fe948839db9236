/-
  What a Run freezes when it is created (`pantheon-core/src/scheduling.rs`): the immutable
  execution strategy and the immutable context sources, each addressed by the digest of its
  canonical encoding.
-/
import Pantheon.Config.Components

namespace Pantheon

open Value

structure ExecutionBinding (D : Type) where
  taskId : String
  agent : LogicalAgentVersion
  requestDigest : D
  offerDigest : D
  backendId : String
  descriptorRevision : Nat
  descriptorDigest : D
  executionProfileDigest : D
  sandboxProfileDigest : D
  routePolicyDigest : D
  configurationActivationSequence : Int
  configurationContentDigest : D
  componentDigests : ComponentDigests D
  deriving Repr, DecidableEq

namespace ExecutionBinding

variable {D : Type} [DigestScheme D]

def toValue (b : ExecutionBinding D) : Value :=
  object [
    ("taskId", .str b.taskId),
    ("agent", b.agent.toValue),
    ("requestDigest", .str (toDisplay b.requestDigest)),
    ("offerDigest", .str (toDisplay b.offerDigest)),
    ("backendId", .str b.backendId),
    ("descriptorRevision", .integer (saturatedI64 b.descriptorRevision)),
    ("descriptorDigest", .str (toDisplay b.descriptorDigest)),
    ("executionProfileDigest", .str (toDisplay b.executionProfileDigest)),
    ("sandboxProfileDigest", .str (toDisplay b.sandboxProfileDigest)),
    ("routePolicyDigest", .str (toDisplay b.routePolicyDigest)),
    ("configurationActivationSequence", .integer b.configurationActivationSequence),
    ("configurationContentDigest", .str (toDisplay b.configurationContentDigest)),
    ("componentDigests", b.componentDigests.toValue)]

def digest (b : ExecutionBinding D) : D := b.toValue.digest

theorem toValue_wf {b : ExecutionBinding D} (h : IsI64 b.configurationActivationSequence) :
    b.toValue.Wf := by
  refine wf_object ?_
  simp only [List.mem_cons, List.not_mem_nil, or_false, forall_eq_or_imp, forall_eq, wf_str,
    true_and]
  exact ⟨b.agent.toValue_wf, isI64_saturated _, h, b.componentDigests.toValue_wf⟩

end ExecutionBinding

structure ContextSourceSnapshot (D : Type) where
  taskSpecDigest : D
  goalId : String
  goalRevision : Int
  graphRevision : Int
  agent : LogicalAgentVersion
  configurationActivationSequence : Int
  contextPolicyDigest : D
  agentSoulDigest : D
  agentBehaviorDigest : D
  workspaceId : String
  workspaceResolvedBase : String
  deriving Repr, DecidableEq

namespace ContextSourceSnapshot

variable {D : Type} [DigestScheme D]

def toValue (s : ContextSourceSnapshot D) : Value :=
  object [
    ("taskSpecDigest", .str (toDisplay s.taskSpecDigest)),
    ("goalId", .str s.goalId),
    ("goalRevision", .integer s.goalRevision),
    ("graphRevision", .integer s.graphRevision),
    ("agent", s.agent.toValue),
    ("configurationActivationSequence", .integer s.configurationActivationSequence),
    ("contextPolicyDigest", .str (toDisplay s.contextPolicyDigest)),
    ("agentSoulDigest", .str (toDisplay s.agentSoulDigest)),
    ("agentBehaviorDigest", .str (toDisplay s.agentBehaviorDigest)),
    ("workspaceId", .str s.workspaceId),
    ("workspaceResolvedBase", .str s.workspaceResolvedBase)]

def digest (s : ContextSourceSnapshot D) : D := s.toValue.digest

/-- A digest field of a snapshot. -/
def decodeDigest (v : Value) (name : String) : Except DecodeError D := do
  match fromDisplay (← v.entryString name) with
  | some d => .ok d
  | none => .error (.field s!"{name} is not a sha256 digest")

def decodeAgent (v : Value) : Except DecodeError LogicalAgentVersion :=
  match v.get "name", v.get "version" with
  | some (.str name), some (.integer version) =>
    if 0 ≤ version ∧ version < 2 ^ 32 then .ok ⟨name, UInt32.ofNat version.toNat⟩
    else .error (.field "agent version does not fit a 32-bit number")
  | _, _ => .error (.field "malformed agent identity")

/-- `ContextSourceSnapshot::from_canonical_json`. -/
def fromCanonicalJson (text : String) : Except DecodeError (ContextSourceSnapshot D) := do
  let value ← parseStored text
  let agent ← match value.get "agent" with
    | some agent => decodeAgent agent
    | none => .error (.field "missing agent")
  let taskSpecDigest ← decodeDigest value "taskSpecDigest"
  let goalId ← value.entryString "goalId"
  let goalRevision ← value.entryInteger "goalRevision"
  let graphRevision ← value.entryInteger "graphRevision"
  let configurationActivationSequence ← value.entryInteger "configurationActivationSequence"
  let contextPolicyDigest ← decodeDigest value "contextPolicyDigest"
  let agentSoulDigest ← decodeDigest value "agentSoulDigest"
  let agentBehaviorDigest ← decodeDigest value "agentBehaviorDigest"
  let workspaceId ← value.entryString "workspaceId"
  let workspaceResolvedBase ← value.entryString "workspaceResolvedBase"
  return {
    taskSpecDigest, goalId, goalRevision, graphRevision, agent, configurationActivationSequence,
    contextPolicyDigest, agentSoulDigest, agentBehaviorDigest, workspaceId, workspaceResolvedBase }

theorem toValue_wf {s : ContextSourceSnapshot D} (hgoal : IsI64 s.goalRevision)
    (hgraph : IsI64 s.graphRevision) (hsequence : IsI64 s.configurationActivationSequence) :
    s.toValue.Wf := by
  refine wf_object ?_
  simp only [List.mem_cons, List.not_mem_nil, or_false, forall_eq_or_imp, forall_eq, wf_str,
    true_and, and_true]
  exact ⟨hgoal, hgraph, s.agent.toValue_wf, hsequence⟩

theorem decodeAgent_toValue (a : LogicalAgentVersion) : decodeAgent a.toValue = .ok a := by
  have hversion : 0 ≤ (a.version.toNat : Int) ∧ (a.version.toNat : Int) < 2 ^ 32 := by
    have := a.version.toNat_lt
    omega
  have hname : a.toValue.get "name" = some (.str a.name) := by
    simp [LogicalAgentVersion.toValue, get_object, List.lookup_cons]
  have hfield : a.toValue.get "version" = some (.integer a.version.toNat) := by
    simp [LogicalAgentVersion.toValue, get_object]
  rw [decodeAgent, hname, hfield]
  dsimp only
  rw [if_pos hversion, Int.toNat_natCast, UInt32.ofNat_toNat]

theorem decodeDigest_get {v : Value} {name : String} {d : D}
    (h : v.get name = some (.str (toDisplay d))) : decodeDigest v name = .ok d := by
  rw [decodeDigest, entryString_get h, ok_bind, fromDisplay_toDisplay]

/-- The fields of a snapshot, as its canonical form has them. -/
theorem get_toValue (s : ContextSourceSnapshot D) :
    s.toValue.get "taskSpecDigest" = some (.str (toDisplay s.taskSpecDigest)) ∧
    s.toValue.get "goalId" = some (.str s.goalId) ∧
    s.toValue.get "goalRevision" = some (.integer s.goalRevision) ∧
    s.toValue.get "graphRevision" = some (.integer s.graphRevision) ∧
    s.toValue.get "agent" = some s.agent.toValue ∧
    s.toValue.get "configurationActivationSequence" =
      some (.integer s.configurationActivationSequence) ∧
    s.toValue.get "contextPolicyDigest" = some (.str (toDisplay s.contextPolicyDigest)) ∧
    s.toValue.get "agentSoulDigest" = some (.str (toDisplay s.agentSoulDigest)) ∧
    s.toValue.get "agentBehaviorDigest" = some (.str (toDisplay s.agentBehaviorDigest)) ∧
    s.toValue.get "workspaceId" = some (.str s.workspaceId) ∧
    s.toValue.get "workspaceResolvedBase" = some (.str s.workspaceResolvedBase) := by
  simp only [toValue, get_object]
  exact ⟨rfl, rfl, rfl, rfl, rfl, rfl, rfl, rfl, rfl, rfl, rfl⟩

/-- A snapshot is read back from its canonical text. -/
theorem fromCanonicalJson_toCanonicalText {s : ContextSourceSnapshot D} (h : s.toValue.Wf) :
    fromCanonicalJson s.toValue.toCanonicalText = .ok s := by
  obtain ⟨hspec, hgoal, hrevision, hgraph, hagent, hsequence, hpolicy, hsoul, hbehavior,
    hworkspace, hbase⟩ := s.get_toValue
  rw [fromCanonicalJson, parseStored_toCanonicalText h, ok_bind, hagent]
  dsimp only
  rw [decodeAgent_toValue, ok_bind, decodeDigest_get hspec, ok_bind, entryString_get hgoal, ok_bind,
    entryInteger_get hrevision, ok_bind, entryInteger_get hgraph, ok_bind,
    entryInteger_get hsequence, ok_bind, decodeDigest_get hpolicy, ok_bind, decodeDigest_get hsoul,
    ok_bind, decodeDigest_get hbehavior, ok_bind, entryString_get hworkspace, ok_bind,
    entryString_get hbase, ok_bind]
  rfl

end ContextSourceSnapshot

end Pantheon
