/-
  The compiled configuration (`pantheon-core/src/config/model.rs` and the compiled
  configuration of `revision.rs`): six components, each with the canonical form its digest is
  taken of. Lists that are sets are sorted in the form; lists whose order means something are
  written as they stand.
  The `toValue_wf` lemmas say that the forms can be parsed back; the execution and authorization
  forms always can.
-/
import Mathlib.Data.List.Sort
import Pantheon.Config.Components

namespace Pantheon

open Value

/-- `set_strings`. -/
def setStrings (values : List String) : Value := strings (values.insertionSort (· ≤ ·))

@[simp] theorem setStrings_wf (values : List String) : (setStrings values).Wf := wf_strings _

@[simp] theorem Value.strings_wf (values : List String) : (strings values).Wf := wf_strings values

/-- A 32-bit version fits a canonical integer. -/
@[simp] theorem version_wf (version : UInt32) : (Value.integer version.toNat).Wf := by
  have hlt := version.toNat_lt
  exact ⟨by omega, by omega⟩

theorem Value.wf_map {α : Type} {f : α → Value} {as : List α} (h : ∀ a ∈ as, (f a).Wf) :
    (Value.arr (as.map f)).Wf := by
  refine wf_arr.mpr fun v hv => ?_
  obtain ⟨a, ha, rfl⟩ := List.mem_map.mp hv
  exact h a ha

/-! ## Agents -/

/-- The derived order of agent identities: by name, then by version. -/
def LogicalAgentVersion.Le (a b : LogicalAgentVersion) : Prop :=
  a.name < b.name ∨ a.name = b.name ∧ a.version ≤ b.version

instance : DecidableRel LogicalAgentVersion.Le := fun a b =>
  inferInstanceAs (Decidable (a.name < b.name ∨ a.name = b.name ∧ a.version ≤ b.version))

/-- The order of identities is a linear one. -/
instance : Std.Total LogicalAgentVersion.Le := by
  constructor
  intro a b
  rcases lt_trichotomy a.name b.name with h | h | h
  · exact .inl (.inl h)
  · rcases UInt32.le_total a.version b.version with hv | hv
    · exact .inl (.inr ⟨h, hv⟩)
    · exact .inr (.inr ⟨h.symm, hv⟩)
  · exact .inr (.inl h)

instance : IsTrans LogicalAgentVersion LogicalAgentVersion.Le := by
  constructor
  rintro a b c (hab | ⟨hab, hv⟩) (hbc | ⟨hbc, hw⟩)
  · exact .inl (hab.trans hbc)
  · exact .inl (hbc ▸ hab)
  · exact .inl (hab ▸ hbc)
  · exact .inr ⟨hab.trans hbc, UInt32.le_trans hv hw⟩

instance : Std.Antisymm LogicalAgentVersion.Le := by
  constructor
  rintro ⟨n, v⟩ ⟨n', v'⟩ (h | ⟨h, hv⟩) (h' | ⟨h', hv'⟩)
  · exact absurd (h.trans h') (lt_irrefl _)
  · exact absurd (h' ▸ h) (lt_irrefl _)
  · exact absurd (h ▸ h') (lt_irrefl _)
  · rw [LogicalAgentVersion.mk.injEq]
    exact ⟨h, UInt32.le_antisymm hv hv'⟩

/-- `agent_references`. -/
def agentReferences (values : List LogicalAgentVersion) : Value :=
  .arr ((values.insertionSort LogicalAgentVersion.Le).map LogicalAgentVersion.toValue)

structure Agent where
  name : String
  version : UInt32
  enabled : Bool
  current : Bool
  accepts : List String
  competencies : List String
  routePolicy : String
  executionFeatures : List String
  minContextTokens : Int
  sandboxProfile : String
  sandboxRequirements : List String
  actions : List String
  soul : String
  behavior : String
  deriving Repr, DecidableEq

namespace Agent

def identity (a : Agent) : LogicalAgentVersion := ⟨a.name, a.version⟩

def toValue (a : Agent) : Value :=
  object [
    ("name", .str a.name),
    ("version", .integer a.version.toNat),
    ("enabled", .bool a.enabled),
    ("current", .bool a.current),
    ("accepts", setStrings a.accepts),
    ("competencies", setStrings a.competencies),
    ("routePolicy", .str a.routePolicy),
    ("executionFeatures", setStrings a.executionFeatures),
    ("minContextTokens", .integer a.minContextTokens),
    ("sandboxProfile", .str a.sandboxProfile),
    ("sandboxRequirements", setStrings a.sandboxRequirements),
    ("actions", setStrings a.actions),
    ("soul", .str a.soul),
    ("behavior", .str a.behavior)]

end Agent

structure AgentComponent where
  agents : List Agent
  deriving Repr, DecidableEq

def AgentComponent.toValue (c : AgentComponent) : Value :=
  object [("agents", .arr
    ((c.agents.insertionSort fun a b => a.identity.Le b.identity).map Agent.toValue))]

theorem AgentComponent.toValue_wf {c : AgentComponent}
    (h : ∀ a ∈ c.agents, IsI64 a.minContextTokens) : c.toValue.Wf := by
  have hagents : (Value.arr ((c.agents.insertionSort fun a b => a.identity.Le b.identity).map
      Agent.toValue)).Wf := by
    refine wf_map fun a ha => wf_object ?_
    have htokens : (Value.integer a.minContextTokens).Wf := h a ((List.mem_insertionSort _).mp ha)
    simp [htokens]
  exact wf_object (by simp [hagents])

/-! ## Routing -/

structure RoutePolicy where
  name : String
  priority : Int
  ordering : List String
  tieBreak : String
  requiresKeyedLaunch : Bool
  deriving Repr, DecidableEq

namespace RoutePolicy

def toValue (p : RoutePolicy) : Value :=
  object [
    ("name", .str p.name),
    ("priority", .integer p.priority),
    ("ordering", strings p.ordering),
    ("tieBreak", .str p.tieBreak),
    ("requiresKeyedLaunch", .bool p.requiresKeyedLaunch)]

def digest {D : Type} [DigestScheme D] (p : RoutePolicy) : D := p.toValue.digest

end RoutePolicy

structure RoutingComponent where
  policies : List RoutePolicy
  agentPins : List LogicalAgentVersion
  agentExclusions : List LogicalAgentVersion
  deriving Repr, DecidableEq

def RoutingComponent.toValue (c : RoutingComponent) : Value :=
  object [
    ("policies", .arr
      ((c.policies.insertionSort fun p q => p.name ≤ q.name).map RoutePolicy.toValue)),
    ("agentPins", agentReferences c.agentPins),
    ("agentExclusions", agentReferences c.agentExclusions)]

theorem agentReferences_wf (values : List LogicalAgentVersion) : (agentReferences values).Wf :=
  wf_map fun r _ => r.toValue_wf

theorem RoutingComponent.toValue_wf {c : RoutingComponent}
    (h : ∀ p ∈ c.policies, IsI64 p.priority) : c.toValue.Wf := by
  have hpolicies : (Value.arr ((c.policies.insertionSort fun p q => p.name ≤ q.name).map
      RoutePolicy.toValue)).Wf := by
    refine wf_map fun p hp => wf_object ?_
    have hpriority : (Value.integer p.priority).Wf := h p ((List.mem_insertionSort _).mp hp)
    simp [hpriority]
  exact wf_object (by simp [hpolicies, agentReferences_wf])

/-! ## Execution -/

inductive IsolationClass where
  | TrustedHost
  | Container
  deriving Repr, DecidableEq

def IsolationClass.asStr : IsolationClass → String
  | .TrustedHost => "TRUSTED_HOST"
  | .Container => "CONTAINER"

def IsolationClass.canIsolateControlPlane : IsolationClass → Bool
  | .TrustedHost => false
  | .Container => true

inductive NetworkMode where
  | None
  | Brokered
  deriving Repr, DecidableEq

def NetworkMode.asStr : NetworkMode → String
  | .None => "NONE"
  | .Brokered => "BROKERED"

structure SandboxProfile where
  name : String
  isolationClass : IsolationClass
  guarantees : List String
  networkMode : NetworkMode
  environmentIdentity : String
  deriving Repr, DecidableEq

namespace SandboxProfile

def toValue (p : SandboxProfile) : Value :=
  object [
    ("name", .str p.name),
    ("isolationClass", .str p.isolationClass.asStr),
    ("guarantees", setStrings p.guarantees),
    ("networkMode", .str p.networkMode.asStr),
    ("environmentIdentity", .str p.environmentIdentity)]

def digest {D : Type} [DigestScheme D] (p : SandboxProfile) : D := p.toValue.digest

theorem toValue_wf (p : SandboxProfile) : p.toValue.Wf :=
  wf_object (by simp [setStrings, strings, wf_strings])

end SandboxProfile

structure BackendRegistration where
  backendId : String
  enabled : Bool
  selector : String
  deriving Repr, DecidableEq

def BackendRegistration.toValue (b : BackendRegistration) : Value :=
  object [("backendId", .str b.backendId), ("enabled", .bool b.enabled),
    ("selector", .str b.selector)]

structure ExecutionComponent where
  profiles : List SandboxProfile
  backends : List BackendRegistration
  deriving Repr, DecidableEq

def ExecutionComponent.toValue (c : ExecutionComponent) : Value :=
  object [("profiles", .arr (c.profiles.map SandboxProfile.toValue)),
    ("backends", .arr (c.backends.map BackendRegistration.toValue))]

theorem ExecutionComponent.toValue_wf (c : ExecutionComponent) : c.toValue.Wf := by
  have hprofiles : (Value.arr (c.profiles.map SandboxProfile.toValue)).Wf :=
    wf_map fun profile _ => profile.toValue_wf
  have hbackends : (Value.arr (c.backends.map BackendRegistration.toValue)).Wf :=
    wf_map fun backend _ => wf_object (by simp)
  exact wf_object (by simp [hprofiles, hbackends])

/-! ## Evaluators -/

structure EvaluatorRef where
  reference : String
  currentVersion : String
  deriving Repr, DecidableEq

inductive EvaluatorKind where
  | Check
  | Schema
  deriving Repr, DecidableEq

def EvaluatorKind.asStr : EvaluatorKind → String
  | .Check => "check"
  | .Schema => "schema"

structure EvaluatorVersion where
  id : String
  kind : EvaluatorKind
  argv : List String
  timeoutMs : Int
  sandboxProfile : String
  resultProtocol : String
  deriving Repr, DecidableEq

structure EvaluatorComponent where
  refs : List EvaluatorRef
  versions : List EvaluatorVersion
  deriving Repr, DecidableEq

def EvaluatorComponent.toValue (c : EvaluatorComponent) : Value :=
  object [
    ("refs", .arr (c.refs.map fun r =>
      object [("ref", .str r.reference), ("currentVersion", .str r.currentVersion)])),
    ("versions", .arr (c.versions.map fun v =>
      object [
        ("id", .str v.id),
        ("kind", .str v.kind.asStr),
        ("argv", strings v.argv),
        ("timeoutMs", .integer v.timeoutMs),
        ("sandboxProfile", .str v.sandboxProfile),
        ("resultProtocol", .str v.resultProtocol)]))]

theorem EvaluatorComponent.toValue_wf {c : EvaluatorComponent}
    (h : ∀ v ∈ c.versions, IsI64 v.timeoutMs) : c.toValue.Wf := by
  refine wf_object ?_
  rw [List.forall_mem_cons, List.forall_mem_singleton]
  refine ⟨wf_map fun r _ => wf_object (by simp), wf_map fun v hv => wf_object ?_⟩
  have htimeout : (Value.integer v.timeoutMs).Wf := h v hv
  simp [htimeout]

/-! ## Context -/

structure ContextComponent where
  schemaVersion : UInt32
  mandatorySections : List String
  preloadPriority : List String
  memoryLimitTokens : Int
  workspaceOrientationLimitTokens : Int
  safetyMarginTokens : Int
  optionalDropOrder : List String
  deriving Repr, DecidableEq

namespace ContextComponent

def toValue (c : ContextComponent) : Value :=
  object [
    ("schemaVersion", .integer c.schemaVersion.toNat),
    ("mandatorySections", strings c.mandatorySections),
    ("preloadPriority", strings c.preloadPriority),
    ("memoryLimitTokens", .integer c.memoryLimitTokens),
    ("workspaceOrientationLimitTokens", .integer c.workspaceOrientationLimitTokens),
    ("safetyMarginTokens", .integer c.safetyMarginTokens),
    ("optionalDropOrder", strings c.optionalDropOrder)]

theorem toValue_wf {c : ContextComponent} (h : IsI64 c.memoryLimitTokens ∧
    IsI64 c.workspaceOrientationLimitTokens ∧ IsI64 c.safetyMarginTokens) : c.toValue.Wf := by
  have hmemory : (Value.integer c.memoryLimitTokens).Wf := h.1
  have horientation : (Value.integer c.workspaceOrientationLimitTokens).Wf := h.2.1
  have hmargin : (Value.integer c.safetyMarginTokens).Wf := h.2.2
  exact wf_object (by simp [hmemory, horientation, hmargin])

/-- A list of section kinds of a stored policy. -/
def decodeSections (v : Value) (name : String) : Except DecodeError (List String) :=
  v.stringList name s!"missing or malformed {name}" fun other =>
    s!"{name} contains a non-string value ({other.kind})"

/-- `ContextComponent::from_canonical_value`. -/
def fromCanonicalValue (v : Value) : Except DecodeError ContextComponent := do
  let schemaVersion ← v.entryInteger "schemaVersion"
  if 0 ≤ schemaVersion ∧ schemaVersion < 2 ^ 32 then
    let mandatorySections ← decodeSections v "mandatorySections"
    let preloadPriority ← decodeSections v "preloadPriority"
    let memoryLimitTokens ← v.entryInteger "memoryLimitTokens"
    let workspaceOrientationLimitTokens ← v.entryInteger "workspaceOrientationLimitTokens"
    let safetyMarginTokens ← v.entryInteger "safetyMarginTokens"
    let optionalDropOrder ← decodeSections v "optionalDropOrder"
    return {
      schemaVersion := UInt32.ofNat schemaVersion.toNat
      mandatorySections, preloadPriority, memoryLimitTokens, workspaceOrientationLimitTokens,
      safetyMarginTokens, optionalDropOrder }
  else .error (.field "schemaVersion does not fit a 32-bit version")

end ContextComponent

/-! ## Authorization -/

def hardPolicyVersion : String := "pantheon-hard-policy-v1"

inductive RuleEffect where
  | Permit
  | Forbid
  deriving Repr, DecidableEq

def RuleEffect.asStr : RuleEffect → String
  | .Permit => "permit"
  | .Forbid => "forbid"

structure AuthorizationRule where
  action : String
  effect : RuleEffect
  deriving Repr, DecidableEq

structure AuthorizationComponent where
  schemaVersion : UInt32
  rules : List AuthorizationRule
  deriving Repr, DecidableEq

def AuthorizationComponent.toValue (c : AuthorizationComponent) : Value :=
  object [
    ("schemaVersion", .integer c.schemaVersion.toNat),
    ("hardPolicyVersion", .str hardPolicyVersion),
    ("rules", .arr (c.rules.map fun r =>
      object [("action", .str r.action), ("effect", .str r.effect.asStr)]))]

theorem AuthorizationComponent.toValue_wf (c : AuthorizationComponent) : c.toValue.Wf := by
  have hrules : (Value.arr (c.rules.map fun r =>
      object [("action", .str r.action), ("effect", .str r.effect.asStr)])).Wf :=
    wf_map fun r _ => wf_object (by simp)
  exact wf_object (by simp [hrules])

/-! ## The compiled configuration -/

def compilerVersion : String := "pantheon-config-v3"

structure CompiledConfiguration where
  agents : AgentComponent
  routing : RoutingComponent
  execution : ExecutionComponent
  evaluators : EvaluatorComponent
  context : ContextComponent
  authorization : AuthorizationComponent
  deriving Repr, DecidableEq

namespace CompiledConfiguration

variable {D : Type} [DigestScheme D]

/-- One component's domain, identity and canonical text. -/
def record (domain : ComponentDomain) (v : Value) : ComponentDomain × D × String :=
  (domain, v.digest, v.toCanonicalText)

/-- `CompiledConfiguration::component_records`. -/
def componentRecords (c : CompiledConfiguration) : List (ComponentDomain × D × String) := [
  record .agents c.agents.toValue,
  record .routing c.routing.toValue,
  record .executionProfiles c.execution.toValue,
  record .evaluators c.evaluators.toValue,
  record .context c.context.toValue,
  record .authorization c.authorization.toValue]

/-- `CompiledConfiguration::component_digests`. -/
def componentDigests (c : CompiledConfiguration) : ComponentDigests D :=
  ⟨c.agents.toValue.digest, c.routing.toValue.digest, c.execution.toValue.digest,
    c.evaluators.toValue.digest, c.context.toValue.digest, c.authorization.toValue.digest⟩

/-- `CompiledConfiguration::revision_digest`. -/
def revisionDigest (c : CompiledConfiguration) : D :=
  (c.componentDigests : ComponentDigests D).revisionDigest compilerVersion

/-! ## What the canonical forms tell apart -/

omit [DigestScheme D] in
theorem opens_object {k : String} {pairs : List (String × Value)} (hk : k ∈ pairs.map Prod.fst)
    (hleast : ∀ p ∈ pairs, k ≤ p.1) : ∃ v es, object pairs = .obj ((k, v) :: es) := by
  obtain ⟨v, es, h⟩ := SortedAssoc.ofList_head hk hleast
  exact ⟨v, es, congrArg Value.obj h⟩

/-- A component is stored under the digest of its text, which begins with the least key of its
    domain. -/
theorem componentRecords_text {c : CompiledConfiguration} {r : ComponentDomain × D × String}
    (h : r ∈ c.componentRecords) : DigestScheme.ofBytes (utf8 r.2.2) = r.2.1 ∧
      ∃ v es, r.2.2 = (Value.obj ((r.1.leastKey, v) :: es)).toCanonicalText := by
  have hrecord : ∀ (domain : ComponentDomain) (w : Value),
      (∃ v es, w = .obj ((domain.leastKey, v) :: es)) →
      DigestScheme.ofBytes (utf8 (record domain w : ComponentDomain × D × String).2.2) =
          (record domain w : ComponentDomain × D × String).2.1 ∧
        ∃ v es, (record domain w : ComponentDomain × D × String).2.2 =
          (Value.obj ((domain.leastKey, v) :: es)).toCanonicalText := by
    rintro domain w ⟨v, es, rfl⟩
    exact ⟨by rw [record, ← toCanonicalBytes_eq_utf8]; rfl, v, es, rfl⟩
  simp only [componentRecords, List.mem_cons, List.not_mem_nil, or_false] at h
  rcases h with rfl | rfl | rfl | rfl | rfl | rfl <;>
  · refine hrecord _ _ (opens_object (by simp [ComponentDomain.leastKey]) ?_)
    simp only [List.forall_mem_cons, List.not_mem_nil, false_implies, implies_true, and_true]
    decide

/-- Components with one text have one domain. -/
theorem componentRecords_domain {c c' : CompiledConfiguration}
    {r r' : ComponentDomain × D × String} (hr : r ∈ c.componentRecords)
    (hr' : r' ∈ c'.componentRecords) (h : r.2.2 = r'.2.2) : r.1 = r'.1 := by
  obtain ⟨-, v, es, hv⟩ := componentRecords_text hr
  obtain ⟨-, v', es', hv'⟩ := componentRecords_text hr'
  rw [hv, hv'] at h
  exact ComponentDomain.leastKey_injective (toCanonicalText_key h)

end CompiledConfiguration

end Pantheon
