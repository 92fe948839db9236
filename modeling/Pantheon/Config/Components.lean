/-
  The identities of compiled configuration (`pantheon-core/src/config/revision.rs` and the
  agent identity of `config/model.rs`).
-/
import Pantheon.Config.Decode

namespace Pantheon

open Value

/-- The digests of the six components of a configuration revision. -/
structure ComponentDigests (D : Type) where
  agents : D
  routing : D
  executionProfile : D
  evaluatorRegistry : D
  contextPolicy : D
  authorization : D
  deriving Repr, DecidableEq

namespace ComponentDigests

variable {D : Type} [DigestScheme D]

def toValue (c : ComponentDigests D) : Value :=
  object [
    ("agents", .str (toDisplay c.agents)),
    ("routing", .str (toDisplay c.routing)),
    ("executionProfiles", .str (toDisplay c.executionProfile)),
    ("evaluators", .str (toDisplay c.evaluatorRegistry)),
    ("context", .str (toDisplay c.contextPolicy)),
    ("authorization", .str (toDisplay c.authorization))]

theorem toValue_wf (c : ComponentDigests D) : c.toValue.Wf := wf_object (by simp)

/-- `ComponentDigests::revision_digest`. -/
def revisionDigest (c : ComponentDigests D) (compilerVersion : String) : D :=
  (object [("compilerVersion", .str compilerVersion), ("components", c.toValue)]).digest

def toList (c : ComponentDigests D) : List D :=
  [c.agents, c.routing, c.executionProfile, c.evaluatorRegistry, c.contextPolicy, c.authorization]

theorem toValue_injective : Function.Injective (toValue : ComponentDigests D → Value) := by
  intro c c' h
  have hfield : ∀ (key : String) (x y : D), c.toValue.get key = some (.str (toDisplay x)) →
      c'.toValue.get key = some (.str (toDisplay y)) → x = y := by
    intro key x y hx hy
    rw [h, hy] at hx
    exact toDisplay_injective (Value.str.inj (Option.some.inj hx)).symm
  simp only [toValue, get_object] at hfield
  obtain ⟨a, r, e, v, k, z⟩ := c
  obtain ⟨a', r', e', v', k', z'⟩ := c'
  obtain rfl := hfield "agents" a a' rfl rfl
  obtain rfl := hfield "routing" r r' rfl rfl
  obtain rfl := hfield "executionProfiles" e e' rfl rfl
  obtain rfl := hfield "evaluators" v v' rfl rfl
  obtain rfl := hfield "context" k k' rfl rfl
  obtain rfl := hfield "authorization" z z' rfl rfl
  rfl

/-- With a hash without collisions, a revision digest is of one compiler version and one list of
    components. -/
theorem revisionDigest_injective (hD : Collisionless D) {c c' : ComponentDigests D}
    {version version' : String} (h : c.revisionDigest version = c'.revisionDigest version') :
    c = c' ∧ version = version' := by
  have hvalue := digest_injective hD (wf_object (by simp [toValue_wf]))
    (wf_object (by simp [toValue_wf])) h
  have hversion := congrArg (Value.get · "compilerVersion") hvalue
  have hcomponents := congrArg (Value.get · "components") hvalue
  simp only [get_object] at hversion hcomponents
  exact ⟨toValue_injective (Option.some.inj hcomponents),
    Value.str.inj (Option.some.inj hversion)⟩

end ComponentDigests

/-- The component domains, as the `configuration_components` check lists them. -/
inductive ComponentDomain where
  | agents
  | routing
  | executionProfiles
  | evaluators
  | context
  | authorization
  deriving Repr, DecidableEq

def ComponentDomain.asStr : ComponentDomain → String
  | .agents => "agents"
  | .routing => "routing"
  | .executionProfiles => "executionProfiles"
  | .evaluators => "evaluators"
  | .context => "context"
  | .authorization => "authorization"

/-- The least key of the canonical form of a component. -/
def ComponentDomain.leastKey : ComponentDomain → String
  | .agents => "agents"
  | .routing => "agentExclusions"
  | .executionProfiles => "backends"
  | .evaluators => "refs"
  | .context => "mandatorySections"
  | .authorization => "hardPolicyVersion"

theorem ComponentDomain.leastKey_injective {a b : ComponentDomain} (h : a.leastKey = b.leastKey) :
    a = b := by
  cases a <;> cases b <;> first | rfl | exact absurd h (by decide)

/-- A Logical Agent at one version; versions are 32-bit. -/
structure LogicalAgentVersion where
  name : String
  version : UInt32
  deriving Repr, DecidableEq

def LogicalAgentVersion.toValue (a : LogicalAgentVersion) : Value :=
  object [("name", .str a.name), ("version", .integer a.version.toNat)]

theorem LogicalAgentVersion.toValue_wf (a : LogicalAgentVersion) : a.toValue.Wf := by
  have hversion := a.version.toNat_lt
  refine wf_object ?_
  simp only [List.mem_cons, List.not_mem_nil, or_false, forall_eq_or_imp, forall_eq, wf_str,
    true_and]
  exact ⟨by omega, by omega⟩

end Pantheon
