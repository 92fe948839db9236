/-
  Frozen agent guidance (`pantheon-core/src/context.rs`): the extraction rule that Run-intent
  validation and later preparation share.
-/
import Pantheon.Config.Components

namespace Pantheon

structure AgentGuidance where
  soul : String
  behavior : String
  deriving Repr, DecidableEq

inductive GuidanceSourceError where
  | VersionAbsent (agent : LogicalAgentVersion)
  | Malformed (detail : String)
  deriving Repr, DecidableEq

def GuidanceSourceError.display : GuidanceSourceError → String
  | .VersionAbsent agent =>
    s!"agents component does not contain agent {agent.name}@{agent.version}"
  | .Malformed detail => s!"stored agents component is not readable: {detail}"

/-- An entry of the agents component for exactly this agent version. -/
def isAgentEntry (agent : LogicalAgentVersion) (entry : Value) : Bool :=
  match entry.get "name", entry.get "version" with
  | some (.str name), some (.integer version) =>
    name == agent.name && version == (agent.version.toNat : Int)
  | _, _ => false

/-- A guidance body, which may not be empty. -/
def guidanceText (entry : Value) (name : String) : Except GuidanceSourceError String :=
  match entry.get name with
  | some (.str text) => if text = "" then .error (.Malformed s!"missing or empty {name}") else .ok text
  | _ => .error (.Malformed s!"missing or empty {name}")

/-- `frozen_agent_guidance`. -/
def frozenAgentGuidance (agentsComponent : Value) (agent : LogicalAgentVersion) :
    Except GuidanceSourceError AgentGuidance :=
  match agentsComponent.get "agents" with
  | some (.arr entries) => do
    match entries.find? (isAgentEntry agent) with
    | some entry =>
      let soul ← guidanceText entry "soul"
      let behavior ← guidanceText entry "behavior"
      return ⟨soul, behavior⟩
    | none => .error (.VersionAbsent agent)
  | _ => .error (.Malformed "missing or malformed agents array")

/-- `guidance_digest`. -/
def guidanceDigest {D : Type} [DigestScheme D] (text : String) : D := (Value.str text).digest

end Pantheon
