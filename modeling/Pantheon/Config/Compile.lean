/-
  Compilation of configuration source (`pantheon-core/src/config/reader.rs`, `compile.rs`,
  `validate.rs`, `error.rs`).
  Field readers with the path they fail at, one function for each component, and the rules
  that hold between components. Declarations of one kind are compiled in order with the
  identities seen so far.
-/
import Pantheon.Config.Model

namespace Pantheon

/-- Why a configuration candidate cannot become authority. -/
inductive ConfigError where
  | Malformed (error : ParseError)
  | MissingField (path : String)
  | InvalidValue (path detail : String)
  | DuplicateIdentity (kind id : String)
  | UnknownReference (referrer kind id : String)
  | IncompatibleCombination (detail : String)
  | HardPolicyViolation (detail : String)
  deriving Repr, DecidableEq

abbrev Compiles (α : Type) : Type := Except ConfigError α

namespace Reader

/-! ## Field readers -/

def path (base key : String) : String := if base = "" then key else s!"{base}.{key}"

def field (value : Value) (base key : String) : Compiles Value :=
  match value.get key with
  | some v => .ok v
  | none => .error (.MissingField (path base key))

def asStr (value : Value) (location : String) : Compiles String :=
  match value with
  | .str text => .ok text
  | other => .error (.InvalidValue location s!"expected a string, found {other.kind}")

def asI64 (value : Value) (location : String) : Compiles Int :=
  match value with
  | .integer n => .ok n
  | other => .error (.InvalidValue location s!"expected an integer, found {other.kind}")

def asBool (value : Value) (location : String) : Compiles Bool :=
  match value with
  | .bool b => .ok b
  | other => .error (.InvalidValue location s!"expected a boolean, found {other.kind}")

def asArray (value : Value) (location : String) : Compiles (List Value) :=
  match value with
  | .arr values => .ok values
  | other => .error (.InvalidValue location s!"expected an array, found {other.kind}")

/-- A field of a given type, read under its own path. -/
def typed {α : Type} (read : Value → String → Compiles α) (parent : Value) (base key : String) :
    Compiles α := do
  read (← field parent base key) (path base key)

/-- A field that may be absent. -/
def optional {α : Type} (read : Value → String → Compiles α) (parent : Value) (base key : String)
    (default : α) : Compiles α :=
  match parent.get key with
  | some v => read v (path base key)
  | none => .ok default

def stringList (parent : Value) (base key : String) : Compiles (List String) := do
  (← typed asArray parent base key).mapM fun entry => asStr entry (path base key)

def nonEmpty (text location : String) : Compiles Unit :=
  refuseIf (text = "") (.InvalidValue location "must not be empty")

def positive (number : Int) (location : String) : Compiles Unit :=
  refuseIf (number ≤ 0) (.InvalidValue location s!"must be greater than zero, found {number}")

/-- Refuses a repeated identity; the answer is what has been seen now. -/
def unique (seen : List String) (kind id : String) : Compiles (List String) :=
  if id ∈ seen then .error (.DuplicateIdentity kind id) else .ok (seen ++ [id])

def nonEmptyList (values : List String) (location : String) : Compiles Unit :=
  refuseIf (values = []) (.InvalidValue location "must contain at least one value")

def uniqueList (values : List String) (kind : String) : Compiles Unit := do
  let _ ← values.foldlM (fun seen value => unique seen kind value) []

def rejectUnknownFields (value : Value) (base : String) (allowed : List String) :
    Compiles Unit :=
  match value with
  | .obj fields =>
    match (fields.map Prod.fst).find? fun key => !allowed.contains key with
    | some unknown => .error (.InvalidValue base s!"unknown field {debugText unknown}")
    | none => .ok ()
  | _ => .ok ()

/-- `u32::try_from` of a positive version. -/
def asVersion (version : Int) (location : String) : Compiles UInt32 :=
  if version < 2 ^ 32 then .ok (UInt32.ofNat version.toNat)
  else .error (.InvalidValue location "does not fit a 32-bit version")

/-- The text of a field, which may not be empty. -/
def nonEmptyStr (parent : Value) (base key : String) : Compiles String := do
  let text ← typed asStr parent base key
  nonEmpty text (path base key)
  return text

/-- A positive number. -/
def positiveI64 (parent : Value) (base key : String) : Compiles Int := do
  let number ← typed asI64 parent base key
  positive number (path base key)
  return number

/-- A list of texts that is a set. -/
def stringSet (parent : Value) (base key kind : String) : Compiles (List String) := do
  let values ← stringList parent base key
  uniqueList values kind
  return values

/-- Declarations compiled in order; each may refuse what was seen before it. -/
def declarations {α : Type} (one : Nat → List String → Value → Compiles (α × List String)) :
    Nat → List String → List Value → Compiles (List α)
  | _, _, [] => .ok []
  | index, seen, entry :: entries => do
    let (a, seen) ← one index seen entry
    let rest ← declarations one (index + 1) seen entries
    return a :: rest

end Reader

/-! ## Components -/

namespace Compile

open Reader

def controlPlaneActions : List String := ["shell.execute", "process.spawn"]

def controlPlaneGuarantee : String := "isolation.control-plane"

def actions : List String := [
  "filesystem.read", "filesystem.write", "filesystem.delete", "shell.execute", "process.spawn",
  "artifact.read", "artifact.seal", "secret.read", "secret.use"]

def hardDeniedAction : String := "secret.read"

def routePreferenceKeys : List String := ["contextCapacity"]

def routeTieBreakKeys : List String := ["backendId", "agentId"]

def maxGuidanceChars : Nat := 8192

def agentFields : List String := [
  "name", "version", "enabled", "current", "accepts", "competencies", "routePolicy",
  "executionFeatures", "minContextTokens", "sandboxProfile", "sandboxRequirements", "actions",
  "soul", "behavior"]

/-- A declared action of an agent. -/
def checkAction (base name action : String) : Compiles Unit := do
  refuseIf (action ∉ actions) (.InvalidValue (path base "actions")
    s!"{debugText action} is not a canonical Pantheon action")
  refuseIf (action = hardDeniedAction) (.HardPolicyViolation
    s!"agent {debugText name} declares {hardDeniedAction}, which v1 built-in hard policy denies to Agent principals non-approvably")

def guidance (entry : Value) (base key : String) : Compiles String := do
  let text ← nonEmptyStr entry base key
  refuseIf (text.length > maxGuidanceChars)
    (.InvalidValue (path base key) s!"must be at most {maxGuidanceChars} characters")
  return text

def agent (index : Nat) (seen : List String) (entry : Value) : Compiles (Agent × List String) := do
  let base := s!"agents[{index}]"
  rejectUnknownFields entry base agentFields
  let name ← nonEmptyStr entry base "name"
  let version ← positiveI64 entry base "version"
  let seen ← unique seen "Agent version" s!"{name}@{version}"
  let minContextTokens ← positiveI64 entry base "minContextTokens"
  let actions ← stringSet entry base "actions" "agent action"
  actions.forM (checkAction base name)
  let accepts ← stringList entry base "accepts"
  nonEmptyList accepts (path base "accepts")
  uniqueList accepts "accepts entry"
  let competencies ← stringList entry base "competencies"
  nonEmptyList competencies (path base "competencies")
  uniqueList competencies "competency"
  let soul ← guidance entry base "soul"
  let behavior ← guidance entry base "behavior"
  let version ← asVersion version (path base "version")
  let enabled ← optional asBool entry base "enabled" true
  let current ← optional asBool entry base "current" true
  let routePolicy ← typed asStr entry base "routePolicy"
  let executionFeatures ← stringSet entry base "executionFeatures" "execution feature"
  let sandboxProfile ← typed asStr entry base "sandboxProfile"
  let sandboxRequirements ← stringSet entry base "sandboxRequirements" "sandbox requirement"
  return ({ name, version, enabled, current, accepts, competencies, routePolicy,
            executionFeatures, minContextTokens, sandboxProfile, sandboxRequirements, actions,
            soul, behavior }, seen)

def agents (value : Value) : Compiles AgentComponent := do
  let entries ← asArray value "agents"
  return ⟨← declarations agent 0 [] entries⟩

def checkPreference (base key : String) : Compiles Unit :=
  refuseIf (key ∉ routePreferenceKeys)
    (.InvalidValue (path base "ordering") s!"unknown route preference key {debugText key}")

def routePolicy (index : Nat) (seen : List String) (entry : Value) :
    Compiles (RoutePolicy × List String) := do
  let base := s!"routing.policies[{index}]"
  let name ← nonEmptyStr entry base "name"
  let seen ← unique seen "route policy" name
  let priority ← optional asI64 entry base "priority" 0
  let ordering ← stringList entry base "ordering"
  ordering.forM (checkPreference base)
  let tieBreak ← nonEmptyStr entry base "tieBreak"
  refuseIf (tieBreak ∉ routeTieBreakKeys)
    (.InvalidValue (path base "tieBreak") s!"unknown route tie-break key {debugText tieBreak}")
  let requiresKeyedLaunch ← optional asBool entry base "requiresKeyedLaunch" true
  return ({ name, priority, ordering, tieBreak, requiresKeyedLaunch }, seen)

def agentReference (key : String) (index : Nat) (seen : List String) (entry : Value) :
    Compiles (LogicalAgentVersion × List String) := do
  let base := s!"routing.{key}[{index}]"
  let name ← nonEmptyStr entry base "name"
  let version ← positiveI64 entry base "version"
  let version ← asVersion version (path base "version")
  let seen ← unique seen "agent reference" s!"{name}@{version}"
  return (⟨name, version⟩, seen)

def agentReferences (value : Value) (key : String) : Compiles (List LogicalAgentVersion) := do
  match value.get key with
  | none => return []
  | some raw =>
    let entries ← asArray raw (path "routing" key)
    declarations (agentReference key) 0 [] entries

def routing (value : Value) : Compiles RoutingComponent := do
  let entries ← typed asArray value "routing" "policies"
  let policies ← declarations routePolicy 0 [] entries
  let agentPins ← agentReferences value "agentPins"
  let agentExclusions ← agentReferences value "agentExclusions"
  return { policies, agentPins, agentExclusions }

def isolationClass (text location : String) : Compiles IsolationClass :=
  match text with
  | "TRUSTED_HOST" => .ok .TrustedHost
  | "CONTAINER" => .ok .Container
  | other => .error (.InvalidValue location s!"unknown isolation class {debugText other}")

def networkMode (text location : String) : Compiles NetworkMode :=
  match text with
  | "NONE" => .ok .None
  | "BROKERED" => .ok .Brokered
  | other => .error (.InvalidValue location s!"unknown network mode {debugText other}")

def sandboxProfile (index : Nat) (seen : List String) (entry : Value) :
    Compiles (SandboxProfile × List String) := do
  let base := s!"execution.profiles[{index}]"
  let name ← nonEmptyStr entry base "name"
  let seen ← unique seen "sandbox profile" name
  let isolationClass ←
    isolationClass (← typed asStr entry base "isolationClass") (path base "isolationClass")
  let networkMode ← networkMode (← typed asStr entry base "networkMode") (path base "networkMode")
  let environmentIdentity ← nonEmptyStr entry base "environmentIdentity"
  let guarantees ← stringSet entry base "guarantees" "sandbox guarantee"
  return ({ name, isolationClass, guarantees, networkMode, environmentIdentity }, seen)

def backend (index : Nat) (seen : List String) (entry : Value) :
    Compiles (BackendRegistration × List String) := do
  let base := s!"execution.backends[{index}]"
  let backendId ← nonEmptyStr entry base "backendId"
  let seen ← unique seen "backend" backendId
  let selector ← nonEmptyStr entry base "selector"
  let enabled ← typed asBool entry base "enabled"
  return ({ backendId, enabled, selector }, seen)

def execution (value : Value) : Compiles ExecutionComponent := do
  let profileEntries ← typed asArray value "execution" "profiles"
  let profiles ← declarations sandboxProfile 0 [] profileEntries
  let backendEntries ← typed asArray value "execution" "backends"
  let backends ← declarations backend 0 [] backendEntries
  return { profiles, backends }

def evaluatorKind (text location : String) : Compiles EvaluatorKind :=
  match text with
  | "check" => .ok .Check
  | "schema" => .ok .Schema
  | other => .error (.InvalidValue location s!"unknown evaluator kind {debugText other}")

def evaluatorVersion (index : Nat) (seen : List String) (entry : Value) :
    Compiles (EvaluatorVersion × List String) := do
  let base := s!"evaluators.versions[{index}]"
  let id ← nonEmptyStr entry base "id"
  let seen ← unique seen "evaluator version" id
  let kind ← evaluatorKind (← typed asStr entry base "kind") (path base "kind")
  let argv ← stringList entry base "argv"
  refuseIf (argv = []) (.InvalidValue (path base "argv")
    "must name an executable; an evaluator is an argv vector, never a shell string")
  let timeoutMs ← positiveI64 entry base "timeoutMs"
  let resultProtocol ← nonEmptyStr entry base "resultProtocol"
  let sandboxProfile ← typed asStr entry base "sandboxProfile"
  return ({ id, kind, argv, timeoutMs, sandboxProfile, resultProtocol }, seen)

def evaluatorRef (index : Nat) (seen : List String) (entry : Value) :
    Compiles (EvaluatorRef × List String) := do
  let base := s!"evaluators.refs[{index}]"
  let reference ← nonEmptyStr entry base "ref"
  let seen ← unique seen "evaluator ref" reference
  let currentVersion ← typed asStr entry base "currentVersion"
  return ({ reference, currentVersion }, seen)

def evaluators (value : Value) : Compiles EvaluatorComponent := do
  let versionEntries ← typed asArray value "evaluators" "versions"
  let versions ← declarations evaluatorVersion 0 [] versionEntries
  let refEntries ← typed asArray value "evaluators" "refs"
  let refs ← declarations evaluatorRef 0 [] refEntries
  return { refs, versions }

def context (value : Value) : Compiles ContextComponent := do
  let schemaVersion ← positiveI64 value "context" "schemaVersion"
  let memoryLimitTokens ← positiveI64 value "context" "memoryLimitTokens"
  let workspaceOrientationLimitTokens ←
    positiveI64 value "context" "workspaceOrientationLimitTokens"
  let safetyMarginTokens ← positiveI64 value "context" "safetyMarginTokens"
  let schemaVersion ← asVersion schemaVersion "context.schemaVersion"
  let mandatorySections ← stringList value "context" "mandatorySections"
  let preloadPriority ← stringList value "context" "preloadPriority"
  let optionalDropOrder ← stringList value "context" "optionalDropOrder"
  return { schemaVersion, mandatorySections, preloadPriority, memoryLimitTokens,
           workspaceOrientationLimitTokens, safetyMarginTokens, optionalDropOrder }

def ruleEffect (text location : String) : Compiles RuleEffect :=
  match text with
  | "permit" => .ok .Permit
  | "forbid" => .ok .Forbid
  | other => .error (.InvalidValue location s!"unknown effect {debugText other}")

/-- Rules have no identity, so nothing is seen. -/
def authorizationRule (index : Nat) (seen : List String) (entry : Value) :
    Compiles (AuthorizationRule × List String) := do
  let base := s!"authorization.rules[{index}]"
  let action ← typed asStr entry base "action"
  refuseIf (action ∉ actions)
    (.InvalidValue (path base "action") s!"{debugText action} is not a canonical Pantheon action")
  let effect ← ruleEffect (← typed asStr entry base "effect") (path base "effect")
  refuseIf (action = hardDeniedAction ∧ effect = .Permit) (.HardPolicyViolation
    s!"an authorization rule permits {hardDeniedAction}, which v1 built-in hard policy denies non-approvably")
  return ({ action, effect }, seen)

def authorization (value : Value) : Compiles AuthorizationComponent := do
  let schemaVersion ← positiveI64 value "authorization" "schemaVersion"
  let entries ← typed asArray value "authorization" "rules"
  let rules ← declarations authorizationRule 0 [] entries
  let schemaVersion ← asVersion schemaVersion "authorization.schemaVersion"
  return { schemaVersion, rules }

/-! ## Rules between components -/

/-- The rules for one agent's profile: it asserts what the agent requires, and isolates the
    control plane from an agent that may run commands. -/
def agentProfile (a : Agent) (profile : SandboxProfile) : Compiles Unit := do
  a.sandboxRequirements.forM fun required =>
    refuseIf (required ∉ profile.guarantees) (.IncompatibleCombination
      s!"agent {debugText a.name} requires sandbox guarantee {debugText required}, which profile {debugText profile.name} does not assert")
  match a.actions.find? controlPlaneActions.contains with
  | none => return ()
  | some action =>
    refuseIf (profile.isolationClass.canIsolateControlPlane = false) (.IncompatibleCombination
      s!"agent {debugText a.name} may run {action} but profile {debugText profile.name} is {profile.isolationClass.asStr}, which cannot isolate the control plane")
    refuseIf (controlPlaneGuarantee ∉ profile.guarantees) (.IncompatibleCombination
      s!"agent {debugText a.name} may run {action} but profile {debugText profile.name} does not assert {controlPlaneGuarantee}")

/-- The rules for one agent, after the agents already declared and the names that already
    have a current version. -/
def agentRules (c : CompiledConfiguration)
    (declared : List LogicalAgentVersion × List String) (a : Agent) :
    Compiles (List LogicalAgentVersion × List String) := do
  refuseIf (a.identity ∈ declared.1)
    (.DuplicateIdentity "Agent version" s!"{a.name}@{a.version}")
  refuseIf (a.current = true ∧ a.name ∈ declared.2) (.IncompatibleCombination
    s!"Logical Agent {debugText a.name} declares more than one current version")
  refuseIf (a.routePolicy ∉ c.routing.policies.map RoutePolicy.name)
    (.UnknownReference s!"agent {debugText a.name}" "route policy" a.routePolicy)
  match c.execution.profiles.find? fun profile => profile.name == a.sandboxProfile with
  | none =>
    .error (.UnknownReference s!"agent {debugText a.name}" "sandbox profile" a.sandboxProfile)
  | some profile =>
    agentProfile a profile
    return (declared.1 ++ [a.identity],
      if a.current then declared.2 ++ [a.name] else declared.2)

def validateAgentReferences (declared references : List LogicalAgentVersion) (kind : String) :
    Compiles Unit :=
  references.forM fun r => refuseIf (r ∉ declared)
    (.UnknownReference s!"routing Agent {kind}" "Agent version" s!"{r.name}@{r.version}")

def crossReferences (c : CompiledConfiguration) : Compiles Unit := do
  let declared ← c.agents.agents.foldlM (agentRules c) ([], [])
  validateAgentReferences declared.1 c.routing.agentPins "pin"
  validateAgentReferences declared.1 c.routing.agentExclusions "exclusion"
  c.routing.agentPins.forM fun pin =>
    refuseIf (pin ∈ c.routing.agentExclusions) (.IncompatibleCombination
      s!"Agent {debugText pin.name}@{pin.version} is both pinned and excluded")
  c.evaluators.versions.forM fun version =>
    refuseIf (version.sandboxProfile ∉ c.execution.profiles.map SandboxProfile.name)
      (.UnknownReference s!"evaluator version {debugText version.id}" "sandbox profile"
        version.sandboxProfile)
  c.evaluators.refs.forM fun reference =>
    refuseIf (reference.currentVersion ∉ c.evaluators.versions.map EvaluatorVersion.id)
      (.UnknownReference s!"evaluator ref {debugText reference.reference}" "evaluator version"
        reference.currentVersion)
  c.context.optionalDropOrder.forM fun dropped =>
    refuseIf (dropped ∈ c.context.mandatorySections) (.IncompatibleCombination
      s!"context section {debugText dropped} is mandatory and cannot appear in the optional drop order")
  c.context.preloadPriority.forM fun preloaded =>
    refuseIf (preloaded ∉ c.context.mandatorySections ∧ preloaded ∉ c.context.optionalDropOrder)
      (.UnknownReference "context preload priority" "context section" preloaded)

end Compile

/-- `compile`. -/
def compile (source : String) : Compiles CompiledConfiguration := do
  let root ← (parse source).mapError .Malformed
  let agents ← Compile.agents (← Reader.field root "" "agents")
  let routing ← Compile.routing (← Reader.field root "" "routing")
  let execution ← Compile.execution (← Reader.field root "" "execution")
  let evaluators ← Compile.evaluators (← Reader.field root "" "evaluators")
  let context ← Compile.context (← Reader.field root "" "context")
  let authorization ← Compile.authorization (← Reader.field root "" "authorization")
  let compiled : CompiledConfiguration :=
    { agents, routing, execution, evaluators, context, authorization }
  Compile.crossReferences compiled
  return compiled

end Pantheon
