/-
  Agent resolution and the pre-Run execution fabric (`pantheon-core/src/execution.rs`).
  A Task is matched with the agents of one configuration revision, each eligible agent gets a
  request, and a backend's offer for a request becomes a candidate when every known fact
  agrees. Everything here is pure; the answer is recomputed on every attempt to route.
  `resolveAgents_ok`, `buildExecutionRequest_ok`, `validateExecutionCandidate_ok` and
  `selectExecutionCandidate_mem` say where each part of a routing decision comes from.
-/
import Mathlib.Data.List.Destutter
import Pantheon.Base.Comparison
import Pantheon.Config.Model
import Pantheon.Planning.Spec

namespace Pantheon

open Value

/-! ## Requests, descriptors and offers -/

/-- The configuration a routing decision is made under. -/
structure ConfigurationBinding (D : Type) where
  activationSequence : Int
  contentDigest : D
  componentDigests : ComponentDigests D
  deriving Repr, DecidableEq

inductive LaunchSafety where
  | KeyedRequired
  | ObservationalAllowed
  deriving Repr, DecidableEq

def LaunchSafety.asStr : LaunchSafety → String
  | .KeyedRequired => "KEYED_REQUIRED"
  | .ObservationalAllowed => "OBSERVATIONAL_ALLOWED"

inductive LaunchSemantics where
  | KeyedIdempotent
  | Observational
  deriving Repr, DecidableEq

def LaunchSemantics.asStr : LaunchSemantics → String
  | .KeyedIdempotent => "KEYED_IDEMPOTENT"
  | .Observational => "OBSERVATIONAL"

/-- Safety evidence supplied beside a backend, never by it. -/
structure ControllerSafetyFacts where
  isolationGuarantees : List String
  observationalLaunchSafe : Bool
  deriving Repr, DecidableEq

structure ResourceQuantity where
  name : String
  quantity : Int
  deriving Repr, DecidableEq

/-- The derived order of quantities. -/
def ResourceQuantity.Le (a b : ResourceQuantity) : Prop :=
  a.name < b.name ∨ a.name = b.name ∧ a.quantity ≤ b.quantity

instance : DecidableRel ResourceQuantity.Le := fun a b =>
  inferInstanceAs (Decidable (a.name < b.name ∨ a.name = b.name ∧ a.quantity ≤ b.quantity))

structure BackendDescriptor where
  backendId : String
  revision : Nat
  availableForOffers : Bool
  placement : List String
  supportedExecutionFeatures : List String
  contextCapacityTokens : Int
  isolationFacts : List String
  resources : List ResourceQuantity
  launchSemantics : LaunchSemantics
  deriving Repr, DecidableEq

structure ExecutionRequest (D : Type) where
  taskId : String
  taskSpecDigest : D
  taskType : String
  taskCompetencies : List String
  agent : LogicalAgentVersion
  requiredExecutionFeatures : List String
  minContextTokens : Int
  placementConstraints : List String
  isolationRequirements : List String
  resourceRequirements : List ResourceQuantity
  requiredActions : List String
  configuration : ConfigurationBinding D
  routePolicyDigest : D
  executionProfileDigest : D
  sandboxProfileDigest : D
  launchSafety : LaunchSafety
  deriving Repr, DecidableEq

structure ExecutionOffer (D : Type) where
  requestDigest : D
  backendId : String
  descriptorRevision : Nat
  descriptorDigest : D
  supportedExecutionFeatures : List String
  contextCapacityTokens : Int
  placement : List String
  isolationFacts : List String
  resources : List ResourceQuantity
  launchSemantics : LaunchSemantics
  offerReference : String
  deriving Repr, DecidableEq

/-- A list sorted and without repetitions. -/
def sortedSet (values : List String) : List String :=
  (values.insertionSort (· ≤ ·)).destutter (· ≠ ·)

/-- `strings` of the execution fabric: a set in canonical form. -/
def factStrings (values : List String) : Value := strings (sortedSet values)

def resourceValues (values : List ResourceQuantity) : Value :=
  .arr ((values.insertionSort ResourceQuantity.Le).map fun r =>
    object [("name", .str r.name), ("quantity", .integer r.quantity)])

section Digests

variable {D : Type} [DigestScheme D]

def ConfigurationBinding.toValue (b : ConfigurationBinding D) : Value :=
  object [
    ("activationSequence", .integer b.activationSequence),
    ("contentDigest", .str (toDisplay b.contentDigest)),
    ("componentDigests", b.componentDigests.toValue)]

def BackendDescriptor.toValue (b : BackendDescriptor) : Value :=
  object [
    ("backendId", .str b.backendId),
    ("revision", .str (toString b.revision)),
    ("availableForOffers", .bool b.availableForOffers),
    ("placement", factStrings b.placement),
    ("supportedExecutionFeatures", factStrings b.supportedExecutionFeatures),
    ("contextCapacityTokens", .integer b.contextCapacityTokens),
    ("isolationFacts", factStrings b.isolationFacts),
    ("resources", resourceValues b.resources),
    ("launchSemantics", .str b.launchSemantics.asStr)]

def BackendDescriptor.digest (b : BackendDescriptor) : D := b.toValue.digest

def ExecutionRequest.toValue (r : ExecutionRequest D) : Value :=
  object [
    ("taskId", .str r.taskId),
    ("taskSpecDigest", .str (toDisplay r.taskSpecDigest)),
    ("taskType", .str r.taskType),
    ("taskCompetencies", factStrings r.taskCompetencies),
    ("agent", r.agent.toValue),
    ("requiredExecutionFeatures", factStrings r.requiredExecutionFeatures),
    ("minContextTokens", .integer r.minContextTokens),
    ("placementConstraints", factStrings r.placementConstraints),
    ("isolationRequirements", factStrings r.isolationRequirements),
    ("resourceRequirements", resourceValues r.resourceRequirements),
    ("requiredActions", factStrings r.requiredActions),
    ("configuration", r.configuration.toValue),
    ("routePolicyDigest", .str (toDisplay r.routePolicyDigest)),
    ("executionProfileDigest", .str (toDisplay r.executionProfileDigest)),
    ("sandboxProfileDigest", .str (toDisplay r.sandboxProfileDigest)),
    ("launchSafety", .str r.launchSafety.asStr)]

def ExecutionRequest.digest (r : ExecutionRequest D) : D := r.toValue.digest

def ExecutionOffer.toValue (o : ExecutionOffer D) : Value :=
  object [
    ("requestDigest", .str (toDisplay o.requestDigest)),
    ("backendId", .str o.backendId),
    ("descriptorRevision", .str (toString o.descriptorRevision)),
    ("descriptorDigest", .str (toDisplay o.descriptorDigest)),
    ("supportedExecutionFeatures", factStrings o.supportedExecutionFeatures),
    ("contextCapacityTokens", .integer o.contextCapacityTokens),
    ("placement", factStrings o.placement),
    ("isolationFacts", factStrings o.isolationFacts),
    ("resources", resourceValues o.resources),
    ("launchSemantics", .str o.launchSemantics.asStr),
    ("offerReference", .str o.offerReference)]

def ExecutionOffer.digest (o : ExecutionOffer D) : D := o.toValue.digest

end Digests

/-! ## Agent resolution -/

structure ResolvedAgent where
  identity : LogicalAgentVersion
  agent : Agent
  routePolicy : RoutePolicy
  sandboxProfile : SandboxProfile
  deriving Repr, DecidableEq

inductive AgentRejectionReason where
  | Disabled
  | NotCurrent
  | UnsupportedTaskType (taskType : String)
  | MissingCompetencies (missing : List String)
  | PinnedOut
  | Excluded
  | PolicyIncompatible (detail : String)
  | ConfigurationIncompatible (detail : String)
  deriving Repr, DecidableEq

structure AgentRejection where
  agent : LogicalAgentVersion
  reason : AgentRejectionReason
  deriving Repr, DecidableEq

structure AgentResolution where
  eligible : List ResolvedAgent
  rejected : List AgentRejection
  deriving Repr, DecidableEq

inductive AgentResolutionError (D : Type) where
  | ConfigurationMismatch (expected actual : D)
  | NoEligibleAgent (taskType : String) (causes : List AgentRejection)
  deriving Repr, DecidableEq

/-- `sorted_difference`. -/
def sortedDifference (required available : List String) : List String :=
  sortedSet (required.filter fun value => !available.contains value)

variable {D : Type}

/-- The first of some actions that a rule forbids. -/
def forbidden (c : CompiledConfiguration) (actions : List String) : Option String :=
  actions.find? fun action =>
    c.authorization.rules.any fun rule => rule.action == action && rule.effect == .Forbid

/-- `policy_incompatibility`. -/
def policyIncompatibility (task : TaskSpec D) (a : Agent) (c : CompiledConfiguration) :
    Option String :=
  match forbidden c a.actions with
  | some action => some s!"current policy forbids Agent action {debugText action}"
  | none =>
    (forbidden c task.scope.permittedEffects).map fun effect =>
      s!"current policy forbids Task effect {debugText effect}"

def checkPolicy (task : TaskSpec D) (a : Agent) (c : CompiledConfiguration) :
    Except AgentRejectionReason Unit :=
  match policyIncompatibility task a c with
  | some detail => .error (.PolicyIncompatible detail)
  | none => .ok ()

/-- One agent: eligible, or the first reason why not. -/
def resolveAgent (task : TaskSpec D) (c : CompiledConfiguration) (binding : ConfigurationBinding D)
    (a : Agent) : Except AgentRejectionReason ResolvedAgent := do
  refuseIf (a.enabled = false) .Disabled
  refuseIf (a.current = false) .NotCurrent
  refuseIf (task.taskType ∉ a.accepts) (.UnsupportedTaskType task.taskType)
  let missing := sortedDifference task.competencies a.competencies
  refuseIf (missing ≠ []) (.MissingCompetencies missing)
  refuseIf (c.routing.agentPins ≠ [] ∧ a.identity ∉ c.routing.agentPins) .PinnedOut
  refuseIf (a.identity ∈ c.routing.agentExclusions) .Excluded
  checkPolicy task a c
  refuseIf (task.acceptance.configurationActivationSequence > binding.activationSequence)
    (.ConfigurationIncompatible "Task provenance names a future configuration activation")
  match c.routing.policies.find? fun policy => policy.name == a.routePolicy with
  | none => .error (.ConfigurationIncompatible s!"unknown route policy {debugText a.routePolicy}")
  | some routePolicy =>
    match c.execution.profiles.find? fun profile => profile.name == a.sandboxProfile with
    | none =>
      .error (.ConfigurationIncompatible s!"unknown sandbox profile {debugText a.sandboxProfile}")
    | some profile =>
      refuseIf (a.sandboxRequirements.any fun r => !profile.guarantees.contains r)
        (.ConfigurationIncompatible
          s!"sandbox profile {debugText profile.name} does not satisfy the Agent requirements")
      return ⟨a.identity, a, routePolicy, profile⟩

/-- The compiled configuration is the one the binding names. -/
def ConfigurationBinding.Names [DigestScheme D] (b : ConfigurationBinding D)
    (c : CompiledConfiguration) : Prop :=
  c.revisionDigest = b.contentDigest ∧ c.componentDigests = b.componentDigests

instance [DecidableEq D] [DigestScheme D] (b : ConfigurationBinding D)
    (c : CompiledConfiguration) : Decidable (b.Names c) :=
  inferInstanceAs (Decidable (_ ∧ _))

/-- `resolve_agents`. -/
def resolveAgents [DecidableEq D] [DigestScheme D] (task : TaskSpec D) (c : CompiledConfiguration)
    (binding : ConfigurationBinding D) : Except (AgentResolutionError D) AgentResolution := do
  refuseIf (¬binding.Names c) (.ConfigurationMismatch binding.contentDigest c.revisionDigest)
  let agents := c.agents.agents.insertionSort fun a b => a.identity.Le b.identity
  let eligible := agents.filterMap fun a => (resolveAgent task c binding a).toOption
  let rejected := agents.filterMap fun a =>
    match resolveAgent task c binding a with
    | .ok _ => none
    | .error reason => some ⟨a.identity, reason⟩
  refuseIf (eligible = []) (.NoEligibleAgent task.taskType rejected)
  return ⟨eligible, rejected⟩

inductive RequestBuildError where
  | ConfigurationMismatch
  deriving Repr, DecidableEq

/-- `build_execution_request`. -/
def buildExecutionRequest [DecidableEq D] [DigestScheme D] (taskId : String) (task : TaskSpec D)
    (resolved : ResolvedAgent) (c : CompiledConfiguration) (binding : ConfigurationBinding D) :
    Except RequestBuildError (ExecutionRequest D) := do
  refuseIf (¬binding.Names c) .ConfigurationMismatch
  return {
    taskId
    taskSpecDigest := task.digest
    taskType := task.taskType
    taskCompetencies := task.competencies.insertionSort (· ≤ ·)
    agent := resolved.identity
    requiredExecutionFeatures := resolved.agent.executionFeatures.insertionSort (· ≤ ·)
    minContextTokens := resolved.agent.minContextTokens
    placementConstraints := []
    isolationRequirements := resolved.agent.sandboxRequirements.insertionSort (· ≤ ·)
    resourceRequirements := []
    requiredActions := resolved.agent.actions.insertionSort (· ≤ ·)
    configuration := binding
    routePolicyDigest := resolved.routePolicy.digest
    executionProfileDigest := binding.componentDigests.executionProfile
    sandboxProfileDigest := resolved.sandboxProfile.digest
    launchSafety :=
      if resolved.routePolicy.requiresKeyedLaunch then .KeyedRequired else .ObservationalAllowed }

/-! ## Candidates -/

inductive CandidateRejection where
  | BackendDisabled
  | BackendUnavailable
  | BackendMismatch
  | DescriptorRevisionMismatch
  | OfferRequestMismatch
  | MissingExecutionFeatures (missing : List String)
  | ContextCapacityTooSmall (required offered : Int)
  | PlacementIncompatible (missing : List String)
  | IsolationNotProven (missing : List String)
  | ResourceIncompatible (name : String) (required offered : Int)
  | LaunchSemanticsMismatch
  | UnsafeLaunchSemantics
  | RoutePolicyMismatch
  deriving Repr, DecidableEq

structure ExecutionCandidate (D : Type) where
  agent : LogicalAgentVersion
  requestDigest : D
  offer : ExecutionOffer D
  routePolicy : RoutePolicy
  executionProfileDigest : D
  deriving Repr, DecidableEq

def ExecutionCandidate.digest [DigestScheme D] (c : ExecutionCandidate D) : D :=
  (object [
    ("agent", c.agent.toValue),
    ("requestDigest", .str (toDisplay c.requestDigest)),
    ("offerDigest", .str (toDisplay (c.offer.digest : D))),
    ("routePolicyDigest", .str (toDisplay (c.routePolicy.digest : D))),
    ("executionProfileDigest", .str (toDisplay c.executionProfileDigest))]).digest

/-- A required quantity against the quantities of one side. -/
def checkQuantity (resources : List ResourceQuantity) (required : ResourceQuantity) :
    Except CandidateRejection Unit :=
  match resources.find? fun r => r.name == required.name with
  | none => .error (.ResourceIncompatible required.name required.quantity 0)
  | some r =>
    refuseIf (r.quantity < required.quantity)
      (.ResourceIncompatible required.name required.quantity r.quantity)

/-- The facts a descriptor and an offer must both report. -/
def checkFacts (request : ExecutionRequest D) (descriptor : BackendDescriptor)
    (offer : ExecutionOffer D) : Except CandidateRejection Unit := do
  let missing := sortedDifference request.requiredExecutionFeatures
    descriptor.supportedExecutionFeatures
  refuseIf (missing ≠ []) (.MissingExecutionFeatures missing)
  let missing := sortedDifference request.requiredExecutionFeatures
    offer.supportedExecutionFeatures
  refuseIf (missing ≠ []) (.MissingExecutionFeatures missing)
  refuseIf (descriptor.contextCapacityTokens < request.minContextTokens)
    (.ContextCapacityTooSmall request.minContextTokens descriptor.contextCapacityTokens)
  refuseIf (offer.contextCapacityTokens < request.minContextTokens)
    (.ContextCapacityTooSmall request.minContextTokens offer.contextCapacityTokens)
  let missing := sortedDifference request.placementConstraints descriptor.placement
  refuseIf (missing ≠ []) (.PlacementIncompatible missing)
  let missing := sortedDifference request.placementConstraints offer.placement
  refuseIf (missing ≠ []) (.PlacementIncompatible missing)

/-- The facts isolation and launch safety rest on. -/
def checkSafety (request : ExecutionRequest D) (descriptor : BackendDescriptor)
    (offer : ExecutionOffer D) (safety : ControllerSafetyFacts) :
    Except CandidateRejection Unit := do
  let missing := request.isolationRequirements.filter fun r =>
    !safety.isolationGuarantees.contains r || !descriptor.isolationFacts.contains r ||
      !offer.isolationFacts.contains r
  refuseIf (missing ≠ []) (.IsolationNotProven missing)
  refuseIf (descriptor.launchSemantics ≠ offer.launchSemantics) .LaunchSemanticsMismatch
  refuseIf (request.launchSafety = .KeyedRequired ∧ offer.launchSemantics ≠ .KeyedIdempotent)
    .UnsafeLaunchSemantics
  refuseIf (request.launchSafety = .ObservationalAllowed ∧
    offer.launchSemantics = .Observational ∧ safety.observationalLaunchSafe = false)
    .UnsafeLaunchSemantics

/-- `validate_execution_candidate`. -/
def validateExecutionCandidate [DecidableEq D] [DigestScheme D] (request : ExecutionRequest D)
    (resolved : ResolvedAgent) (descriptor : BackendDescriptor) (offer : ExecutionOffer D)
    (backendEnabled : Bool) (safety : ControllerSafetyFacts) :
    Except CandidateRejection (ExecutionCandidate D) := do
  refuseIf (backendEnabled = false) .BackendDisabled
  refuseIf (descriptor.availableForOffers = false) .BackendUnavailable
  refuseIf (descriptor.backendId ≠ offer.backendId) .BackendMismatch
  refuseIf (descriptor.revision ≠ offer.descriptorRevision) .DescriptorRevisionMismatch
  refuseIf (descriptor.digest ≠ offer.descriptorDigest) .DescriptorRevisionMismatch
  refuseIf (request.digest ≠ offer.requestDigest) .OfferRequestMismatch
  refuseIf (resolved.identity ≠ request.agent ∨
    resolved.routePolicy.digest ≠ request.routePolicyDigest) .RoutePolicyMismatch
  checkFacts request descriptor offer
  checkSafety request descriptor offer safety
  request.resourceRequirements.forM fun required => do
    checkQuantity descriptor.resources required
    checkQuantity offer.resources required
  return ⟨resolved.identity, request.digest, offer, resolved.routePolicy,
    request.executionProfileDigest⟩

/-- The first preference key that tells two candidates apart. -/
def comparePreferences (ordering : List String) (left right : ExecutionCandidate D) : Ordering :=
  ordering.foldr (fun key rest =>
    (match key with
      | "contextCapacity" =>
        compare right.offer.contextCapacityTokens left.offer.contextCapacityTokens
      | _ => .eq).then rest) .eq

def compareAgents (left right : LogicalAgentVersion) : Ordering :=
  (compare left.name right.name).then (compare left.version right.version)

/-- `compare_candidates`. The preferences and the tie-break are the left candidate's. -/
def compareCandidates [DigestScheme D] (left right : ExecutionCandidate D) : Ordering :=
  let tieBreak :=
    match left.routePolicy.tieBreak with
    | "backendId" => compare left.offer.backendId right.offer.backendId
    | "agentId" => compareAgents left.agent right.agent
    | _ => .eq
  (compare right.routePolicy.priority left.routePolicy.priority).then <|
    (compare left.routePolicy.name right.routePolicy.name).then <|
    (comparePreferences left.routePolicy.ordering left right).then <|
    tieBreak.then <|
    (compareAgents left.agent right.agent).then <|
    (compare left.offer.backendId right.offer.backendId).then <|
    (compare left.offer.descriptorRevision right.offer.descriptorRevision).then <|
    compare (DigestScheme.asBytes (left.offer.digest : D))
      (DigestScheme.asBytes (right.offer.digest : D))

inductive SelectionError where
  | NoCandidates
  deriving Repr, DecidableEq

/-- `select_execution_candidate`: the first of the least candidates. -/
def selectExecutionCandidate [DigestScheme D] :
    List (ExecutionCandidate D) → Except SelectionError (ExecutionCandidate D)
  | [] => .error .NoCandidates
  | first :: others => .ok (others.foldl
      (fun least other => if compareCandidates least other = .gt then other else least) first)

/-- A routing decision with its provenance. -/
structure RoutingResult (D : Type) where
  taskId : String
  taskRevision : Int
  taskSpecDigest : D
  configuration : ConfigurationBinding D
  request : ExecutionRequest D
  candidate : ExecutionCandidate D
  deriving Repr, DecidableEq

/-! ## Where a routing decision comes from -/

section Provenance

variable [DecidableEq D] [DigestScheme D]

omit [DecidableEq D] [DigestScheme D] in
theorem resolveAgent_ok {task : TaskSpec D} {c : CompiledConfiguration}
    {binding : ConfigurationBinding D} {a : Agent} {r : ResolvedAgent}
    (h : resolveAgent task c binding a = .ok r) :
    r.agent = a ∧ r.identity = a.identity ∧ r.routePolicy ∈ c.routing.policies ∧
      r.sandboxProfile ∈ c.execution.profiles := by
  obtain ⟨_, -, h⟩ := bind_ok h
  obtain ⟨_, -, h⟩ := bind_ok h
  obtain ⟨_, -, h⟩ := bind_ok h
  obtain ⟨_, -, h⟩ := bind_ok h
  obtain ⟨_, -, h⟩ := bind_ok h
  obtain ⟨_, -, h⟩ := bind_ok h
  obtain ⟨_, -, h⟩ := bind_ok h
  obtain ⟨_, -, h⟩ := bind_ok h
  split at h
  · cases h
  · rename_i policy hpolicy
    split at h
    · cases h
    · rename_i profile hprofile
      obtain ⟨_, -, h⟩ := bind_ok h
      obtain rfl := Except.ok.inj h
      exact ⟨rfl, rfl, List.mem_of_find?_eq_some hpolicy, List.mem_of_find?_eq_some hprofile⟩

/-- Every eligible agent is the resolution of one of the configuration's agents. -/
theorem eligible_resolved {task : TaskSpec D} {c : CompiledConfiguration}
    {binding : ConfigurationBinding D} {resolution : AgentResolution}
    (h : resolveAgents task c binding = .ok resolution) {r : ResolvedAgent}
    (hr : r ∈ resolution.eligible) :
    ∃ a ∈ c.agents.agents, resolveAgent task c binding a = .ok r := by
  obtain ⟨_, -, h⟩ := bind_ok h
  obtain ⟨_, -, h⟩ := bind_ok h
  obtain rfl := Except.ok.inj h
  obtain ⟨a, ha, hresolved⟩ := List.mem_filterMap.mp hr
  refine ⟨a, (List.mem_insertionSort _).mp ha, ?_⟩
  cases hone : resolveAgent task c binding a with
  | error reason =>
    rw [hone] at hresolved
    cases hresolved
  | ok r' =>
    rw [hone] at hresolved
    exact congrArg _ (Option.some.inj hresolved)

/-- Resolution is done under the configuration the binding names, and every eligible agent
    is one of its agents. -/
theorem resolveAgents_ok {task : TaskSpec D} {c : CompiledConfiguration}
    {binding : ConfigurationBinding D} {resolution : AgentResolution}
    (h : resolveAgents task c binding = .ok resolution) :
    binding.Names c ∧ ∀ r ∈ resolution.eligible, r.agent ∈ c.agents.agents ∧
      r.identity = r.agent.identity := by
  have hresolved := fun r => eligible_resolved h (r := r)
  obtain ⟨_, hnames, -⟩ := bind_ok h
  refine ⟨Decidable.not_not.mp (refuseIf_ok hnames), fun r hr => ?_⟩
  obtain ⟨a, ha, hone⟩ := hresolved r hr
  obtain ⟨rfl, hidentity, -⟩ := resolveAgent_ok hone
  exact ⟨ha, hidentity⟩

/-- Under the configuration it names, every request is built. -/
theorem buildExecutionRequest_named {c : CompiledConfiguration} {binding : ConfigurationBinding D}
    (hnames : binding.Names c) (taskId : String) (task : TaskSpec D) (resolved : ResolvedAgent) :
    ∃ request, buildExecutionRequest taskId task resolved c binding = .ok request := by
  unfold buildExecutionRequest
  rw [refuseIf, if_neg (not_not.mpr hnames)]
  exact ⟨_, rfl⟩

/-- What a request takes from the agent it is built for. -/
structure ExecutionRequest.BuiltFor (request : ExecutionRequest D) (resolved : ResolvedAgent)
    (binding : ConfigurationBinding D) : Prop where
  agent : request.agent = resolved.identity
  configuration : request.configuration = binding
  minContextTokens : request.minContextTokens = resolved.agent.minContextTokens
  resources : request.resourceRequirements = []
  isolation : ∀ required,
    required ∈ request.isolationRequirements ↔ required ∈ resolved.agent.sandboxRequirements
  executionProfileDigest :
    request.executionProfileDigest = binding.componentDigests.executionProfile
  launchSafety : request.launchSafety = .ObservationalAllowed →
    resolved.routePolicy.requiresKeyedLaunch = false

theorem buildExecutionRequest_builtFor {taskId : String} {task : TaskSpec D}
    {resolved : ResolvedAgent} {c : CompiledConfiguration} {binding : ConfigurationBinding D}
    {request : ExecutionRequest D}
    (h : buildExecutionRequest taskId task resolved c binding = .ok request) :
    request.BuiltFor resolved binding := by
  obtain ⟨_, -, h⟩ := bind_ok h
  obtain rfl := Except.ok.inj h
  refine ⟨rfl, rfl, rfl, rfl, fun required => List.mem_insertionSort _, rfl, fun hallowed => ?_⟩
  cases hkeyed : resolved.routePolicy.requiresKeyedLaunch with
  | false => rfl
  | true =>
    simp only [hkeyed] at hallowed
    cases hallowed

omit [DecidableEq D] in
theorem selectExecutionCandidate_mem {candidates : List (ExecutionCandidate D)}
    {candidate : ExecutionCandidate D}
    (h : selectExecutionCandidate candidates = .ok candidate) : candidate ∈ candidates := by
  cases candidates with
  | nil => cases h
  | cons first others => exact Except.ok.inj h ▸ Comparison.least_mem compareCandidates first others

end Provenance

end Pantheon
