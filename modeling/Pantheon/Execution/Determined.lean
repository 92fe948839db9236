/-
  Routing is determined by component digests.
  Resolution reads the compiled structures, not their canonical forms. It depends on nothing the
  forms forget: agents are taken in the order of their identities, the lists of an agent are only
  asked for membership, and policies and profiles are looked up by names that are distinct.
-/
import Pantheon.Config.Order
import Pantheon.Execution.Routing

namespace Pantheon

open Value Reorder

variable {D : Type}

/-! ## One agent -/

/-- What resolution says of one agent, without the order in which it asks. -/
structure Agent.Eligible (task : TaskSpec D) (c : CompiledConfiguration)
    (binding : ConfigurationBinding D) (a : Agent) : Prop where
  enabled : a.enabled = true
  current : a.current = true
  accepted : task.taskType ∈ a.accepts
  competent : ∀ competency ∈ task.competencies, competency ∈ a.competencies
  pinned : c.routing.agentPins = [] ∨ a.identity ∈ c.routing.agentPins
  included : a.identity ∉ c.routing.agentExclusions
  permitted : ∀ action, action ∈ a.actions ∨ action ∈ task.scope.permittedEffects →
    ∀ rule ∈ c.authorization.rules, rule.action = action → rule.effect ≠ .Forbid
  present : task.acceptance.configurationActivationSequence ≤ binding.activationSequence

theorem sortedDifference_nil {required available : List String} :
    sortedDifference required available = [] ↔ ∀ value ∈ required, value ∈ available := by
  rw [sortedDifference, sortedSet, List.destutter_eq_nil, ← List.length_eq_zero_iff,
    List.length_insertionSort, List.length_eq_zero_iff, List.filter_eq_nil_iff]
  simp

theorem forbidden_none {c : CompiledConfiguration} {actions : List String} :
    forbidden c actions = none ↔ ∀ action ∈ actions, ∀ rule ∈ c.authorization.rules,
      rule.action = action → rule.effect ≠ .Forbid := by
  simp [forbidden, List.find?_eq_none]

theorem checkPolicy_iff {task : TaskSpec D} {a : Agent} {c : CompiledConfiguration} {u : Unit} :
    checkPolicy task a c = .ok u ↔ ∀ action, action ∈ a.actions ∨
      action ∈ task.scope.permittedEffects → ∀ rule ∈ c.authorization.rules,
        rule.action = action → rule.effect ≠ .Forbid := by
  have hnone : policyIncompatibility task a c = none ↔
      forbidden c a.actions = none ∧ forbidden c task.scope.permittedEffects = none := by
    unfold policyIncompatibility
    cases forbidden c a.actions <;> simp
  have hok : checkPolicy task a c = .ok u ↔ policyIncompatibility task a c = none := by
    unfold checkPolicy
    cases policyIncompatibility task a c <;> simp
  rw [hok, hnone, forbidden_none, forbidden_none]
  simp only [or_imp, forall_and]

variable {binding : ConfigurationBinding D} {r : ResolvedAgent}

theorem resolveAgent_iff {task : TaskSpec D} {c : CompiledConfiguration} {a : Agent} :
    resolveAgent task c binding a = .ok r ↔ a.Eligible task c binding ∧
      r.identity = a.identity ∧ r.agent = a ∧
      c.routing.policies.find? (fun policy => policy.name == a.routePolicy) =
        some r.routePolicy ∧
      c.execution.profiles.find? (fun profile => profile.name == a.sandboxProfile) =
        some r.sandboxProfile ∧
      ∀ required ∈ a.sandboxRequirements, required ∈ r.sandboxProfile.guarantees := by
  simp only [resolveAgent, bind_eq_ok, refuseIf_eq_ok, exists_const, checkPolicy_iff, not_not,
    ne_eq, sortedDifference_nil, not_and_or, Bool.not_eq_false]
  constructor
  · rintro ⟨henabled, hcurrent, haccepted, hcompetent, hpinned, hincluded, hpermitted, hpresent, h⟩
    split at h
    · cases h
    · rename_i policy hpolicy
      split at h
      · cases h
      · rename_i profile hprofile
        simp only [bind_eq_ok, refuseIf_eq_ok, exists_const, pure_eq_ok] at h
        obtain ⟨hguarantees, rfl⟩ := h
        exact ⟨⟨henabled, hcurrent, haccepted, hcompetent, hpinned, hincluded, hpermitted,
          by omega⟩, rfl, rfl, hpolicy, hprofile, by simpa using hguarantees⟩
  · obtain ⟨identity, agent, policy, profile⟩ := r
    rintro ⟨h, hidentity, hagent, hpolicy, hprofile, hguarantees⟩
    obtain rfl : agent = a := hagent
    obtain rfl : identity = agent.identity := hidentity
    refine ⟨h.enabled, h.current, h.accepted, h.competent, h.pinned, h.included, h.permitted,
      by have := h.present; omega, ?_⟩
    simp only [hpolicy, hprofile, bind_eq_ok, refuseIf_eq_ok, exists_const, pure_eq_ok]
    exact ⟨by simpa using hguarantees, trivial⟩

/-- Resolved agents that routing cannot tell apart. -/
structure ResolvedAgent.Same (r s : ResolvedAgent) : Prop where
  identity : r.identity = s.identity
  agent : r.agent.Same s.agent
  routePolicy : r.routePolicy = s.routePolicy
  sandboxProfile : r.sandboxProfile.Same s.sandboxProfile

theorem Agent.Same.symm {a b : Agent} (h : a.Same b) : b.Same a :=
  Agent.toValue_eq_iff.mp (Agent.toValue_eq_iff.mpr h).symm

section Same

variable {c c' : CompiledConfiguration} {a b : Agent} {task : TaskSpec D}
  {binding : ConfigurationBinding D}

theorem Agent.Eligible.same (h : a.Eligible task c binding) (hsame : c.Reordered c')
    (hab : a.Same b) : b.Eligible task c' binding where
  enabled := hab.enabled ▸ h.enabled
  current := hab.current ▸ h.current
  accepted := hab.accepts.mem_iff.mp h.accepted
  competent := fun competency hmem => hab.competencies.mem_iff.mp (h.competent competency hmem)
  pinned := by
    rw [← hab.identity, ← hsame.agentPins.mem_iff]
    rcases h.pinned with hnil | hpin
    · exact .inl (hnil ▸ hsame.agentPins).symm.eq_nil
    · exact .inr hpin
  included := by
    rw [← hab.identity, ← hsame.agentExclusions.mem_iff]
    exact h.included
  permitted := by
    rw [← hsame.authorization]
    intro action haction
    rw [← hab.actions.mem_iff] at haction
    exact h.permitted action haction
  present := h.present

/-- Agents that are the same are resolved the same way in configurations that are the same up to
    order. -/
theorem resolveAgent_same (hpolicies : (c.routing.policies.map RoutePolicy.name).Nodup)
    (hprofiles : (c.execution.profiles.map SandboxProfile.name).Nodup) (hsame : c.Reordered c')
    (hab : a.Same b) (h : resolveAgent task c binding a = .ok r) :
    ∃ s, resolveAgent task c' binding b = .ok s ∧ r.Same s := by
  obtain ⟨heligible, hidentity, hagent, hpolicy, hprofile, hguarantees⟩ := resolveAgent_iff.mp h
  have hpolicies' := (hsame.policies.map RoutePolicy.name).nodup_iff.mp hpolicies
  have hprofiles' : (c'.execution.profiles.map SandboxProfile.name).Nodup :=
    (hsame.profiles.map fun _ _ hpq => hpq.name).nodup_iff.mp hprofiles
  rw [find?_key_iff hpolicies] at hpolicy
  rw [find?_key_iff hprofiles] at hprofile
  obtain ⟨profile, hmem, hpq⟩ := hsame.profiles.mem_left hprofile.1
  refine ⟨⟨b.identity, b, r.routePolicy, profile⟩, resolveAgent_iff.mpr
    ⟨heligible.same hsame hab, rfl, rfl, ?_, ?_, fun required hrequired => ?_⟩,
    ⟨hidentity.trans hab.identity, hagent ▸ hab, rfl, hpq⟩⟩
  · rw [find?_key_iff hpolicies', ← hab.routePolicy]
    exact ⟨hsame.policies.mem_iff.mp hpolicy.1, hpolicy.2⟩
  · rw [find?_key_iff hprofiles', ← hab.sandboxProfile]
    exact ⟨hmem, hpq.name ▸ hprofile.2⟩
  · rw [← hab.sandboxRequirements.mem_iff] at hrequired
    exact hpq.guarantees.mem_iff.mp (hguarantees required hrequired)

end Same

/-! ## All agents -/

section Resolution

variable [DecidableEq D] [DigestScheme D]

/-- What routing sees of a resolution: the eligible agents in order, each with its request. -/
def routed (taskId : String) (task : TaskSpec D) (c : CompiledConfiguration)
    (binding : ConfigurationBinding D) :
    Option (List (LogicalAgentVersion × Except RequestBuildError (ExecutionRequest D))) :=
  (resolveAgents task c binding).toOption.map fun resolution =>
    resolution.eligible.map fun r => (r.identity, buildExecutionRequest taskId task r c binding)

theorem buildExecutionRequest_same {taskId : String} {task : TaskSpec D} {s : ResolvedAgent}
    {c c' : CompiledConfiguration} (hnames : binding.Names c ↔ binding.Names c') (h : r.Same s) :
    buildExecutionRequest taskId task r c binding =
      buildExecutionRequest taskId task s c' binding := by
  simp only [buildExecutionRequest, hnames, h.identity, h.routePolicy, h.agent.minContextTokens,
    insertionSort_perm_eq _ h.agent.executionFeatures,
    insertionSort_perm_eq _ h.agent.sandboxRequirements,
    insertionSort_perm_eq _ h.agent.actions, SandboxProfile.digest,
    SandboxProfile.toValue_eq_iff.mpr h.sandboxProfile]

/-- The eligible agents, in the order of their identities. -/
def eligibleAgents (task : TaskSpec D) (c : CompiledConfiguration)
    (binding : ConfigurationBinding D) : List ResolvedAgent :=
  (c.agents.agents.insertionSort fun a b => a.identity.Le b.identity).filterMap fun a =>
    (resolveAgent task c binding a).toOption

/-- Under the configuration it names, resolution finds the eligible agents. -/
theorem resolveAgents_named (task : TaskSpec D) {c : CompiledConfiguration}
    (hnames : binding.Names c) :
    ∃ rejected, resolveAgents task c binding =
      (refuseIf (eligibleAgents task c binding = [])
        (.NoEligibleAgent task.taskType rejected) >>= fun _ =>
          pure ⟨eligibleAgents task c binding, rejected⟩) := by
  have hpassed : refuseIf (¬binding.Names c) (AgentResolutionError.ConfigurationMismatch
      binding.contentDigest c.revisionDigest) = .ok () :=
    refuseIf_eq_ok.mpr (not_not.mpr hnames)
  rw [resolveAgents, hpassed]
  exact ⟨_, rfl⟩

theorem routed_eq (taskId : String) (task : TaskSpec D) (c : CompiledConfiguration)
    (binding : ConfigurationBinding D) : routed taskId task c binding =
      if binding.Names c ∧ eligibleAgents task c binding ≠ [] then
        some ((eligibleAgents task c binding).map fun r =>
          (r.identity, buildExecutionRequest taskId task r c binding))
      else none := by
  by_cases hnames : binding.Names c
  · obtain ⟨rejected, hresolve⟩ := resolveAgents_named task hnames
    by_cases hnil : eligibleAgents task c binding = []
    · rw [routed, hresolve, refuseIf, if_pos hnil, if_neg fun h => h.2 hnil]
      rfl
    · rw [routed, hresolve, refuseIf, if_neg hnil, if_pos ⟨hnames, hnil⟩]
      rfl
  · rw [routed, resolveAgents, refuseIf, if_pos hnames, if_neg fun h => hnames h.1]
    rfl

omit [DecidableEq D] [DigestScheme D] in
/-- The eligible agents of configurations with one content correspond, in order. -/
theorem eligibleAgents_same {c c' : CompiledConfiguration} (task : TaskSpec D)
    (binding : ConfigurationBinding D) (hdistinct : (c.agents.agents.map Agent.identity).Nodup)
    (hone : ∀ a b r, a.Same b → resolveAgent task c binding a = .ok r →
      ∃ s, resolveAgent task c' binding b = .ok s ∧ r.Same s)
    (hback : ∀ a b s, a.Same b → resolveAgent task c' binding b = .ok s →
      ∃ r, resolveAgent task c binding a = .ok r)
    (hsame : UpTo Agent.Same c.agents.agents c'.agents.agents) :
    List.Forall₂ ResolvedAgent.Same (eligibleAgents task c binding)
      (eligibleAgents task c' binding) := by
  have hpairs := hsame.map (f := fun a => (a.identity, a.toValue))
    (g := fun a => (a.identity, a.toValue)) fun a b hab =>
      Prod.ext hab.identity (Agent.toValue_eq_iff.mpr hab)
  have hsorted := (map_eq_iff fun _ _ => Agent.toValue_eq_iff).mp
    (sort_congr LogicalAgentVersion.Le Agent.identity Agent.toValue hdistinct hpairs)
  refine forall₂_filterMap (fun a b hab => ?_) hsorted
  cases ha : resolveAgent task c binding a with
  | ok r =>
    obtain ⟨s, hs, hrs⟩ := hone a b r hab ha
    exact .inr ⟨r, s, rfl, by rw [hs]; rfl, hrs⟩
  | error reason =>
    cases hb : resolveAgent task c' binding b with
    | error reason' => exact .inl ⟨rfl, rfl⟩
    | ok s =>
      obtain ⟨r, hr⟩ := hback a b s hab hb
      rw [ha] at hr
      cases hr

/-- The names of the sandbox profiles of a compiled configuration are distinct. -/
theorem compile_profiles {source : String} {c : CompiledConfiguration}
    (h : compile source = .ok c) : (c.execution.profiles.map SandboxProfile.name).Nodup := by
  obtain ⟨_, -, hdeclared, -⟩ := compile_iff.mp h
  obtain ⟨_, -, hx⟩ := hdeclared.execution
  obtain ⟨_, -, -, hnames⟩ := hx.profiles
  exact hnames

/-- What routing sees of a Task is determined by the component digests of the configuration it is
    routed under: the same agents in the same order, with the same requests. -/
theorem routing_determined_by_digests (hD : Collisionless D) {source source' : String}
    {c c' : CompiledConfiguration} (hc : compile source = .ok c) (hc' : compile source' = .ok c')
    (h : (c.componentDigests : ComponentDigests D) = c'.componentDigests) (taskId : String)
    (task : TaskSpec D) (binding : ConfigurationBinding D) :
    routed taskId task c binding = routed taskId task c' binding := by
  have hsame := (compile_componentDigests hD hc hc' h).1
  have hsame' := (compile_componentDigests hD hc' hc h.symm).1
  have hnames : binding.Names c ↔ binding.Names c' := by
    unfold ConfigurationBinding.Names CompiledConfiguration.revisionDigest
    rw [h]
  have heligible := eligibleAgents_same task binding (compile_sound hc).distinct
    (fun a b r hab hr => resolveAgent_same (compile_policies hc) (compile_profiles hc) hsame hab hr)
    (fun a b s hab hs => by
      obtain ⟨r, hr, -⟩ := resolveAgent_same (compile_policies hc') (compile_profiles hc') hsame'
        hab.symm hs
      exact ⟨r, hr⟩) hsame.agents
  have hnil : eligibleAgents task c binding = [] ↔ eligibleAgents task c' binding = [] := by
    rw [← List.length_eq_zero_iff, heligible.length_eq, List.length_eq_zero_iff]
  have hrequests : (eligibleAgents task c binding).map (fun r =>
        (r.identity, buildExecutionRequest taskId task r c binding)) =
      (eligibleAgents task c' binding).map fun r =>
        (r.identity, buildExecutionRequest taskId task r c' binding) :=
    forall₂_map_eq (fun r s hrs =>
      Prod.ext hrs.identity (buildExecutionRequest_same hnames hrs)) heligible
  simp only [routed_eq, hnames, ne_eq, hnil, hrequests]

end Resolution

namespace Sample

/-- A source with one agent and some route policies. -/
def staffedValue (policies : List String) : Value := .object ([
  ("agents", .arr [.object [("name", .str "a"), ("version", .integer 1),
    ("accepts", strings ["code"]), ("competencies", strings ["c"]), ("routePolicy", .str "p"),
    ("executionFeatures", .arr []), ("minContextTokens", .integer 1),
    ("sandboxProfile", .str "s"), ("sandboxRequirements", .arr []), ("actions", .arr []),
    ("soul", .str "s"), ("behavior", .str "b")]]),
  ("routing", .object [("policies", .arr (policies.map policyEntry))]),
  ("execution", .object [("profiles", .arr [.object [("name", .str "s"),
    ("isolationClass", .str "TRUSTED_HOST"), ("networkMode", .str "NONE"),
    ("environmentIdentity", .str "e"), ("guarantees", .arr [])]]), ("backends", .arr [])])]
    ++ plainSections)

def staffed (policies : List String) : CompiledConfiguration :=
  ⟨⟨[⟨"a", 1, true, true, ["code"], ["c"], "p", [], 1, "s", [], [], "s", "b"⟩]⟩,
    ⟨policies.map fun name => ⟨name, 0, [], "agentId", true⟩, [], []⟩,
    ⟨[⟨"s", .TrustedHost, [], .None, "e"⟩], []⟩, ⟨[], []⟩, ⟨1, [], [], 1, 1, 1, []⟩, ⟨1, []⟩⟩

theorem staffedValue_wf (policies : List String) : (staffedValue policies).Wf := by
  refine wf_object (List.forall_mem_append.mpr ⟨?_, plainSections_wf⟩)
  simp only [List.forall_mem_cons]
  refine ⟨⟨wf_object ?_, trivial⟩, wf_object (by simp [policies_wf]), wf_object ?_, nofun⟩
  · simp [Value.Wf, Value.WfValues, IsI64]
  · simp only [List.forall_mem_cons]
    exact ⟨⟨wf_object (by simp [Value.Wf, Value.WfValues]), trivial⟩, trivial, nofun⟩

theorem staffed_compiles :
    compile (staffedValue ["p", "q"]).toCanonicalText = .ok (staffed ["p", "q"]) := by
  rw [compile, parse_toCanonicalText (staffedValue_wf _)]
  rfl

theorem staffed_swapped_compiles :
    compile (staffedValue ["q", "p"]).toCanonicalText = .ok (staffed ["q", "p"]) := by
  rw [compile, parse_toCanonicalText (staffedValue_wf _)]
  rfl

theorem staffed_digests : ((staffed ["p", "q"]).componentDigests : ComponentDigests ExactDigest) =
    (staffed ["q", "p"]).componentDigests :=
  CompiledConfiguration.componentDigests_congr (by decide) (by decide)
    ⟨.of_forall₂ (.cons (Agent.toValue_eq_iff.mp rfl) .nil), .swap .., .refl _, .refl _,
      .of_forall₂ (.cons (SandboxProfile.toValue_eq_iff.mp rfl) .nil), .refl _, .refl _, .refl _,
      rfl, rfl⟩
    ⟨.cons (SandboxProfile.toValue_eq_iff.mp rfl) .nil, rfl, rfl, rfl⟩

end Sample

/-- Under the two orders of its policies, one configuration routes every Task the same way. -/
theorem staffed_routing : Sample.staffed ["p", "q"] ≠ Sample.staffed ["q", "p"] ∧
    ∀ (taskId : String) (task : TaskSpec ExactDigest) (binding : ConfigurationBinding ExactDigest),
      routed taskId task (Sample.staffed ["p", "q"]) binding =
        routed taskId task (Sample.staffed ["q", "p"]) binding :=
  ⟨by decide, fun taskId task binding => routing_determined_by_digests exactDigest_collisionless
    Sample.staffed_compiles Sample.staffed_swapped_compiles Sample.staffed_digests taskId task
    binding⟩

end Pantheon
