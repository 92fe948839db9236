/-
  Resolution over compiled configurations (`config/validate.rs` and `resolve_agents`).
  `resolve_agents` looks up the policy and the profile of an agent and compares what the agent
  requires with what the profile asserts; the cross-reference rules have made the same lookups
  when the configuration was compiled. Over a compiled configuration these three rejections
  therefore never occur: an agent is not resolved for what it is, or for when the Task was
  planned, but never for a dangling reference.
-/
import Pantheon.Execution.Determined

namespace Pantheon

variable {D : Type}

/-! ## Why an agent is rejected -/

theorem bind_eq_error {ε α β : Type} {x : Except ε α} {f : α → Except ε β} {e : ε} :
    (x >>= f) = .error e ↔ x = .error e ∨ ∃ a, x = .ok a ∧ f a = .error e := by
  cases x with
  | error e' =>
    constructor
    · exact fun h => .inl (congrArg _ (Except.error.inj h))
    · rintro (h | ⟨a, h, -⟩)
      · exact congrArg _ (Except.error.inj h)
      · cases h
  | ok a =>
    constructor
    · exact fun h => .inr ⟨a, rfl, h⟩
    · rintro (h | ⟨a', h, hf⟩)
      · cases h
      · obtain rfl := Except.ok.inj h
        exact hf

theorem refuseIf_eq_error {ε : Type} {p : Prop} [Decidable p] {error e : ε} :
    refuseIf p error = .error e ↔ p ∧ error = e := by
  by_cases hp : p
  · rw [refuseIf, if_pos hp]
    exact ⟨fun h => ⟨hp, Except.error.inj h⟩, fun h => congrArg _ h.2⟩
  · rw [refuseIf, if_neg hp]
    exact ⟨(fun h => by cases h), fun h => absurd h.1 hp⟩

variable {task : TaskSpec D} {c : CompiledConfiguration} {source : String}

theorem checkPolicy_error {a : Agent} {reason : AgentRejectionReason}
    (h : checkPolicy task a c = .error reason) :
    ∃ detail, reason = .PolicyIncompatible detail := by
  unfold checkPolicy at h
  split at h
  · exact ⟨_, (Except.error.inj h).symm⟩
  · cases h

/-- The detail of the one configuration incompatibility that compilation does not rule out. -/
def futureActivation : String := "Task provenance names a future configuration activation"

/-- Where the references of a configuration hold, an agent is incompatible with it only by the
    time of the Task. -/
theorem resolveAgent_incompatible (hc : c.Consistent) {binding : ConfigurationBinding D} {a : Agent}
    (ha : a ∈ c.agents.agents) {detail : String}
    (h : resolveAgent task c binding a = .error (.ConfigurationIncompatible detail)) :
    detail = futureActivation := by
  obtain ⟨profile, hprofile, hsuits, -⟩ := hc.profiled a ha
  obtain ⟨policy, hpolicy⟩ : ∃ policy,
      c.routing.policies.find? (fun policy => policy.name == a.routePolicy) = some policy := by
    obtain ⟨policy, hmem, hname⟩ := List.mem_map.mp (hc.routed a ha)
    exact Option.isSome_iff_exists.mp (List.find?_isSome.mpr ⟨policy, hmem, by simp [hname]⟩)
  have hguaranteed : ¬(a.sandboxRequirements.any fun r => !profile.guarantees.contains r) = true := by
    simpa using hsuits
  simp only [resolveAgent, hpolicy, hprofile, bind_eq_error, refuseIf_eq_error, hguaranteed,
    false_and, reduceCtorEq, and_false, false_or] at h
  obtain ⟨_, -, _, -, _, -, _, -, _, -, _, -, hforbidden | ⟨_, -, ⟨-, hfuture⟩ | ⟨_, -, _, -, h⟩⟩⟩ := h
  · obtain ⟨_, hreason⟩ := checkPolicy_error hforbidden
    cases hreason
  · exact (AgentRejectionReason.ConfigurationIncompatible.inj hfuture).symm
  · cases h

/-! ## Resolution -/

section Resolution

variable [DecidableEq D] [DigestScheme D]

/-- The agents a resolution rejects, whether or not it finds an eligible one. -/
def rejectedAgents : Except (AgentResolutionError D) AgentResolution → List AgentRejection
  | .ok resolution => resolution.rejected
  | .error (.NoEligibleAgent _ causes) => causes
  | .error (.ConfigurationMismatch _ _) => []

/-- How a resolution reports one agent it does not accept. -/
def rejectionOf (task : TaskSpec D) (c : CompiledConfiguration) (binding : ConfigurationBinding D)
    (a : Agent) : Option AgentRejection :=
  match resolveAgent task c binding a with
  | .ok _ => none
  | .error reason => some ⟨a.identity, reason⟩

theorem mem_rejectedAgents {binding : ConfigurationBinding D} {rejection : AgentRejection}
    (h : rejection ∈ rejectedAgents (resolveAgents task c binding)) :
    ∃ a ∈ c.agents.agents, rejection.agent = a.identity ∧
      resolveAgent task c binding a = .error rejection.reason := by
  have hcollected : rejection ∈
      (c.agents.agents.insertionSort fun a b => a.identity.Le b.identity).filterMap
        (rejectionOf task c binding) := by
    unfold resolveAgents refuseIf at h
    by_cases hnames : binding.Names c
    · rw [if_neg (not_not.mpr hnames)] at h
      by_cases hnil : eligibleAgents task c binding = []
      · unfold eligibleAgents at hnil
        dsimp only at h
        rw [if_pos hnil] at h
        exact h
      · unfold eligibleAgents at hnil
        dsimp only at h
        rw [if_neg hnil] at h
        exact h
    · rw [if_pos hnames] at h
      cases h
  obtain ⟨a, ha, hrejected⟩ := List.mem_filterMap.mp hcollected
  refine ⟨a, (List.mem_insertionSort _).mp ha, ?_⟩
  unfold rejectionOf at hrejected
  cases hone : resolveAgent task c binding a with
  | ok r =>
    rw [hone] at hrejected
    cases hrejected
  | error reason =>
    rw [hone] at hrejected
    obtain rfl := Option.some.inj hrejected
    exact ⟨rfl, rfl⟩

end Resolution

/-! ## What compilation has checked -/

theorem compile_consistent (h : compile source = .ok c) : c.Consistent := by
  obtain ⟨_, -, -, hconsistent⟩ := compile_iff.mp h
  exact hconsistent

/-- The actions of an agent are Pantheon's, and never the one that is denied to every agent. -/
theorem compile_actions (h : compile source = .ok c) : ∀ a ∈ c.agents.agents, ∀ action ∈ a.actions,
      action ∈ Compile.actions ∧ action ≠ Compile.hardDeniedAction := by
  obtain ⟨root, hroot, hdeclared, -⟩ := compile_iff.mp h
  intro a ha
  obtain ⟨entry, -, hagent⟩ := Reader.Declarations.entry hdeclared.agents (parse_wf hroot) a ha
  exact hagent.actions.2

theorem declarations_each {α : Type} {P : α → Prop}
    {one : Nat → List String → Value → Compiles (α × List String)}
    (hone : ∀ index seen entry a seen', one index seen entry = .ok (a, seen') → P a)
    {entries : List Value} {index : Nat} {seen : List String} {as : List α}
    (h : Reader.declarations one index seen entries = .ok as) : ∀ a ∈ as, P a := by
  induction entries generalizing index seen as with
  | nil =>
    obtain rfl := Except.ok.inj h
    exact nofun
  | cons entry entries ih =>
    obtain ⟨⟨a, seen'⟩, ha, h⟩ := bind_ok h
    obtain ⟨rest, hrest, h⟩ := bind_ok h
    obtain rfl := Except.ok.inj h
    exact List.forall_mem_cons.mpr ⟨hone _ _ _ _ _ ha, ih hrest⟩

/-- No rule permits what is denied to every agent. -/
theorem compile_rules (h : compile source = .ok c) : ∀ rule ∈ c.authorization.rules,
      ¬(rule.action = Compile.hardDeniedAction ∧ rule.effect = .Permit) := by
  obtain ⟨_, -, hdeclared, -⟩ := compile_iff.mp h
  obtain ⟨v, -, hauthorization⟩ := hdeclared.authorization
  simp only [Compile.authorization, bind_eq_ok, pure_eq_ok] at hauthorization
  obtain ⟨_, -, entries, -, rules, hrules, _, -, hcomponent⟩ := hauthorization
  rw [← hcomponent]
  refine declarations_each (fun index seen entry rule seen' hrule => ?_) hrules
  simp only [Compile.authorizationRule, bind_eq_ok, pure_eq_ok, refuseIf_eq_ok] at hrule
  obtain ⟨action, -, _, -, _, -, effect, -, _, hallowed, hrule⟩ := hrule
  obtain ⟨rfl, -⟩ := Prod.mk.inj hrule
  exact hallowed

/-- The profile an agent names is the only one of its name, asserts what the agent requires, and
    is a container with control-plane isolation when the agent may run commands. -/
def Agent.BoundTo (a : Agent) (profiles : List SandboxProfile) (profile : SandboxProfile) : Prop :=
  (∀ other ∈ profiles, other.name = a.sandboxProfile ↔ other = profile) ∧
  (∀ required ∈ a.sandboxRequirements, required ∈ profile.guarantees) ∧
  ((∃ action ∈ a.actions, action ∈ Compile.controlPlaneActions) →
    profile.isolationClass = .Container ∧ Compile.controlPlaneGuarantee ∈ profile.guarantees)

theorem compile_bound (h : compile source = .ok c) :
    ∀ a ∈ c.agents.agents, ∃ profile ∈ c.execution.profiles,
      a.BoundTo c.execution.profiles profile := by
  intro a ha
  obtain ⟨profile, hfound, hsuits, hisolated⟩ := (compile_consistent h).profiled a ha
  have hnamed := (Reorder.find?_key_iff (compile_profiles h)).mp hfound
  refine ⟨profile, hnamed.1, fun other hother => ⟨fun hname => ?_, ?_⟩, hsuits, fun hcommands => ?_⟩
  · exact List.inj_on_of_nodup_map (compile_profiles h) hother hnamed.1 (hname.trans hnamed.2.symm)
  · rintro rfl
    exact hnamed.2
  · obtain ⟨hclass, hguarantee⟩ := hisolated hcommands
    refine ⟨?_, hguarantee⟩
    cases hkind : profile.isolationClass with
    | Container => rfl
    | TrustedHost =>
      rw [hkind] at hclass
      cases hclass

/-- Every reference of a compiled configuration holds, nothing in it allows what is denied to
    every agent, and agents that may run commands are isolated. Resolution over it therefore never
    rejects an agent for a dangling reference, and builds a request for every agent that is
    eligible. -/
theorem compiled_resolvable [DecidableEq D] [DigestScheme D] {source : String}
    {c : CompiledConfiguration} (hc : compile source = .ok c) :
    (∀ a ∈ c.agents.agents, a.routePolicy ∈ c.routing.policies.map RoutePolicy.name ∧
      "secret.read" ∉ a.actions ∧
      ∃ profile ∈ c.execution.profiles, a.BoundTo c.execution.profiles profile) ∧
    (∀ r ∈ c.routing.agentPins ++ c.routing.agentExclusions,
      r ∈ c.agents.agents.map Agent.identity) ∧
    (∀ rule ∈ c.authorization.rules, ¬(rule.action = "secret.read" ∧ rule.effect = .Permit)) ∧
    ∀ (task : TaskSpec D) (binding : ConfigurationBinding D),
      (∀ rejection ∈ rejectedAgents (resolveAgents task c binding), ∀ detail,
        rejection.reason = .ConfigurationIncompatible detail → detail = futureActivation) ∧
      ∀ resolution, resolveAgents task c binding = .ok resolution →
        ∀ resolved ∈ resolution.eligible, ∀ taskId, ∃ request,
          buildExecutionRequest taskId task resolved c binding = .ok request := by
  have hconsistent := compile_consistent hc
  refine ⟨fun a ha => ⟨hconsistent.routed a ha, fun hsecret => ?_, compile_bound hc a ha⟩,
    fun r hr => ?_, compile_rules hc, fun task binding => ⟨fun rejection hrejected detail hdetail => ?_,
      fun resolution hresolution resolved _ taskId => ?_⟩⟩
  · exact (compile_actions hc a ha _ hsecret).2 rfl
  · rcases List.mem_append.mp hr with hpin | hexclusion
    · exact hconsistent.pins r hpin
    · exact hconsistent.exclusions r hexclusion
  · obtain ⟨a, ha, -, herror⟩ := mem_rejectedAgents hrejected
    rw [hdetail] at herror
    exact resolveAgent_incompatible hconsistent ha herror
  · exact buildExecutionRequest_named (resolveAgents_ok hresolution).1 taskId task resolved

/-- A configuration with one agent and two policies, as it is compiled. -/
theorem staffed_resolvable :
    (∀ a ∈ (Sample.staffed ["p", "q"]).agents.agents, "secret.read" ∉ a.actions) ∧
    ∀ (task : TaskSpec ExactDigest) (binding : ConfigurationBinding ExactDigest),
      ∀ rejection ∈ rejectedAgents (resolveAgents task (Sample.staffed ["p", "q"]) binding),
        ∀ detail, rejection.reason = .ConfigurationIncompatible detail →
          detail = futureActivation := by
  have h := compiled_resolvable (D := ExactDigest) Sample.staffed_compiles
  exact ⟨fun a ha => (h.1 a ha).2.1, fun task binding => (h.2.2.2 task binding).1⟩

end Pantheon
