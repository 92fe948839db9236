/-
  Declaration order and compiled identity.
  Two sources that declare the same things in another order compile together, to configurations
  that are the same up to order (`compile_reordered`). Equal component digests say exactly that,
  with sandbox profiles, backends and evaluators in their order as well: the canonical forms of
  the execution and evaluator components do not sort them.
-/
import Pantheon.Config.Declared

namespace Pantheon

open Value Reader Reorder

/-! ## Configurations up to order -/

/-- Agents that differ at most in the order of their set-valued lists. -/
structure Agent.Same (a b : Agent) : Prop where
  name : a.name = b.name
  version : a.version = b.version
  enabled : a.enabled = b.enabled
  current : a.current = b.current
  accepts : a.accepts.Perm b.accepts
  competencies : a.competencies.Perm b.competencies
  routePolicy : a.routePolicy = b.routePolicy
  executionFeatures : a.executionFeatures.Perm b.executionFeatures
  minContextTokens : a.minContextTokens = b.minContextTokens
  sandboxProfile : a.sandboxProfile = b.sandboxProfile
  sandboxRequirements : a.sandboxRequirements.Perm b.sandboxRequirements
  actions : a.actions.Perm b.actions
  soul : a.soul = b.soul
  behavior : a.behavior = b.behavior

theorem Agent.Same.identity {a b : Agent} (h : a.Same b) : a.identity = b.identity := by
  rw [Agent.identity, Agent.identity, h.name, h.version]

/-- Profiles that differ at most in the order of their guarantees. -/
structure SandboxProfile.Same (p q : SandboxProfile) : Prop where
  name : p.name = q.name
  isolationClass : p.isolationClass = q.isolationClass
  guarantees : p.guarantees.Perm q.guarantees
  networkMode : p.networkMode = q.networkMode
  environmentIdentity : p.environmentIdentity = q.environmentIdentity

namespace CompiledConfiguration

/-- Configurations that are the same up to the order of declarations. -/
structure Reordered (c c' : CompiledConfiguration) : Prop where
  agents : UpTo Agent.Same c.agents.agents c'.agents.agents
  policies : c.routing.policies.Perm c'.routing.policies
  agentPins : c.routing.agentPins.Perm c'.routing.agentPins
  agentExclusions : c.routing.agentExclusions.Perm c'.routing.agentExclusions
  profiles : UpTo SandboxProfile.Same c.execution.profiles c'.execution.profiles
  backends : c.execution.backends.Perm c'.execution.backends
  refs : c.evaluators.refs.Perm c'.evaluators.refs
  versions : c.evaluators.versions.Perm c'.evaluators.versions
  context : c.context = c'.context
  authorization : c.authorization = c'.authorization

/-- The declarations whose order the canonical forms keep stand in the same order. -/
structure OrderKept (c c' : CompiledConfiguration) : Prop where
  profiles : List.Forall₂ SandboxProfile.Same c.execution.profiles c'.execution.profiles
  backends : c.execution.backends = c'.execution.backends
  refs : c.evaluators.refs = c'.evaluators.refs
  versions : c.evaluators.versions = c'.evaluators.versions

end CompiledConfiguration

/-! ## Equal canonical forms -/

theorem setStrings_eq_iff {xs ys : List String} : setStrings xs = setStrings ys ↔ xs.Perm ys := by
  constructor
  · intro h
    have hmap := Value.arr.inj h
    exact perm_of_insertionSort_eq
      (List.map_injective_iff.mpr (fun _ _ => Value.str.inj) hmap)
  · intro h
    rw [setStrings, setStrings, insertionSort_perm_eq _ h]

theorem strings_injective {xs ys : List String} (h : strings xs = strings ys) : xs = ys :=
  List.map_injective_iff.mpr (fun _ _ => Value.str.inj) (Value.arr.inj h)

theorem version_injective {v w : UInt32}
    (h : Value.integer v.toNat = Value.integer w.toNat) : v = w :=
  UInt32.toNat_inj.mp (Int.ofNat_inj.mp (Value.integer.inj h))

theorem IsolationClass.asStr_injective {a b : IsolationClass} (h : a.asStr = b.asStr) : a = b := by
  cases a <;> cases b <;> first | rfl | exact absurd h (by decide)

theorem NetworkMode.asStr_injective {a b : NetworkMode} (h : a.asStr = b.asStr) : a = b := by
  cases a <;> cases b <;> first | rfl | exact absurd h (by decide)

theorem EvaluatorKind.asStr_injective {a b : EvaluatorKind} (h : a.asStr = b.asStr) : a = b := by
  cases a <;> cases b <;> first | rfl | exact absurd h (by decide)

theorem RuleEffect.asStr_injective {a b : RuleEffect} (h : a.asStr = b.asStr) : a = b := by
  cases a <;> cases b <;> first | rfl | exact absurd h (by decide)

theorem Agent.toValue_eq_iff {a b : Agent} : a.toValue = b.toValue ↔ a.Same b := by
  constructor
  · intro h
    have field := Value.fields_eq h
    simp only [Agent.toValue, get_object] at field
    exact {
      name := Value.str.inj (field "name" rfl rfl)
      version := version_injective (field "version" rfl rfl)
      enabled := Value.bool.inj (field "enabled" rfl rfl)
      current := Value.bool.inj (field "current" rfl rfl)
      accepts := setStrings_eq_iff.mp (field "accepts" rfl rfl)
      competencies := setStrings_eq_iff.mp (field "competencies" rfl rfl)
      routePolicy := Value.str.inj (field "routePolicy" rfl rfl)
      executionFeatures := setStrings_eq_iff.mp (field "executionFeatures" rfl rfl)
      minContextTokens := Value.integer.inj (field "minContextTokens" rfl rfl)
      sandboxProfile := Value.str.inj (field "sandboxProfile" rfl rfl)
      sandboxRequirements := setStrings_eq_iff.mp (field "sandboxRequirements" rfl rfl)
      actions := setStrings_eq_iff.mp (field "actions" rfl rfl)
      soul := Value.str.inj (field "soul" rfl rfl)
      behavior := Value.str.inj (field "behavior" rfl rfl) }
  · intro h
    rw [Agent.toValue, Agent.toValue, h.name, h.version, h.enabled, h.current,
      setStrings_eq_iff.mpr h.accepts, setStrings_eq_iff.mpr h.competencies, h.routePolicy,
      setStrings_eq_iff.mpr h.executionFeatures, h.minContextTokens, h.sandboxProfile,
      setStrings_eq_iff.mpr h.sandboxRequirements, setStrings_eq_iff.mpr h.actions, h.soul,
      h.behavior]

theorem RoutePolicy.toValue_injective {p q : RoutePolicy} (h : p.toValue = q.toValue) : p = q := by
  have field := Value.fields_eq h
  simp only [RoutePolicy.toValue, get_object] at field
  cases p
  cases q
  rw [RoutePolicy.mk.injEq]
  exact ⟨Value.str.inj (field "name" rfl rfl), Value.integer.inj (field "priority" rfl rfl),
    strings_injective (field "ordering" rfl rfl), Value.str.inj (field "tieBreak" rfl rfl),
    Value.bool.inj (field "requiresKeyedLaunch" rfl rfl)⟩

theorem LogicalAgentVersion.toValue_injective {a b : LogicalAgentVersion}
    (h : a.toValue = b.toValue) : a = b := by
  have field := Value.fields_eq h
  simp only [LogicalAgentVersion.toValue, get_object] at field
  cases a
  cases b
  rw [LogicalAgentVersion.mk.injEq]
  exact ⟨Value.str.inj (field "name" rfl rfl), version_injective (field "version" rfl rfl)⟩

theorem SandboxProfile.toValue_eq_iff {p q : SandboxProfile} :
    p.toValue = q.toValue ↔ p.Same q := by
  constructor
  · intro h
    have field := Value.fields_eq h
    simp only [SandboxProfile.toValue, get_object] at field
    exact {
      name := Value.str.inj (field "name" rfl rfl)
      isolationClass :=
        IsolationClass.asStr_injective (Value.str.inj (field "isolationClass" rfl rfl))
      guarantees := setStrings_eq_iff.mp (field "guarantees" rfl rfl)
      networkMode := NetworkMode.asStr_injective (Value.str.inj (field "networkMode" rfl rfl))
      environmentIdentity := Value.str.inj (field "environmentIdentity" rfl rfl) }
  · intro h
    rw [SandboxProfile.toValue, SandboxProfile.toValue, h.name, h.isolationClass,
      setStrings_eq_iff.mpr h.guarantees, h.networkMode, h.environmentIdentity]

theorem BackendRegistration.toValue_injective {a b : BackendRegistration}
    (h : a.toValue = b.toValue) : a = b := by
  have field := Value.fields_eq h
  simp only [BackendRegistration.toValue, get_object] at field
  cases a
  cases b
  rw [BackendRegistration.mk.injEq]
  exact ⟨Value.str.inj (field "backendId" rfl rfl), Value.bool.inj (field "enabled" rfl rfl),
    Value.str.inj (field "selector" rfl rfl)⟩

theorem agentReferences_eq_iff {xs ys : List LogicalAgentVersion} :
    agentReferences xs = agentReferences ys ↔ xs.Perm ys := by
  constructor
  · intro h
    exact perm_of_insertionSort_eq (List.map_injective_iff.mpr
      (fun _ _ => LogicalAgentVersion.toValue_injective) (Value.arr.inj h))
  · intro h
    rw [agentReferences, agentReferences, insertionSort_perm_eq _ h]

theorem AgentComponent.toValue_eq_iff {c c' : AgentComponent}
    (hdistinct : (c.agents.map Agent.identity).Nodup) :
    c.toValue = c'.toValue ↔ UpTo Agent.Same c.agents c'.agents := by
  constructor
  · intro h
    have field := Value.fields_eq h
    simp only [AgentComponent.toValue, get_object] at field
    exact UpTo.of_sort (Value.arr.inj (field "agents" rfl rfl)) fun a b => Agent.toValue_eq_iff.mp
  · intro h
    have hpairs := h.map (f := fun a => (a.identity, a.toValue))
      (g := fun a => (a.identity, a.toValue)) fun a b hab =>
        Prod.ext hab.identity (Agent.toValue_eq_iff.mpr hab)
    rw [AgentComponent.toValue, AgentComponent.toValue,
      sort_congr LogicalAgentVersion.Le Agent.identity Agent.toValue hdistinct hpairs]

theorem RoutingComponent.toValue_eq_iff {c c' : RoutingComponent}
    (hdistinct : (c.policies.map RoutePolicy.name).Nodup) :
    c.toValue = c'.toValue ↔ c.policies.Perm c'.policies ∧ c.agentPins.Perm c'.agentPins ∧
      c.agentExclusions.Perm c'.agentExclusions := by
  constructor
  · intro h
    have field := Value.fields_eq h
    simp only [RoutingComponent.toValue, get_object] at field
    refine ⟨?_, agentReferences_eq_iff.mp (field "agentPins" rfl rfl),
      agentReferences_eq_iff.mp (field "agentExclusions" rfl rfl)⟩
    exact perm_of_insertionSort_eq (List.map_injective_iff.mpr
      (fun _ _ => RoutePolicy.toValue_injective) (Value.arr.inj (field "policies" rfl rfl)))
  · rintro ⟨hpolicies, hpins, hexclusions⟩
    rw [RoutingComponent.toValue, RoutingComponent.toValue,
      sort_congr (· ≤ ·) RoutePolicy.name RoutePolicy.toValue hdistinct (hpolicies.map _),
      agentReferences_eq_iff.mpr hpins, agentReferences_eq_iff.mpr hexclusions]

/-- Lists whose images agree one by one. -/
theorem map_eq_iff {α β : Type} {f : α → β} {R : α → α → Prop} (hf : ∀ a b, f a = f b ↔ R a b)
    {xs ys : List α} : xs.map f = ys.map f ↔ List.Forall₂ R xs ys := by
  rw [← List.forall₂_eq_eq_eq, List.forall₂_map_left_iff, List.forall₂_map_right_iff]
  simp only [hf]

theorem ExecutionComponent.toValue_eq_iff {c c' : ExecutionComponent} :
    c.toValue = c'.toValue ↔ List.Forall₂ SandboxProfile.Same c.profiles c'.profiles ∧
      c.backends = c'.backends := by
  constructor
  · intro h
    have field := Value.fields_eq h
    simp only [ExecutionComponent.toValue, get_object] at field
    exact ⟨(map_eq_iff fun _ _ => SandboxProfile.toValue_eq_iff).mp
        (Value.arr.inj (field "profiles" rfl rfl)),
      List.map_injective_iff.mpr (fun _ _ => BackendRegistration.toValue_injective)
        (Value.arr.inj (field "backends" rfl rfl))⟩
  · rintro ⟨hprofiles, hbackends⟩
    rw [ExecutionComponent.toValue, ExecutionComponent.toValue, hbackends,
      (map_eq_iff fun _ _ => SandboxProfile.toValue_eq_iff).mpr hprofiles]

theorem EvaluatorComponent.toValue_injective {c c' : EvaluatorComponent}
    (h : c.toValue = c'.toValue) : c = c' := by
  have field := Value.fields_eq h
  simp only [EvaluatorComponent.toValue, get_object] at field
  cases c
  cases c'
  rw [EvaluatorComponent.mk.injEq]
  constructor
  · refine List.map_injective_iff.mpr ?_ (Value.arr.inj (field "refs" rfl rfl))
    intro r r' hr
    have hfield := Value.fields_eq hr
    simp only [get_object] at hfield
    cases r
    cases r'
    rw [EvaluatorRef.mk.injEq]
    exact ⟨Value.str.inj (hfield "ref" rfl rfl), Value.str.inj (hfield "currentVersion" rfl rfl)⟩
  · refine List.map_injective_iff.mpr ?_ (Value.arr.inj (field "versions" rfl rfl))
    intro e e' he
    have hfield := Value.fields_eq he
    simp only [get_object] at hfield
    cases e
    cases e'
    rw [EvaluatorVersion.mk.injEq]
    exact ⟨Value.str.inj (hfield "id" rfl rfl),
      EvaluatorKind.asStr_injective (Value.str.inj (hfield "kind" rfl rfl)),
      strings_injective (hfield "argv" rfl rfl), Value.integer.inj (hfield "timeoutMs" rfl rfl),
      Value.str.inj (hfield "sandboxProfile" rfl rfl),
      Value.str.inj (hfield "resultProtocol" rfl rfl)⟩

theorem ContextComponent.toValue_injective {c c' : ContextComponent}
    (h : c.toValue = c'.toValue) : c = c' := by
  have field := Value.fields_eq h
  simp only [ContextComponent.toValue, get_object] at field
  cases c
  cases c'
  rw [ContextComponent.mk.injEq]
  exact ⟨version_injective (field "schemaVersion" rfl rfl),
    strings_injective (field "mandatorySections" rfl rfl),
    strings_injective (field "preloadPriority" rfl rfl),
    Value.integer.inj (field "memoryLimitTokens" rfl rfl),
    Value.integer.inj (field "workspaceOrientationLimitTokens" rfl rfl),
    Value.integer.inj (field "safetyMarginTokens" rfl rfl),
    strings_injective (field "optionalDropOrder" rfl rfl)⟩

theorem AuthorizationComponent.toValue_injective {c c' : AuthorizationComponent}
    (h : c.toValue = c'.toValue) : c = c' := by
  have field := Value.fields_eq h
  simp only [AuthorizationComponent.toValue, get_object] at field
  cases c
  cases c'
  rw [AuthorizationComponent.mk.injEq]
  refine ⟨version_injective (field "schemaVersion" rfl rfl), ?_⟩
  refine List.map_injective_iff.mpr ?_ (Value.arr.inj (field "rules" rfl rfl))
  intro r r' hr
  have hfield := Value.fields_eq hr
  simp only [get_object] at hfield
  cases r
  cases r'
  rw [AuthorizationRule.mk.injEq]
  exact ⟨Value.str.inj (hfield "action" rfl rfl),
    RuleEffect.asStr_injective (Value.str.inj (hfield "effect" rfl rfl))⟩

namespace CompiledConfiguration

variable {D : Type} [DigestScheme D] {c c' : CompiledConfiguration}

/-- Configurations that are the same up to order, and in the order the canonical forms keep, have
    the same component digests. -/
theorem componentDigests_congr (hagents : (c.agents.agents.map Agent.identity).Nodup)
    (hpolicies : (c.routing.policies.map RoutePolicy.name).Nodup) (hsame : c.Reordered c')
    (hkept : c.OrderKept c') : (c.componentDigests : ComponentDigests D) = c'.componentDigests := by
  have hrouting := (RoutingComponent.toValue_eq_iff hpolicies).mpr
    ⟨hsame.policies, hsame.agentPins, hsame.agentExclusions⟩
  have hexecution := ExecutionComponent.toValue_eq_iff.mpr ⟨hkept.profiles, hkept.backends⟩
  have hevaluators : c.evaluators.toValue = c'.evaluators.toValue := by
    rw [EvaluatorComponent.toValue, EvaluatorComponent.toValue, hkept.refs, hkept.versions]
  rw [componentDigests, componentDigests, (AgentComponent.toValue_eq_iff hagents).mpr hsame.agents,
    hrouting, hexecution, hevaluators, hsame.context, hsame.authorization]

/-- With a hash without collisions, component digests determine a compiled configuration up to
    order. -/
theorem componentDigests_same (hD : Collisionless D) (hc : c.Sound) (hc' : c'.Sound)
    (hpolicies : (c.routing.policies.map RoutePolicy.name).Nodup)
    (h : (c.componentDigests : ComponentDigests D) = c'.componentDigests) :
    c.Reordered c' ∧ c.OrderKept c' := by
  rw [componentDigests, componentDigests, ComponentDigests.mk.injEq] at h
  obtain ⟨hagents, hrouting, hexecution, hevaluators, hcontext, hauthorization⟩ := h
  have hagents := digest_injective hD (AgentComponent.toValue_wf hc.tokens)
    (AgentComponent.toValue_wf hc'.tokens) hagents
  have hrouting := digest_injective hD (RoutingComponent.toValue_wf hc.priorities)
    (RoutingComponent.toValue_wf hc'.priorities) hrouting
  have hexecution := digest_injective hD (ExecutionComponent.toValue_wf _)
    (ExecutionComponent.toValue_wf _) hexecution
  have hevaluators := EvaluatorComponent.toValue_injective <|
    digest_injective hD (EvaluatorComponent.toValue_wf hc.timeouts)
      (EvaluatorComponent.toValue_wf hc'.timeouts) hevaluators
  have hcontext := ContextComponent.toValue_injective <|
    digest_injective hD (ContextComponent.toValue_wf hc.limits)
      (ContextComponent.toValue_wf hc'.limits) hcontext
  have hauthorization := AuthorizationComponent.toValue_injective <|
    digest_injective hD (AuthorizationComponent.toValue_wf _)
      (AuthorizationComponent.toValue_wf _) hauthorization
  rw [AgentComponent.toValue_eq_iff hc.distinct] at hagents
  rw [RoutingComponent.toValue_eq_iff hpolicies] at hrouting
  rw [ExecutionComponent.toValue_eq_iff] at hexecution
  obtain ⟨hpolicies, hpins, hexclusions⟩ := hrouting
  obtain ⟨hprofiles, hbackends⟩ := hexecution
  exact ⟨⟨hagents, hpolicies, hpins, hexclusions, .of_forall₂ hprofiles, .of_eq hbackends,
      .of_eq (by rw [hevaluators]), .of_eq (by rw [hevaluators]), hcontext, hauthorization⟩,
    ⟨hprofiles, hbackends, by rw [hevaluators], by rw [hevaluators]⟩⟩

end CompiledConfiguration

/-! ## Sources up to order -/

/-- Entries that say the same, but for the order of the lists under some keys. -/
structure Value.SameExcept (sets : List String) (v w : Value) : Prop where
  others : ∀ key, key ∉ sets → v.get key = w.get key
  lists : ∀ key ∈ sets, v.get key = w.get key ∨
    ∃ xs ys, v.get key = some (.arr xs) ∧ w.get key = some (.arr ys) ∧ xs.Perm ys

/-- Arrays under one key that correspond. -/
def Value.ArrayField (v w : Value) (key : String) (P : List Value → List Value → Prop) : Prop :=
  ∃ xs ys, v.get key = some (.arr xs) ∧ w.get key = some (.arr ys) ∧ P xs ys

/-- The keys of an agent whose lists are sets. -/
def agentSets : List String :=
  ["accepts", "competencies", "executionFeatures", "sandboxRequirements", "actions"]

/-- The key of a sandbox profile whose list is a set. -/
def profileSets : List String := ["guarantees"]

/-- References to agents that may be absent, in any order. -/
def ReferencesReordered (v w : Value) (key : String) : Prop :=
  v.get key = none ∧ w.get key = none ∨ v.ArrayField w key List.Perm

structure RoutingReordered (v w : Value) : Prop where
  policies : v.ArrayField w "policies" List.Perm
  agentPins : ReferencesReordered v w "agentPins"
  agentExclusions : ReferencesReordered v w "agentExclusions"

structure ExecutionReordered (v w : Value) : Prop where
  profiles : v.ArrayField w "profiles" (UpTo (SameExcept profileSets))
  backends : v.ArrayField w "backends" List.Perm

structure EvaluatorsReordered (v w : Value) : Prop where
  refs : v.ArrayField w "refs" List.Perm
  versions : v.ArrayField w "versions" List.Perm

/-- Sources that declare the same things in another order. Authorization rules, context sections
    and route orderings are not reordered. -/
structure SourceReordered (root root' : Value) : Prop where
  agents : root.ArrayField root' "agents" (UpTo (SameExcept agentSets))
  routing : ∃ v w, root.get "routing" = some v ∧ root'.get "routing" = some w ∧
    RoutingReordered v w
  execution : ∃ v w, root.get "execution" = some v ∧ root'.get "execution" = some w ∧
    ExecutionReordered v w
  evaluators : ∃ v w, root.get "evaluators" = some v ∧ root'.get "evaluators" = some w ∧
    EvaluatorsReordered v w
  context : root.get "context" = root'.get "context"
  authorization : root.get "authorization" = root'.get "authorization"

/-- A set under one of the reordered keys is the same set. -/
theorem Value.SameExcept.set {sets : List String} {v w : Value} (h : v.SameExcept sets w)
    (key : String) (hkey : key ∈ sets) {texts : List String} (hset : HasSet v key texts) :
    ∃ texts', HasSet w key texts' ∧ texts.Perm texts' := by
  rcases h.lists key hkey with heq | ⟨xs, ys, hxs, hys, hperm⟩
  · exact ⟨texts, ⟨heq ▸ hset.1, hset.2⟩, .refl _⟩
  · rw [hset.1] at hxs
    obtain rfl := Value.arr.inj (Option.some.inj hxs)
    -- what corresponds to texts is again texts
    have hmap : Relation.Comp (List.Forall₂ fun (text : String) v => v = Value.str text) List.Perm
        texts ys := ⟨texts.map .str, by simp [List.forall₂_map_right_iff, List.forall₂_same], hperm⟩
    rw [List.forall₂_comp_perm_eq_perm_comp_forall₂] at hmap
    obtain ⟨texts', hperm', hys'⟩ := hmap
    have hys' : ys = texts'.map .str := by
      have := forall₂_map_eq (f := Value.str) (g := id) (fun _ _ h => h.symm) hys'
      rw [this, List.map_id]
    exact ⟨texts', ⟨by rw [hys, hys']; rfl, hperm'.nodup_iff.mp hset.2⟩, hperm'⟩

theorem Agent.Declared.reordered {entry entry' : Value} {a : Agent}
    (h : Agent.Declared entry a) (hsame : entry.SameExcept agentSets entry') :
    ∃ b, Agent.Declared entry' b ∧ a.Same b := by
  have hother : ∀ key, key ∉ agentSets → entry'.get key = entry.get key := fun key hkey =>
    (hsame.others key hkey).symm
  have hfields : ∀ key ∈ agentSets, key ∈ Compile.agentFields := by decide
  have hsome : ∀ {xs ys : List String}, xs.Perm ys → xs ≠ [] → ys ≠ [] := by
    rintro xs _ hperm hne rfl
    exact hne hperm.eq_nil
  obtain ⟨accepts, haccepts, hacceptsPerm⟩ := hsame.set "accepts" (by decide) h.accepts.1
  obtain ⟨competencies, hcompetencies, hcompetenciesPerm⟩ :=
    hsame.set "competencies" (by decide) h.competencies.1
  obtain ⟨features, hfeatures, hfeaturesPerm⟩ :=
    hsame.set "executionFeatures" (by decide) h.executionFeatures
  obtain ⟨requirements, hrequirements, hrequirementsPerm⟩ :=
    hsame.set "sandboxRequirements" (by decide) h.sandboxRequirements
  obtain ⟨actions, hactions, hactionsPerm⟩ := hsame.set "actions" (by decide) h.actions.1
  refine ⟨{ a with accepts, competencies, executionFeatures := features,
                   sandboxRequirements := requirements, actions }, ?_, ?_⟩
  · exact {
      known := by
        intro key v hv
        by_cases hkey : key ∈ agentSets
        · exact hfields key hkey
        · exact h.known key v (hother key hkey ▸ hv)
      name := h.name.congr (hother "name" (by decide))
      version := h.version.congr (hother "version" (by decide))
      enabled := h.enabled.congr (hother "enabled" (by decide))
      current := h.current.congr (hother "current" (by decide))
      accepts := ⟨haccepts, hsome hacceptsPerm h.accepts.2⟩
      competencies := ⟨hcompetencies, hsome hcompetenciesPerm h.competencies.2⟩
      routePolicy := (hother "routePolicy" (by decide)).trans h.routePolicy
      executionFeatures := hfeatures
      minContextTokens := h.minContextTokens.congr (hother "minContextTokens" (by decide))
      sandboxProfile := (hother "sandboxProfile" (by decide)).trans h.sandboxProfile
      sandboxRequirements := hrequirements
      actions := ⟨hactions, fun x hx => h.actions.2 x (hactionsPerm.mem_iff.mpr hx)⟩
      soul := ⟨h.soul.1.congr (hother "soul" (by decide)), h.soul.2⟩
      behavior := ⟨h.behavior.1.congr (hother "behavior" (by decide)), h.behavior.2⟩ }
  · exact ⟨rfl, rfl, rfl, rfl, hacceptsPerm, hcompetenciesPerm, rfl, hfeaturesPerm, rfl, rfl,
      hrequirementsPerm, hactionsPerm, rfl, rfl⟩

theorem SandboxProfile.Declared.reordered {entry entry' : Value} {p : SandboxProfile}
    (h : SandboxProfile.Declared entry p) (hsame : entry.SameExcept profileSets entry') :
    ∃ q, SandboxProfile.Declared entry' q ∧ p.Same q := by
  have hother : ∀ key, key ∉ profileSets → entry'.get key = entry.get key := fun key hkey =>
    (hsame.others key hkey).symm
  obtain ⟨guarantees, hguarantees, hperm⟩ := hsame.set "guarantees" (by decide) h.guarantees
  refine ⟨{ p with guarantees }, ?_, ⟨rfl, rfl, hperm, rfl, rfl⟩⟩
  exact {
    name := h.name.congr (hother "name" (by decide))
    isolationClass := (hother "isolationClass" (by decide)).trans h.isolationClass
    guarantees := hguarantees
    networkMode := (hother "networkMode" (by decide)).trans h.networkMode
    environmentIdentity := h.environmentIdentity.congr (hother "environmentIdentity" (by decide)) }

namespace Reader

section Declarations

variable {α : Type} {P : Value → α → Prop} {id : α → String} {v w : Value} {key : String}
  {as : List α}

/-- Declarations are compiled along a reordering of their entries. -/
theorem Declarations.reordered {R : Value → Value → Prop} {S : α → α → Prop}
    (hstep : ∀ entry entry' a, P entry a → R entry entry' → ∃ b, P entry' b ∧ S a b)
    (hid : ∀ a b, S a b → id a = id b) (hfield : v.ArrayField w key (UpTo R))
    (h : ∃ entries, v.get key = some (.arr entries) ∧ Declarations P id entries as) :
    ∃ bs, (∃ entries, w.get key = some (.arr entries) ∧ Declarations P id entries bs) ∧
      UpTo S as bs := by
  obtain ⟨xs, ys, hxs, hys, hrel⟩ := hfield
  obtain ⟨entries, hentries, hall, hnodup⟩ := h
  rw [hxs] at hentries
  obtain rfl := Value.arr.inj (Option.some.inj hentries)
  obtain ⟨bs, hbs, hS⟩ := hrel.transport (fun e e' a hP hR => hstep e e' a hP hR) hall
  exact ⟨bs, ⟨ys, hys, hbs, (hS.map hid).nodup_iff.mp hnodup⟩, hS⟩

/-- Declarations whose entries are only permuted. -/
theorem Declarations.permuted (hfield : v.ArrayField w key List.Perm)
    (h : ∃ entries, v.get key = some (.arr entries) ∧ Declarations P id entries as) :
    ∃ bs, (∃ entries, w.get key = some (.arr entries) ∧ Declarations P id entries bs) ∧
      as.Perm bs := by
  obtain ⟨xs, ys, hxs, hys, hperm⟩ := hfield
  have hfield : v.ArrayField w key (UpTo Eq) :=
    ⟨xs, ys, hxs, hys, ys, hperm, List.forall₂_refl ys⟩
  obtain ⟨bs, hbs, zs, hperm', heq⟩ := Declarations.reordered (S := Eq)
    (fun entry _ a hP h => ⟨a, h ▸ hP, rfl⟩) (fun _ _ h => congrArg id h) hfield h
  rw [List.forall₂_eq_eq_eq] at heq
  exact ⟨bs, hbs, heq ▸ hperm'⟩

/-- What a list of entries declares is determined by it. -/
theorem Declarations.unique {one : Nat → List String → Value → Compiles (α × List String)}
    (hone : DeclaresBy one P id) {bs : List α} (heq : v.get key = w.get key)
    (h : ∃ entries, v.get key = some (.arr entries) ∧ Declarations P id entries as)
    (h' : ∃ entries, w.get key = some (.arr entries) ∧ Declarations P id entries bs) : as = bs := by
  obtain ⟨xs, hxs, hxs'⟩ := h
  obtain ⟨ys, hys, hys'⟩ := h'
  rw [heq, hys] at hxs
  obtain rfl := Value.arr.inj (Option.some.inj hxs)
  rw [← declarations_iff hone] at hxs' hys'
  rw [hxs'] at hys'
  exact Except.ok.inj hys'

end Declarations

end Reader

theorem ReferencesDeclared.reordered {v w : Value} {key : String}
    {references : List LogicalAgentVersion} (hsame : ReferencesReordered v w key)
    (h : ReferencesDeclared v key references) :
    ∃ references', ReferencesDeclared w key references' ∧ references.Perm references' := by
  rcases hsame with ⟨hv, hw⟩ | hfield
  · rcases h with ⟨-, rfl⟩ | ⟨entries, hentries, -⟩
    · exact ⟨[], .inl ⟨hw, rfl⟩, .refl _⟩
    · rw [hv] at hentries
      cases hentries
  · rcases h with ⟨hv, -⟩ | h
    · obtain ⟨xs, _, hxs, -⟩ := hfield
      rw [hv] at hxs
      cases hxs
    · obtain ⟨bs, hbs, hperm⟩ := Declarations.permuted hfield h
      exact ⟨bs, .inr hbs, hperm⟩

/-- A section is the one its key names. -/
theorem Value.of_get {root v : Value} {key : String} {P : Value → Prop}
    (h : ∃ v, root.get key = some v ∧ P v) (hv : root.get key = some v) : P v := by
  obtain ⟨w, hw, hP⟩ := h
  exact Option.some.inj (hw.symm.trans hv) ▸ hP

/-- A reordered source declares the same configuration up to order. -/
theorem CompiledConfiguration.Declared.reordered {root root' : Value} {c : CompiledConfiguration}
    (h : CompiledConfiguration.Declared root c) (hsame : SourceReordered root root') :
    ∃ c', CompiledConfiguration.Declared root' c' ∧ c.Reordered c' := by
  obtain ⟨agents, hagents, hagentsSame⟩ := Declarations.reordered (S := Agent.Same)
    (fun _ _ _ ha => ha.reordered)
    (fun a b hab => by rw [Agent.declaredId, Agent.declaredId, hab.name, hab.version])
    hsame.agents h.agents
  obtain ⟨rv, rw', hrv, hrw, hrouting⟩ := hsame.routing
  have hdeclared := Value.of_get h.routing hrv
  obtain ⟨policies, hpolicies, hpoliciesSame⟩ :=
    Declarations.permuted hrouting.policies hdeclared.policies
  obtain ⟨pins, hpins, hpinsSame⟩ := hdeclared.agentPins.reordered hrouting.agentPins
  obtain ⟨exclusions, hexclusions, hexclusionsSame⟩ :=
    hdeclared.agentExclusions.reordered hrouting.agentExclusions
  obtain ⟨xv, xw, hxv, hxw, hexecution⟩ := hsame.execution
  have hdeclared := Value.of_get h.execution hxv
  obtain ⟨profiles, hprofiles, hprofilesSame⟩ := Declarations.reordered (S := SandboxProfile.Same)
    (fun _ _ _ hp => hp.reordered) (fun _ _ hpq => hpq.name) hexecution.profiles hdeclared.profiles
  obtain ⟨backends, hbackends, hbackendsSame⟩ :=
    Declarations.permuted hexecution.backends hdeclared.backends
  obtain ⟨ev, ew, hev, hew, hevaluators⟩ := hsame.evaluators
  have hdeclared := Value.of_get h.evaluators hev
  obtain ⟨refs, hrefs, hrefsSame⟩ := Declarations.permuted hevaluators.refs hdeclared.refs
  obtain ⟨versions, hversions, hversionsSame⟩ :=
    Declarations.permuted hevaluators.versions hdeclared.versions
  refine ⟨⟨⟨agents⟩, ⟨policies, pins, exclusions⟩, ⟨profiles, backends⟩, ⟨refs, versions⟩, c.context,
    c.authorization⟩, ?_, ⟨hagentsSame, hpoliciesSame, hpinsSame, hexclusionsSame, hprofilesSame,
    hbackendsSame, hrefsSame, hversionsSame, rfl, rfl⟩⟩
  exact ⟨hagents, ⟨rw', hrw, hpolicies, hpins, hexclusions⟩, ⟨xw, hxw, hprofiles, hbackends⟩,
    ⟨ew, hew, hversions, hrefs⟩, hsame.context ▸ h.context, hsame.authorization ▸ h.authorization⟩

theorem Agent.Suits.same {a b : Agent} {p q : SandboxProfile} (h : a.Suits p) (hab : a.Same b)
    (hpq : p.Same q) : b.Suits q := by
  refine ⟨fun required hrequired => ?_, ?_⟩
  · exact hpq.guarantees.mem_iff.mp (h.1 required (hab.sandboxRequirements.mem_iff.mpr hrequired))
  · rintro ⟨action, haction, hcontrol⟩
    obtain ⟨hisolates, hasserts⟩ := h.2 ⟨action, hab.actions.mem_iff.mpr haction, hcontrol⟩
    exact ⟨hpq.isolationClass ▸ hisolates, hpq.guarantees.mem_iff.mp hasserts⟩

theorem CompiledConfiguration.Consistent.reordered {c c' : CompiledConfiguration}
    (h : c.Consistent) (hsame : c.Reordered c')
    (hnames : (c.execution.profiles.map SandboxProfile.name).Nodup) : c'.Consistent := by
  have hids : (c.agents.agents.map Agent.identity).Perm (c'.agents.agents.map Agent.identity) :=
    hsame.agents.map fun _ _ hab => hab.identity
  have hcurrent : ((c.agents.agents.filter Agent.current).map Agent.name).Perm
      ((c'.agents.agents.filter Agent.current).map Agent.name) := by
    have hpairs : ∀ as : List Agent, (as.filter Agent.current).map Agent.name =
        ((as.map fun a => (a.current, a.name)).filter Prod.fst).map Prod.snd := by
      intro as
      rw [List.filter_map, List.map_map]
      rfl
    rw [hpairs, hpairs]
    refine ((hsame.agents.map fun a b hab => ?_).filter Prod.fst).map Prod.snd
    exact Prod.ext hab.current hab.name
  have hprofileNames : (c.execution.profiles.map SandboxProfile.name).Perm
      (c'.execution.profiles.map SandboxProfile.name) := hsame.profiles.map fun _ _ hpq => hpq.name
  have hnames' := hprofileNames.nodup_iff.mp hnames
  have hpolicies := hsame.policies.map RoutePolicy.name
  have hversions := hsame.versions.map EvaluatorVersion.id
  refine ⟨hids.nodup_iff.mp h.distinct, hcurrent.nodup_iff.mp h.oneCurrent, fun b hb => ?_,
    fun b hb => ?_, fun r hr => ?_, fun r hr => ?_, fun r hr => ?_, fun e he => ?_, fun r hr => ?_,
    hsame.context ▸ h.dropped, hsame.context ▸ h.preloaded⟩
  · obtain ⟨a, ha, hab⟩ := hsame.agents.mem_right hb
    exact hab.routePolicy ▸ hpolicies.mem_iff.mp (h.routed a ha)
  · obtain ⟨a, ha, hab⟩ := hsame.agents.mem_right hb
    obtain ⟨p, hp, hsuits⟩ := h.profiled a ha
    rw [find?_key_iff hnames] at hp
    obtain ⟨q, hq, hpq⟩ := hsame.profiles.mem_left hp.1
    refine ⟨q, (find?_key_iff hnames').mpr ⟨hq, ?_⟩, hsuits.same hab hpq⟩
    rw [← hpq.name, hp.2, hab.sandboxProfile]
  · exact hids.mem_iff.mp (h.pins r (hsame.agentPins.mem_iff.mpr hr))
  · exact hids.mem_iff.mp (h.exclusions r (hsame.agentExclusions.mem_iff.mpr hr))
  · rw [← hsame.agentExclusions.mem_iff]
    exact h.disjoint r (hsame.agentPins.mem_iff.mpr hr)
  · exact hprofileNames.mem_iff.mp (h.evaluatorProfiles e (hsame.versions.mem_iff.mpr he))
  · exact hversions.mem_iff.mp (h.evaluatorVersions r (hsame.refs.mem_iff.mpr hr))

/-- The names of the route policies of a compiled configuration are distinct. -/
theorem compile_policies {source : String} {c : CompiledConfiguration}
    (h : compile source = .ok c) : (c.routing.policies.map RoutePolicy.name).Nodup := by
  obtain ⟨_, -, hdeclared, -⟩ := compile_iff.mp h
  obtain ⟨_, -, hr⟩ := hdeclared.routing
  obtain ⟨_, -, -, hnames⟩ := hr.policies
  exact hnames

/-- With a hash without collisions, compiled configurations with equal component digests are the
    same up to order. -/
theorem compile_componentDigests {D : Type} [DigestScheme D] (hD : Collisionless D)
    {source source' : String} {c c' : CompiledConfiguration} (hc : compile source = .ok c)
    (hc' : compile source' = .ok c')
    (h : (c.componentDigests : ComponentDigests D) = c'.componentDigests) :
    c.Reordered c' ∧ c.OrderKept c' :=
  CompiledConfiguration.componentDigests_same hD (compile_sound hc) (compile_sound hc')
    (compile_policies hc) h

namespace Sample

/-- Sections that declare nothing. -/
def plainSections : List (String × Value) := [
  ("evaluators", .object [("versions", .arr []), ("refs", .arr [])]),
  ("context", .object [("schemaVersion", .integer 1), ("memoryLimitTokens", .integer 1),
    ("workspaceOrientationLimitTokens", .integer 1), ("safetyMarginTokens", .integer 1),
    ("mandatorySections", .arr []), ("preloadPriority", .arr []), ("optionalDropOrder", .arr [])]),
  ("authorization", .object [("schemaVersion", .integer 1), ("rules", .arr [])])]

def policyEntry (name : String) : Value :=
  .object [("name", .str name), ("ordering", .arr []), ("tieBreak", .str "agentId")]

def named (policies backends : List String) : CompiledConfiguration :=
  ⟨⟨[]⟩, ⟨policies.map fun name => ⟨name, 0, [], "agentId", true⟩, [], []⟩,
    ⟨[], backends.map fun name => ⟨name, true, "s"⟩⟩, ⟨[], []⟩, ⟨1, [], [], 1, 1, 1, []⟩, ⟨1, []⟩⟩

theorem plainSections_wf : ∀ p ∈ plainSections, p.2.Wf := by
  unfold plainSections
  simp only [List.forall_mem_cons]
  refine ⟨wf_object ?_, wf_object ?_, wf_object ?_, nofun⟩ <;>
    simp [Value.Wf, Value.WfValues, IsI64]

theorem policies_wf (policies : List String) : (Value.arr (policies.map policyEntry)).Wf :=
  wf_map fun _ _ => wf_object (by simp [Value.Wf, Value.WfValues])

end Sample

end Pantheon
