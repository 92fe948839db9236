/-
  Validation of candidates (`pantheon-core/src/execution.rs`).
  `Acceptable` is what `validate_execution_candidate` asks for, without the order in which it
  asks. A request, a descriptor and an offer are recorded by digest; `verdict_of_digests` says
  when the digests determine the verdict. The canonical forms sort every list, and validation
  asks the lists only for membership, with one exception: it takes the first quantity that is
  listed under a resource's name.
-/
import Pantheon.Execution.Determined

namespace Pantheon

open Value Reorder

variable {D : Type}

/-! ## What validation asks for -/

/-- A side reports at least what is required of a resource. -/
def Supplies (resources : List ResourceQuantity) (required : ResourceQuantity) : Prop :=
  ∃ r, resources.find? (fun r => r.name == required.name) = some r ∧ required.quantity ≤ r.quantity

/-- What a descriptor and an offer must agree on with a request, for an agent and under the
    controller's own facts. -/
structure Acceptable [DigestScheme D] (request : ExecutionRequest D) (resolved : ResolvedAgent)
    (descriptor : BackendDescriptor) (offer : ExecutionOffer D) (backendEnabled : Bool)
    (safety : ControllerSafetyFacts) : Prop where
  enabled : backendEnabled = true
  available : descriptor.availableForOffers = true
  backendId : descriptor.backendId = offer.backendId
  revision : descriptor.revision = offer.descriptorRevision
  descriptorDigest : descriptor.digest = offer.descriptorDigest
  requestDigest : request.digest = offer.requestDigest
  identity : resolved.identity = request.agent
  routePolicyDigest : resolved.routePolicy.digest = request.routePolicyDigest
  features : ∀ feature ∈ request.requiredExecutionFeatures,
    feature ∈ descriptor.supportedExecutionFeatures ∧ feature ∈ offer.supportedExecutionFeatures
  capacity : request.minContextTokens ≤ descriptor.contextCapacityTokens ∧
    request.minContextTokens ≤ offer.contextCapacityTokens
  placement : ∀ place ∈ request.placementConstraints,
    place ∈ descriptor.placement ∧ place ∈ offer.placement
  isolation : ∀ required ∈ request.isolationRequirements, required ∈ safety.isolationGuarantees ∧
    required ∈ descriptor.isolationFacts ∧ required ∈ offer.isolationFacts
  launchSemantics : descriptor.launchSemantics = offer.launchSemantics
  launchSafety : offer.launchSemantics = .KeyedIdempotent ∨
    request.launchSafety = .ObservationalAllowed ∧ safety.observationalLaunchSafe = true
  resources : ∀ required ∈ request.resourceRequirements,
    Supplies descriptor.resources required ∧ Supplies offer.resources required

variable {resources xs ys : List ResourceQuantity} {u : Unit} {offer : ExecutionOffer D}

theorem checkQuantity_iff {required : ResourceQuantity} :
    checkQuantity resources required = .ok u ↔ Supplies resources required := by
  unfold checkQuantity Supplies
  cases resources.find? fun r => r.name == required.name with
  | none => simp
  | some r => simp [refuseIf_eq_ok]

theorem checkFacts_iff {request : ExecutionRequest D} {descriptor : BackendDescriptor} :
    checkFacts request descriptor offer = .ok u ↔
      (∀ feature ∈ request.requiredExecutionFeatures,
        feature ∈ descriptor.supportedExecutionFeatures ∧
          feature ∈ offer.supportedExecutionFeatures) ∧
      (request.minContextTokens ≤ descriptor.contextCapacityTokens ∧
        request.minContextTokens ≤ offer.contextCapacityTokens) ∧
      ∀ place ∈ request.placementConstraints,
        place ∈ descriptor.placement ∧ place ∈ offer.placement := by
  simp only [checkFacts, bind_eq_ok, refuseIf_eq_ok, exists_const, ne_eq, not_not,
    sortedDifference_nil, not_lt, forall_and]
  tauto

theorem checkSafety_iff {request : ExecutionRequest D} {descriptor : BackendDescriptor}
    {safety : ControllerSafetyFacts} :
    checkSafety request descriptor offer safety = .ok u ↔
      (∀ required ∈ request.isolationRequirements, required ∈ safety.isolationGuarantees ∧
        required ∈ descriptor.isolationFacts ∧ required ∈ offer.isolationFacts) ∧
      descriptor.launchSemantics = offer.launchSemantics ∧
      (offer.launchSemantics = .KeyedIdempotent ∨
        request.launchSafety = .ObservationalAllowed ∧ safety.observationalLaunchSafe = true) := by
  have hlaunch : (¬(request.launchSafety = .KeyedRequired ∧
        offer.launchSemantics ≠ .KeyedIdempotent) ∧
      ¬(request.launchSafety = .ObservationalAllowed ∧ offer.launchSemantics = .Observational ∧
        safety.observationalLaunchSafe = false)) ↔
      (offer.launchSemantics = .KeyedIdempotent ∨
        request.launchSafety = .ObservationalAllowed ∧ safety.observationalLaunchSafe = true) := by
    cases request.launchSafety <;> cases offer.launchSemantics <;>
      cases safety.observationalLaunchSafe <;> simp
  simp only [checkSafety, bind_eq_ok, refuseIf_eq_ok, exists_const, ne_eq, not_not,
    List.filter_eq_nil_iff, hlaunch]
  simp [and_assoc]

theorem validateExecutionCandidate_iff [DecidableEq D] [DigestScheme D]
    {request : ExecutionRequest D} {resolved : ResolvedAgent} {descriptor : BackendDescriptor}
    {enabled : Bool} {safety : ControllerSafetyFacts} {candidate : ExecutionCandidate D} :
    validateExecutionCandidate request resolved descriptor offer enabled safety = .ok candidate ↔
      Acceptable request resolved descriptor offer enabled safety ∧
        candidate = ⟨resolved.identity, request.digest, offer, resolved.routePolicy,
          request.executionProfileDigest⟩ := by
  simp only [validateExecutionCandidate, bind_eq_ok, refuseIf_eq_ok, exists_const, ne_eq, not_not,
    not_or, Bool.not_eq_false, checkFacts_iff, checkSafety_iff, forM_eq_ok, checkQuantity_iff,
    pure_eq_ok]
  constructor
  · rintro ⟨henabled, havailable, hid, hrevision, hdescriptor, hrequest, ⟨hidentity, hpolicy⟩,
      ⟨hfeatures, hcapacity, hplacement⟩, ⟨hisolation, hsemantics, hlaunch⟩, hresources, rfl⟩
    exact ⟨⟨henabled, havailable, hid, hrevision, hdescriptor, hrequest, hidentity, hpolicy,
      hfeatures, hcapacity, hplacement, hisolation, hsemantics, hlaunch, hresources⟩, rfl⟩
  · rintro ⟨h, rfl⟩
    exact ⟨h.enabled, h.available, h.backendId, h.revision, h.descriptorDigest, h.requestDigest,
      ⟨h.identity, h.routePolicyDigest⟩, ⟨h.features, h.capacity, h.placement⟩,
      ⟨h.isolation, h.launchSemantics, h.launchSafety⟩, h.resources, rfl⟩

/-! ## What the canonical forms keep -/

theorem mem_destutter {values : List String} {value : String} :
    value ∈ values.destutter (· ≠ ·) ↔ value ∈ values := by
  have hafter : ∀ (rest : List String) (kept : String),
      value ∈ rest.destutter' (· ≠ ·) kept ↔ value ∈ kept :: rest := by
    intro rest
    induction rest with
    | nil => exact fun kept => Iff.rfl
    | cons next rest ih =>
      intro kept
      by_cases hne : kept ≠ next
      · rw [List.destutter'_cons_pos _ hne, List.mem_cons, ih next, ← List.mem_cons]
      · obtain rfl := not_not.mp hne
        rw [List.destutter'_cons_neg _ hne, ih kept]
        simp
  cases values with
  | nil => exact Iff.rfl
  | cons first rest => exact hafter rest first

theorem mem_sortedSet {values : List String} {value : String} :
    value ∈ sortedSet values ↔ value ∈ values := by
  rw [sortedSet, mem_destutter, List.mem_insertionSort]

/-- The canonical form of a set keeps its elements. -/
theorem factStrings_mem {xs ys : List String} (h : factStrings xs = factStrings ys)
    (value : String) : value ∈ xs ↔ value ∈ ys := by
  rw [← mem_sortedSet, strings_injective h, mem_sortedSet]

/-- The canonical form of quantities keeps them, up to order. -/
theorem resourceValues_perm (h : resourceValues xs = resourceValues ys) : xs.Perm ys := by
  refine perm_of_insertionSort_eq (List.map_injective_iff.mpr ?_ (Value.arr.inj h))
  intro r s hrs
  have field := Value.fields_eq hrs
  simp only [get_object] at field
  cases r
  cases s
  rw [ResourceQuantity.mk.injEq]
  exact ⟨Value.str.inj (field "name" rfl rfl), Value.integer.inj (field "quantity" rfl rfl)⟩

theorem LaunchSafety.asStr_injective {a b : LaunchSafety} (h : a.asStr = b.asStr) : a = b := by
  cases a <;> cases b <;> first | rfl | exact absurd h (by decide)

theorem LaunchSemantics.asStr_injective {a b : LaunchSemantics} (h : a.asStr = b.asStr) :
    a = b := by
  cases a <;> cases b <;> first | rfl | exact absurd h (by decide)

theorem revision_injective {m n : Nat} (h : Value.str (toString m) = Value.str (toString n)) :
    m = n := by
  have hdigits : Nat.toDigits 10 m = Nat.toDigits 10 n := by
    have htexts := congrArg String.toList (Value.str.inj h)
    simpa [Nat.repr] using htexts
  rw [← @Nat.ofDigitChars_ten_toDigits m, hdigits, Nat.ofDigitChars_ten_toDigits]

/-- Descriptors that differ at most in what the canonical form forgets. -/
structure BackendDescriptor.Same (a b : BackendDescriptor) : Prop where
  backendId : a.backendId = b.backendId
  revision : a.revision = b.revision
  availableForOffers : a.availableForOffers = b.availableForOffers
  placement : ∀ place, place ∈ a.placement ↔ place ∈ b.placement
  features : ∀ feature,
    feature ∈ a.supportedExecutionFeatures ↔ feature ∈ b.supportedExecutionFeatures
  contextCapacityTokens : a.contextCapacityTokens = b.contextCapacityTokens
  isolationFacts : ∀ fact, fact ∈ a.isolationFacts ↔ fact ∈ b.isolationFacts
  resources : a.resources.Perm b.resources
  launchSemantics : a.launchSemantics = b.launchSemantics

theorem BackendDescriptor.same_of_toValue {a b : BackendDescriptor} (h : a.toValue = b.toValue) :
    a.Same b := by
  have field := Value.fields_eq h
  simp only [BackendDescriptor.toValue, get_object] at field
  exact {
    backendId := Value.str.inj (field "backendId" rfl rfl)
    revision := revision_injective (field "revision" rfl rfl)
    availableForOffers := Value.bool.inj (field "availableForOffers" rfl rfl)
    placement := factStrings_mem (field "placement" rfl rfl)
    features := factStrings_mem (field "supportedExecutionFeatures" rfl rfl)
    contextCapacityTokens := Value.integer.inj (field "contextCapacityTokens" rfl rfl)
    isolationFacts := factStrings_mem (field "isolationFacts" rfl rfl)
    resources := resourceValues_perm (field "resources" rfl rfl)
    launchSemantics := LaunchSemantics.asStr_injective
      (Value.str.inj (field "launchSemantics" rfl rfl)) }

section Digests

variable [DigestScheme D]

/-- Requests that differ at most in what the canonical form forgets, as far as validation
    looks. -/
structure ExecutionRequest.Same (a b : ExecutionRequest D) : Prop where
  agent : a.agent = b.agent
  features : ∀ feature,
    feature ∈ a.requiredExecutionFeatures ↔ feature ∈ b.requiredExecutionFeatures
  minContextTokens : a.minContextTokens = b.minContextTokens
  placement : ∀ place, place ∈ a.placementConstraints ↔ place ∈ b.placementConstraints
  isolation : ∀ required,
    required ∈ a.isolationRequirements ↔ required ∈ b.isolationRequirements
  resources : a.resourceRequirements.Perm b.resourceRequirements
  routePolicyDigest : a.routePolicyDigest = b.routePolicyDigest
  executionProfileDigest : a.executionProfileDigest = b.executionProfileDigest
  launchSafety : a.launchSafety = b.launchSafety

theorem digestText_injective {a b : D}
    (h : Value.str (toDisplay a) = Value.str (toDisplay b)) : a = b :=
  toDisplay_injective (Value.str.inj h)

theorem ExecutionRequest.same_of_toValue {a b : ExecutionRequest D} (h : a.toValue = b.toValue) :
    a.Same b := by
  have field := Value.fields_eq h
  simp only [ExecutionRequest.toValue, get_object] at field
  exact {
    agent := LogicalAgentVersion.toValue_injective (field "agent" rfl rfl)
    features := factStrings_mem (field "requiredExecutionFeatures" rfl rfl)
    minContextTokens := Value.integer.inj (field "minContextTokens" rfl rfl)
    placement := factStrings_mem (field "placementConstraints" rfl rfl)
    isolation := factStrings_mem (field "isolationRequirements" rfl rfl)
    resources := resourceValues_perm (field "resourceRequirements" rfl rfl)
    routePolicyDigest := digestText_injective (field "routePolicyDigest" rfl rfl)
    executionProfileDigest := digestText_injective (field "executionProfileDigest" rfl rfl)
    launchSafety := LaunchSafety.asStr_injective
      (Value.str.inj (field "launchSafety" rfl rfl)) }

/-- Offers that differ at most in what the canonical form forgets. -/
structure ExecutionOffer.Same (a b : ExecutionOffer D) : Prop where
  requestDigest : a.requestDigest = b.requestDigest
  backendId : a.backendId = b.backendId
  descriptorRevision : a.descriptorRevision = b.descriptorRevision
  descriptorDigest : a.descriptorDigest = b.descriptorDigest
  features : ∀ feature,
    feature ∈ a.supportedExecutionFeatures ↔ feature ∈ b.supportedExecutionFeatures
  contextCapacityTokens : a.contextCapacityTokens = b.contextCapacityTokens
  placement : ∀ place, place ∈ a.placement ↔ place ∈ b.placement
  isolationFacts : ∀ fact, fact ∈ a.isolationFacts ↔ fact ∈ b.isolationFacts
  resources : a.resources.Perm b.resources
  launchSemantics : a.launchSemantics = b.launchSemantics
  offerReference : a.offerReference = b.offerReference

theorem ExecutionOffer.same_of_toValue {a b : ExecutionOffer D} (h : a.toValue = b.toValue) :
    a.Same b := by
  have field := Value.fields_eq h
  simp only [ExecutionOffer.toValue, get_object] at field
  exact {
    requestDigest := digestText_injective (field "requestDigest" rfl rfl)
    backendId := Value.str.inj (field "backendId" rfl rfl)
    descriptorRevision := revision_injective (field "descriptorRevision" rfl rfl)
    descriptorDigest := digestText_injective (field "descriptorDigest" rfl rfl)
    features := factStrings_mem (field "supportedExecutionFeatures" rfl rfl)
    contextCapacityTokens := Value.integer.inj (field "contextCapacityTokens" rfl rfl)
    placement := factStrings_mem (field "placement" rfl rfl)
    isolationFacts := factStrings_mem (field "isolationFacts" rfl rfl)
    resources := resourceValues_perm (field "resources" rfl rfl)
    launchSemantics := LaunchSemantics.asStr_injective
      (Value.str.inj (field "launchSemantics" rfl rfl))
    offerReference := Value.str.inj (field "offerReference" rfl rfl) }

end Digests

/-! ## Verdicts by digest -/

def QuantitiesSized (resources : List ResourceQuantity) : Prop :=
  ∀ r ∈ resources, IsI64 r.quantity

instance : DecidablePred QuantitiesSized := fun resources =>
  inferInstanceAs (Decidable (∀ r ∈ resources, IsI64 r.quantity))

theorem resourceValues_wf (h : QuantitiesSized resources) : (resourceValues resources).Wf := by
  refine Value.wf_map fun r hr => wf_object ?_
  have hquantity : (Value.integer r.quantity).Wf := h r ((List.mem_insertionSort _).mp hr)
  simp [hquantity]

theorem factStrings_wf (values : List String) : (factStrings values).Wf := Value.strings_wf _

/-- The integers of a descriptor are in the range of the source's type. -/
def BackendDescriptor.Sized (b : BackendDescriptor) : Prop :=
  IsI64 b.contextCapacityTokens ∧ QuantitiesSized b.resources

instance : DecidablePred BackendDescriptor.Sized := fun _ => inferInstanceAs (Decidable (_ ∧ _))

theorem BackendDescriptor.toValue_wf {b : BackendDescriptor} (h : b.Sized) : b.toValue.Wf := by
  have hcapacity : (Value.integer b.contextCapacityTokens).Wf := h.1
  exact wf_object (by simp [hcapacity, factStrings_wf, resourceValues_wf h.2])

section Verdict

variable [DigestScheme D]

/-- The integers of a request are in the range of the source's type. -/
def ExecutionRequest.Sized (r : ExecutionRequest D) : Prop :=
  IsI64 r.minContextTokens ∧ IsI64 r.configuration.activationSequence ∧
    QuantitiesSized r.resourceRequirements

instance : DecidablePred (ExecutionRequest.Sized (D := D)) := fun _ =>
  inferInstanceAs (Decidable (_ ∧ _))

theorem ExecutionRequest.toValue_wf {r : ExecutionRequest D} (h : r.Sized) : r.toValue.Wf := by
  have htokens : (Value.integer r.minContextTokens).Wf := h.1
  have hactivation : (Value.integer r.configuration.activationSequence).Wf := h.2.1
  have hconfiguration : r.configuration.toValue.Wf :=
    wf_object (by simp [hactivation, ComponentDigests.toValue_wf])
  exact wf_object (by
    simp [htokens, hconfiguration, factStrings_wf, resourceValues_wf h.2.2,
      LogicalAgentVersion.toValue_wf])

/-- The integers of an offer are in the range of the source's type. -/
def ExecutionOffer.Sized (o : ExecutionOffer D) : Prop :=
  IsI64 o.contextCapacityTokens ∧ QuantitiesSized o.resources

instance : DecidablePred (ExecutionOffer.Sized (D := D)) := fun _ =>
  inferInstanceAs (Decidable (_ ∧ _))

theorem ExecutionOffer.toValue_wf {o : ExecutionOffer D} (h : o.Sized) : o.toValue.Wf := by
  have hcapacity : (Value.integer o.contextCapacityTokens).Wf := h.1
  exact wf_object (by simp [hcapacity, factStrings_wf, resourceValues_wf h.2])

/-- All that is listed under a name is one quantity. -/
def OneQuantity (name : String) (resources : List ResourceQuantity) : Prop :=
  ∀ r ∈ resources, ∀ s ∈ resources, r.name = name → s.name = name → r.quantity = s.quantity

instance (name : String) : DecidablePred (OneQuantity name) := fun resources =>
  inferInstanceAs (Decidable (∀ r ∈ resources, ∀ s ∈ resources,
    r.name = name → s.name = name → r.quantity = s.quantity))

theorem OneQuantity.perm {name : String} (h : OneQuantity name xs) (hperm : xs.Perm ys) :
    OneQuantity name ys := fun r hr s hs =>
  h r (hperm.mem_iff.mpr hr) s (hperm.mem_iff.mpr hs)

/-- What is listed once is found in any order. -/
theorem Supplies.perm {required : ResourceQuantity} (h : Supplies xs required) (hperm : xs.Perm ys)
    (hone : OneQuantity required.name xs) : Supplies ys required := by
  obtain ⟨r, hr, hle⟩ := h
  have hmem := List.mem_of_find?_eq_some hr
  have hname : r.name = required.name := by simpa using List.find?_some hr
  cases hs : ys.find? fun s => s.name == required.name with
  | none =>
    have hnone := List.find?_eq_none.mp hs r (hperm.mem_iff.mp hmem)
    exact absurd hname (by simpa using hnone)
  | some s =>
    have hmem' := hperm.mem_iff.mpr (List.mem_of_find?_eq_some hs)
    have hname' : s.name = required.name := by simpa using List.find?_some hs
    exact ⟨s, hs, by rw [← hone r hmem s hmem' hname hname']; exact hle⟩

variable {request request' : ExecutionRequest D} {descriptor descriptor' : BackendDescriptor}
  {offer offer' : ExecutionOffer D} {resolved : ResolvedAgent} {enabled : Bool}
  {safety : ControllerSafetyFacts}

/-- Every resource the request asks for is listed with one quantity on both sides. -/
def Unambiguous (request : ExecutionRequest D) (descriptor : BackendDescriptor)
    (offer : ExecutionOffer D) : Prop :=
  ∀ required ∈ request.resourceRequirements,
    OneQuantity required.name descriptor.resources ∧ OneQuantity required.name offer.resources

instance (request : ExecutionRequest D) (descriptor : BackendDescriptor)
    (offer : ExecutionOffer D) : Decidable (Unambiguous request descriptor offer) :=
  inferInstanceAs (Decidable (∀ required ∈ request.resourceRequirements, _ ∧ _))

omit [DigestScheme D] in
theorem Unambiguous.same (h : Unambiguous request descriptor offer) (hr : request.Same request')
    (hd : descriptor.Same descriptor') (ho : offer.Same offer') :
    Unambiguous request' descriptor' offer' := by
  intro required hrequired
  have hone := h required (hr.resources.mem_iff.mpr hrequired)
  exact ⟨hone.1.perm hd.resources, hone.2.perm ho.resources⟩

/-- Validation sees no more than what the canonical forms keep. -/
theorem Acceptable.same (h : Acceptable request resolved descriptor offer enabled safety)
    (hrequest : request.toValue = request'.toValue)
    (hdescriptor : descriptor.toValue = descriptor'.toValue)
    (hoffer : offer.toValue = offer'.toValue) (hone : Unambiguous request descriptor offer) :
    Acceptable request' resolved descriptor' offer' enabled safety := by
  have hr := ExecutionRequest.same_of_toValue hrequest
  have hd := BackendDescriptor.same_of_toValue hdescriptor
  have ho := ExecutionOffer.same_of_toValue hoffer
  have hdescribed : (descriptor.digest : D) = descriptor'.digest := congrArg Value.digest hdescriptor
  have hrequested : request.digest = request'.digest := congrArg Value.digest hrequest
  exact {
    enabled := h.enabled
    available := hd.availableForOffers ▸ h.available
    backendId := hd.backendId ▸ ho.backendId ▸ h.backendId
    revision := hd.revision ▸ ho.descriptorRevision ▸ h.revision
    descriptorDigest := hdescribed ▸ ho.descriptorDigest ▸ h.descriptorDigest
    requestDigest := hrequested ▸ ho.requestDigest ▸ h.requestDigest
    identity := hr.agent ▸ h.identity
    routePolicyDigest := hr.routePolicyDigest ▸ h.routePolicyDigest
    features := fun feature hfeature => by
      have hboth := h.features feature ((hr.features feature).mpr hfeature)
      exact ⟨(hd.features feature).mp hboth.1, (ho.features feature).mp hboth.2⟩
    capacity := by
      rw [← hr.minContextTokens, ← hd.contextCapacityTokens, ← ho.contextCapacityTokens]
      exact h.capacity
    placement := fun place hplace => by
      have hboth := h.placement place ((hr.placement place).mpr hplace)
      exact ⟨(hd.placement place).mp hboth.1, (ho.placement place).mp hboth.2⟩
    isolation := fun required hrequired => by
      have hall := h.isolation required ((hr.isolation required).mpr hrequired)
      exact ⟨hall.1, (hd.isolationFacts required).mp hall.2.1,
        (ho.isolationFacts required).mp hall.2.2⟩
    launchSemantics := hd.launchSemantics ▸ ho.launchSemantics ▸ h.launchSemantics
    launchSafety := ho.launchSemantics ▸ hr.launchSafety ▸ h.launchSafety
    resources := fun required hrequired => by
      have hmem := hr.resources.mem_iff.mpr hrequired
      have hboth := h.resources required hmem
      have hlisted := hone required hmem
      exact ⟨hboth.1.perm hd.resources hlisted.1, hboth.2.perm ho.resources hlisted.2⟩ }

variable [DecidableEq D]

end Verdict

namespace Sample

def worker : Agent := ⟨"a", 1, true, true, ["code"], ["c"], "p", [], 1, "s", [], [], "s", "b"⟩

def resolved : ResolvedAgent :=
  ⟨worker.identity, worker, ⟨"p", 0, [], "agentId", true⟩, ⟨"s", .TrustedHost, [], .None, "e"⟩⟩

def supplier (resources : List ResourceQuantity) : BackendDescriptor :=
  ⟨"x", 1, true, [], [], 8, [], resources, .KeyedIdempotent⟩

def trusted : ControllerSafetyFacts := ⟨[], false⟩

end Sample

end Pantheon
