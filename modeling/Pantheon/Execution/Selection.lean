/-
  Selection among accepted candidates (`pantheon-core/src/execution.rs`).
  `compare_candidates` takes its preference keys and its tie-break from the left candidate's
  policy. It reaches them only between candidates whose policies have one name, and the policies
  of a compiled configuration have distinct names, so on the candidates of one configuration it is
  a total preorder all the same (`compareCandidates_preorder`). Candidates it does not tell apart
  have one digest, so the order of the list decides nothing that is recorded.
-/
import Pantheon.Execution.Candidates

namespace Pantheon

open Value Reorder Comparison

variable {D : Type} [DigestScheme D]

/-! ## The comparison, key by key -/

/-- The order that a policy's tie-break names. -/
def tieBreakOrder (tieBreak : String) (left right : ExecutionCandidate D) : Ordering :=
  match tieBreak with
  | "backendId" => compare left.offer.backendId right.offer.backendId
  | "agentId" => compareAgents left.agent right.agent
  | _ => .eq

/-- The order of candidates that neither preferences nor the tie-break tell apart. -/
def identityOrder (left right : ExecutionCandidate D) : Ordering :=
  (compareAgents left.agent right.agent).then <|
    (compare left.offer.backendId right.offer.backendId).then <|
    (compare left.offer.descriptorRevision right.offer.descriptorRevision).then <|
    compare (DigestScheme.asBytes (left.offer.digest : D))
      (DigestScheme.asBytes (right.offer.digest : D))

/-- The order under one policy. -/
def policyOrder (policy : RoutePolicy) (left right : ExecutionCandidate D) : Ordering :=
  (comparePreferences policy.ordering left right).then <|
    (tieBreakOrder policy.tieBreak left right).then (identityOrder left right)

theorem compareCandidates_eq (left right : ExecutionCandidate D) :
    compareCandidates left right =
      (compare right.routePolicy.priority left.routePolicy.priority).then
        ((compare left.routePolicy.name right.routePolicy.name).then
          (policyOrder left.routePolicy left right)) := rfl

variable {P : ExecutionCandidate D → Prop}

omit [DigestScheme D] in
theorem compareAgents_preorder : PreorderOn P fun x y => compareAgents x.agent y.agent :=
  (PreorderOn.key fun x : ExecutionCandidate D => x.agent.name).lex
    (.key fun x : ExecutionCandidate D => x.agent.version)

omit [DigestScheme D] in
theorem comparePreferences_preorder (ordering : List String) :
    PreorderOn P (comparePreferences ordering) := by
  induction ordering with
  | nil => exact .const
  | cons key ordering ih =>
    refine PreorderOn.lex ?_ ih
    split
    · exact .descending fun x : ExecutionCandidate D => x.offer.contextCapacityTokens
    · exact .const

omit [DigestScheme D] in
theorem tieBreakOrder_preorder (tieBreak : String) :
    PreorderOn P (tieBreakOrder tieBreak) := by
  unfold tieBreakOrder
  split
  · exact .key fun x : ExecutionCandidate D => x.offer.backendId
  · exact compareAgents_preorder
  · exact .const

theorem identityOrder_preorder : PreorderOn P identityOrder :=
  compareAgents_preorder.lex <|
    (PreorderOn.key fun x : ExecutionCandidate D => x.offer.backendId).lex <|
    (PreorderOn.key fun x : ExecutionCandidate D => x.offer.descriptorRevision).lex <|
    .key fun x : ExecutionCandidate D => DigestScheme.asBytes (x.offer.digest : D)

theorem policyOrder_preorder (policy : RoutePolicy) : PreorderOn P (policyOrder policy) :=
  (comparePreferences_preorder policy.ordering).lex
    ((tieBreakOrder_preorder policy.tieBreak).lex identityOrder_preorder)

/-- Where policies are told apart by their names, candidates are totally preordered. -/
theorem compareCandidates_preorder
    (hpolicy : ∀ x y, P x → P y → x.routePolicy.name = y.routePolicy.name →
      x.routePolicy = y.routePolicy) : PreorderOn P compareCandidates := by
  have hpriority : PreorderOn P fun x y => compare y.routePolicy.priority x.routePolicy.priority :=
    .descending fun x : ExecutionCandidate D => x.routePolicy.priority
  have hname : PreorderOn P fun x y => compare x.routePolicy.name y.routePolicy.name :=
    .key fun x : ExecutionCandidate D => x.routePolicy.name
  have hnamed : PreorderOn P fun x y => (compare x.routePolicy.name y.routePolicy.name).then
      (policyOrder x.routePolicy x y) := by
    refine hname.andThen fun a ha => ?_
    -- candidates with the name of one policy all have that policy
    refine (policyOrder_preorder a.routePolicy).congr fun x y hx _ => ?_
    rw [hpolicy a x ha hx.1 (Std.LawfulEqCmp.eq_of_compare hx.2)]
  exact hpriority.lex hnamed

/-! ## Candidates of one configuration -/

variable [DecidableEq D]

/-- A candidate accepted for a request that was built from a configuration, for an agent that
    resolution under it found eligible. -/
def AcceptedUnder (c : CompiledConfiguration) (candidate : ExecutionCandidate D) : Prop :=
  ∃ taskId task binding resolution resolved request descriptor offer enabled safety,
    resolveAgents task c binding = .ok resolution ∧ resolved ∈ resolution.eligible ∧
      buildExecutionRequest taskId task resolved c binding = .ok request ∧ offer.Sized ∧
      validateExecutionCandidate request resolved descriptor offer enabled safety = .ok candidate

/-- What such a candidate has from its configuration, and from its offer. -/
structure Selectable (c : CompiledConfiguration) (candidate : ExecutionCandidate D) : Prop where
  policy : candidate.routePolicy ∈ c.routing.policies
  profile : candidate.executionProfileDigest = c.componentDigests.executionProfile
  requested : candidate.requestDigest = candidate.offer.requestDigest
  sized : candidate.offer.Sized

variable {c : CompiledConfiguration}

theorem AcceptedUnder.selectable {candidate : ExecutionCandidate D} (h : AcceptedUnder c candidate) :
    Selectable c candidate := by
  obtain ⟨taskId, task, binding, resolution, resolved, request, descriptor, offer, enabled, safety,
    hresolution, heligible, hrequest, hsized, hcandidate⟩ := h
  obtain ⟨haccepted, rfl⟩ := validateExecutionCandidate_iff.mp hcandidate
  obtain ⟨a, -, hresolved⟩ := eligible_resolved hresolution heligible
  have hpolicy := (resolveAgent_ok hresolved).2.2.1
  have hnames := (resolveAgents_ok hresolution).1
  have hprofile : request.executionProfileDigest = c.componentDigests.executionProfile := by
    rw [(buildExecutionRequest_builtFor hrequest).executionProfileDigest, hnames.2]
  exact ⟨hpolicy, hprofile, haccepted.requestDigest, hsized⟩

omit [DecidableEq D] in
theorem asBytes_injective : Function.Injective (DigestScheme.asBytes : D → List UInt8) := by
  intro a b h
  have hback := congrArg (DigestScheme.fromBytes (D := D)) h
  rw [DigestScheme.fromBytes_asBytes, DigestScheme.fromBytes_asBytes] at hback
  exact Option.some.inj hback

omit [DecidableEq D] in
/-- Candidates that the comparison does not tell apart have one digest. -/
theorem tied_digests (hD : Collisionless D)
    (hnames : (c.routing.policies.map RoutePolicy.name).Nodup) {x y : ExecutionCandidate D}
    (hx : Selectable c x) (hy : Selectable c y) (h : compareCandidates x y = .eq) :
    x.digest = y.digest := by
  rw [compareCandidates_eq, Ordering.then_eq_eq, Ordering.then_eq_eq, policyOrder,
    Ordering.then_eq_eq, Ordering.then_eq_eq, identityOrder, Ordering.then_eq_eq,
    Ordering.then_eq_eq, Ordering.then_eq_eq, compareAgents, Ordering.then_eq_eq] at h
  obtain ⟨-, hname, -, -, ⟨hagent, hversion⟩, -, -, hbytes⟩ := h
  have hpolicy : x.routePolicy = y.routePolicy :=
    List.inj_on_of_nodup_map hnames hx.policy hy.policy (Std.LawfulEqCmp.eq_of_compare hname)
  have hidentity : x.agent = y.agent := by
    cases hx : x.agent
    cases hy : y.agent
    rw [hx, hy] at hagent hversion
    rw [LogicalAgentVersion.mk.injEq]
    exact ⟨Std.LawfulEqCmp.eq_of_compare hagent, Std.LawfulEqCmp.eq_of_compare hversion⟩
  have hoffer : (x.offer.digest : D) = y.offer.digest :=
    asBytes_injective (Std.LawfulEqCmp.eq_of_compare hbytes)
  have hsame := ExecutionOffer.same_of_toValue (digest_injective hD
    (ExecutionOffer.toValue_wf hx.sized) (ExecutionOffer.toValue_wf hy.sized) hoffer)
  have hrequest : x.requestDigest = y.requestDigest := by
    rw [hx.requested, hy.requested, hsame.requestDigest]
  rw [ExecutionCandidate.digest, ExecutionCandidate.digest, hidentity, hrequest, hoffer, hpolicy,
    hx.profile, hy.profile]

/-- Candidates accepted for requests of one compiled configuration are totally preordered, with
    ties only between equal digests. The selected one is least, and the same for any order of the
    list, as far as its digest tells. -/
theorem selection_by_preference (hD : Collisionless D) {source : String}
    {c : CompiledConfiguration} (hc : compile source = .ok c) :
    PreorderOn (AcceptedUnder (D := D) c) compareCandidates ∧
    (∀ x y : ExecutionCandidate D, AcceptedUnder c x → AcceptedUnder c y →
      compareCandidates x y = .eq → x.digest = y.digest) ∧
    ∀ candidates : List (ExecutionCandidate D), candidates ≠ [] →
      (∀ x ∈ candidates, AcceptedUnder c x) →
      ∃ selected ∈ candidates, selectExecutionCandidate candidates = .ok selected ∧
        (∀ x ∈ candidates, compareCandidates selected x ≠ .gt) ∧
        ∀ permuted, candidates.Perm permuted → ∃ selected',
          selectExecutionCandidate permuted = .ok selected' ∧
            selected'.digest = selected.digest := by
  have hnames := compile_policies hc
  have hpreorder : PreorderOn (AcceptedUnder (D := D) c) compareCandidates :=
    compareCandidates_preorder fun x y hx hy hname =>
      List.inj_on_of_nodup_map hnames hx.selectable.policy hy.selectable.policy hname
  have htied : ∀ x y : ExecutionCandidate D, AcceptedUnder c x → AcceptedUnder c y →
      compareCandidates x y = .eq → x.digest = y.digest := fun x y hx hy =>
    tied_digests hD hnames hx.selectable hy.selectable
  refine ⟨hpreorder, htied, fun candidates hne haccepted => ?_⟩
  obtain ⟨first, others, rfl⟩ := List.exists_cons_of_ne_nil hne
  have hmem := least_mem compareCandidates first others
  refine ⟨least compareCandidates first others, hmem, rfl, fun x hx hgt => ?_,
    fun permuted hperm => ?_⟩
  · have hle := least_isLE hpreorder haccepted x hx
    rw [hgt] at hle
    cases hle
  · have hne' : permuted ≠ [] := fun hnil => hne (by rw [hnil] at hperm; exact hperm.eq_nil)
    obtain ⟨first', others', rfl⟩ := List.exists_cons_of_ne_nil hne'
    have haccepted' : ∀ x ∈ first' :: others', AcceptedUnder c x := fun x hx =>
      haccepted x (hperm.mem_iff.mpr hx)
    refine ⟨least compareCandidates first' others', rfl, ?_⟩
    exact htied _ _ (haccepted' _ (least_mem compareCandidates first' others'))
      (haccepted _ hmem) (least_perm hpreorder hperm.symm haccepted')

namespace Sample

def job : TaskSpec ExactDigest :=
  ⟨"code", "o", [], [], ["c"], ⟨[], [], []⟩, ⟨[], ⟨[9]⟩, 1⟩, "goal", 1⟩

def staffing : ConfigurationBinding ExactDigest :=
  ⟨1, (staffed ["p", "q"]).revisionDigest, (staffed ["p", "q"]).componentDigests⟩

theorem staffed_eligible : ∃ resolution,
    resolveAgents job (staffed ["p", "q"]) staffing = .ok resolution ∧
      resolved ∈ resolution.eligible := by
  have hnames : staffing.Names (staffed ["p", "q"]) := ⟨rfl, rfl⟩
  have heligible : eligibleAgents job (staffed ["p", "q"]) staffing = [resolved] := rfl
  obtain ⟨rejected, hresolve⟩ := resolveAgents_named job hnames
  rw [heligible] at hresolve
  exact ⟨_, hresolve, List.mem_singleton.mpr rfl⟩

def plainOffer (request : ExecutionRequest ExactDigest) (reference : String) :
    ExecutionOffer ExactDigest :=
  ⟨request.digest, "x", 1, (supplier []).digest, [], 8, [], [], [], .KeyedIdempotent, reference⟩

theorem plainOffer_acceptable {taskId : String} {binding : ConfigurationBinding ExactDigest}
    {request : ExecutionRequest ExactDigest}
    (h : buildExecutionRequest taskId job resolved c binding = .ok request) (reference : String) :
    Acceptable request resolved (supplier []) (plainOffer request reference) true trusted := by
  obtain ⟨_, -, hbuilt⟩ := bind_ok h
  obtain rfl := Except.ok.inj hbuilt
  have hcapacity : (1 : Int) ≤ 8 := by decide
  exact ⟨rfl, rfl, rfl, rfl, rfl, rfl, rfl, rfl, nofun, ⟨hcapacity, hcapacity⟩, nofun, nofun, rfl,
    .inl rfl, nofun⟩

/-- A backend without resources makes an acceptable offer under any reference. -/
theorem staffed_offer (reference : String) : ∃ candidate : ExecutionCandidate ExactDigest,
    AcceptedUnder (staffed ["p", "q"]) candidate ∧ candidate.offer.offerReference = reference := by
  obtain ⟨resolution, hresolution, heligible⟩ := staffed_eligible
  obtain ⟨request, hrequest⟩ := buildExecutionRequest_named
    (resolveAgents_ok hresolution).1 "task" job resolved
  have hsized : IsI64 8 ∧ QuantitiesSized [] := by decide
  exact ⟨_, ⟨"task", job, staffing, resolution, resolved, request, supplier [],
    plainOffer request reference, true, trusted, hresolution, heligible, hrequest, hsized,
    validateExecutionCandidate_iff.mpr ⟨plainOffer_acceptable hrequest reference, rfl⟩⟩, rfl⟩

end Sample

/-- Two offers of one backend: the selection is the same in both orders. -/
theorem selection_of_two : ∃ x y : ExecutionCandidate ExactDigest,
    x.offer.offerReference = "o" ∧ y.offer.offerReference = "n" ∧
    ∃ selected ∈ [x, y], selectExecutionCandidate [x, y] = .ok selected ∧
      ∃ selected', selectExecutionCandidate [y, x] = .ok selected' ∧
        selected'.digest = selected.digest := by
  obtain ⟨x, hx, hxref⟩ := Sample.staffed_offer "o"
  obtain ⟨y, hy, hyref⟩ := Sample.staffed_offer "n"
  have haccepted : ∀ z ∈ [x, y], AcceptedUnder (Sample.staffed ["p", "q"]) z := by
    simp [hx, hy]
  obtain ⟨selected, hmem, hselected, -, hpermuted⟩ :=
    (selection_by_preference exactDigest_collisionless Sample.staffed_compiles).2.2 [x, y]
      (by simp) haccepted
  exact ⟨x, y, hxref, hyref, selected, hmem, hselected, hpermuted [y, x] (.swap ..)⟩

end Pantheon
