/-
  Where a routed candidate comes from (`pantheon-engine/src/routing.rs`).
  Backends describe themselves and make offers; what they say is checked, but never taken as
  evidence of safety. `routed_candidate_provenance` follows a returned candidate back along the
  trail of the call that returned it: to the configuration captured, to the Task's specification
  as it was read, and to the call of the very port that made the offer, whose safety facts the
  controller supplied. The ports may answer anything, and the store may change between the steps.
  Where the ports behave as functions, `routing_order_independent` adds that their order decides
  nothing, and that the returned request is the one its candidate was validated against.
-/
import Pantheon.Engine.Accounting
import Pantheon.Engine.PurePorts

namespace Pantheon

open Interleave Routine

variable {D : Type} [DecidableEq D] [DigestScheme D]

abbrev DaemonMoment (D : Type) [DecidableEq D] [DigestScheme D] : Type 1 :=
  Moment (Daemon D) (SiteLabel D AuthorityStep) (FabricPort D)

/-- What a routine that succeeds leaves behind, whatever the others do in between and whatever its
    calls answer. -/
abbrev Leaves {ε α : Type} (R : List (DaemonMoment D) → α → Prop) (h : List (DaemonMoment D))
    (x : DaemonControl ε D α) : Prop :=
  Accounted (fun _ _ => True) h x R

/-! ## Descriptions and offers -/

/-- A view comes from the port at its place: the safety facts are the ones supplied beside that
    port, and the registration is the configuration's for the identity it described itself by. -/
structure BackendView.Of (c : CompiledConfiguration) (backends : List ControllerSafetyFacts)
    (view : BackendView) : Prop where
  supplied : backends[view.backend]? = some view.safety
  registered : ∃ registration,
    c.execution.backends.find? (fun r => r.backendId == view.descriptor.backendId) =
      some registration ∧ registration.enabled = view.enabled

theorem describeBackends_leaves (c : CompiledConfiguration) (before rest : List ControllerSafetyFacts)
    (seen : List String) (h : List (DaemonMoment D)) :
    Leaves (fun _ views => ∀ view ∈ views, view.Of c (before ++ rest)) h
      (describeBackends c before.length seen rest) := by
  induction rest generalizing before seen h with
  | nil => exact .pure nofun
  | cons safety rest ih =>
    refine .askThen trivial fun descriptor => .ofExceptThen fun registration hregistration => ?_
    have hrest := ih (before ++ [safety]) (seen ++ [descriptor.backendId])
      (.call (.describe before.length) descriptor :: h)
    rw [List.length_append, List.length_singleton, List.append_assoc, List.singleton_append]
      at hrest
    refine Accounted.andThen hrest fun _ views _ hviews => .pure ?_
    refine List.forall_mem_cons.mpr ⟨⟨?_, registration, (registrationOf_iff.mp hregistration).2, rfl⟩,
      hviews⟩
    simp

/-- A candidate was offered by the port of a view, in answer to one of the requests, and accepted
    under what the view has of that port. -/
def Offered (requests : List (ResolvedAgent × ExecutionRequest D)) (views : List BackendView)
    (h : List (DaemonMoment D)) (candidate : ExecutionCandidate D) : Prop :=
  ∃ r ∈ requests, ∃ view ∈ views, ∃ offers, ∃ offer ∈ offers,
    Moment.call (FabricPort.offer view.backend r.2) (.ok offers) ∈ h ∧
      validateExecutionCandidate r.2 r.1 view.descriptor offer view.enabled view.safety =
        .ok candidate

theorem Offered.mono {requests : List (ResolvedAgent × ExecutionRequest D)}
    {views : List BackendView} {h h' : List (DaemonMoment D)} (hsuffix : h <:+ h')
    {candidate : ExecutionCandidate D} (ho : Offered requests views h candidate) :
    Offered requests views h' candidate := by
  obtain ⟨r, hr, view, hview, offers, offer, hoffer, hcall, hvalid⟩ := ho
  exact ⟨r, hr, view, hview, offers, offer, hoffer, hsuffix.subset hcall, hvalid⟩

theorem collectOffers_leaves (requests : List (ResolvedAgent × ExecutionRequest D))
    (views : List BackendView)
    (pairs : List ((ResolvedAgent × ExecutionRequest D) × BackendView))
    (hpairs : ∀ p ∈ pairs, p.1 ∈ requests ∧ p.2 ∈ views) {found : Offers D}
    {h : List (DaemonMoment D)}
    (hfound : ∀ candidate ∈ found.candidates, Offered requests views h candidate) :
    Leaves (fun h' found => ∀ candidate ∈ found.candidates,
      Offered requests views h' candidate) h (collectOffers pairs found) := by
  induction pairs generalizing found h with
  | nil => exact .pure hfound
  | cons pair pairs ih =>
    obtain ⟨⟨agent, request⟩, view⟩ := pair
    obtain ⟨⟨hrequest, hview⟩, hrest⟩ := List.forall_mem_cons.mp hpairs
    unfold collectOffers
    split
    · exact ih hrest hfound
    · refine .tryAskThen trivial fun offers => ih hrest ?_
      refine considerOffers_each offers (fun offer hoffer candidate hvalid => ?_) fun candidate hc =>
        (hfound candidate hc).mono (List.suffix_cons _ _)
      exact ⟨_, hrequest, view, hview, offers, offer, hoffer, List.mem_cons_self, hvalid⟩

/-! ## The whole call -/

/-- The published configuration, at a moment of the trail. -/
def Captured (h : List (DaemonMoment D)) (captured : Snapshot D) : Prop :=
  ∃ s : Daemon D, Moment.tx (.own .snapshot) s s ∈ h ∧ s.own = some captured

/-- The Task's record and its specification, each as the store was when it was read. -/
def TaskRead (taskId : String) (h : List (DaemonMoment D)) (spec : TaskSpec D) : Prop :=
  ∃ s s' : Daemon D, Moment.tx .read s s ∈ h ∧ Moment.tx .read s' s' ∈ h ∧
    ∃ task, taskRecord taskId s.db = some task ∧ ensureReady task = .ok () ∧
      readTaskSpec task (taskSpecJson task.specDigest s'.db) = .ok spec

theorem TaskRead.mono {taskId : String} {h h' : List (DaemonMoment D)} (hs : h <:+ h')
    {spec : TaskSpec D} (hr : TaskRead taskId h spec) : TaskRead taskId h' spec := by
  obtain ⟨s, s', hmem, hmem', htask⟩ := hr
  exact ⟨s, s', hs.subset hmem, hs.subset hmem', htask⟩

theorem loadTask_leaves (taskId : String) (h : List (DaemonMoment D)) :
    Leaves (fun h' loaded => TaskRead taskId h' loaded.2) h (loadTask taskId) := by
  refine .readThen trivial fun s => .orElseThen fun task htask => .ofExceptThen fun _ hready => ?_
  refine .readThen trivial fun s' => .ofExceptThen fun spec hspec => .pure ?_
  exact ⟨s, s', List.mem_cons_of_mem _ List.mem_cons_self, List.mem_cons_self, task, htask, hready, hspec⟩

/-- A decision under one configuration: the requests it built for the eligible agents, its
    candidate offered for one of them, and the request it returns with it. -/
structure DecidedBy (taskId : String) (c : CompiledConfiguration) (binding : ConfigurationBinding D)
    (backends : List ControllerSafetyFacts) (h : List (DaemonMoment D)) (spec : TaskSpec D)
    (resolution : AgentResolution) (requests : List (ResolvedAgent × ExecutionRequest D))
    (views : List BackendView) (routed : RoutingResult D) : Prop where
  read : TaskRead taskId h spec
  resolved : resolveAgents spec c binding = .ok resolution
  built : buildRequests taskId spec c binding resolution.eligible = .ok requests
  viewed : ∀ view ∈ views, view.Of c backends
  offered : Offered requests views h routed.candidate
  returned : requestOf requests routed.candidate = .ok routed.request
  configuration : routed.configuration = binding

theorem decideRoute_leaves (taskId : String) (backends : List ControllerSafetyFacts)
    (c : CompiledConfiguration) (binding : ConfigurationBinding D) (h : List (DaemonMoment D)) :
    Leaves (fun h' routed => ∃ spec resolution requests views,
      DecidedBy taskId c binding backends h' spec resolution requests views routed) h
      (decideRoute taskId backends c binding) := by
  refine Accounted.andThen (loadTask_leaves taskId h) fun h₁ loaded _ hread => ?_
  obtain ⟨task, spec⟩ := loaded
  refine .ofExceptThen fun resolution hresolved => .ofExceptThen fun requests hbuilt => ?_
  refine Accounted.andThen (describeBackends_leaves c [] backends [] h₁) fun h₂ views hs₂ hviews => ?_
  refine Accounted.andThen (collectOffers_leaves requests views _ ?_ nofun) fun h₃ found hs₃ hfound => ?_
  · intro p hp
    obtain ⟨r, hr, hp⟩ := List.mem_flatMap.mp hp
    obtain ⟨view, hview, rfl⟩ := List.mem_map.mp hp
    exact ⟨hr, (List.mem_insertionSort _).mp hview⟩
  refine .ofExceptThen fun candidate hcandidate => .ofExceptThen fun request hrequest => .pure ?_
  exact ⟨spec, resolution, requests, views, {
    read := hread.mono (hs₂.trans hs₃)
    resolved := mapError_eq_ok.mp hresolved
    built := hbuilt
    viewed := hviews
    offered := hfound _ (selectCandidate_ok hcandidate)
    returned := hrequest
    configuration := rfl }⟩

omit [DecidableEq D] in
theorem routableConfiguration_ok {captured : Snapshot D} {c : CompiledConfiguration}
    (h : routableConfiguration captured = .ok c) : captured.compiled = some c := by
  unfold routableConfiguration at h
  split at h
  · rename_i found hfound
    exact hfound.trans (congrArg some (Except.ok.inj h))
  · cases h

omit [DecidableEq D] in
theorem current_ok {own : Option (Snapshot D)} {captured : Snapshot D}
    (h : ConfigurationAuthority.current own = .ok captured) : own = some captured := by
  cases own with
  | none => cases h
  | some published => exact congrArg some (Except.ok.inj h)

/-- A returned decision was made under a configuration captured on the way. -/
theorem routeReadyTask_leaves (taskId : String) (backends : List ControllerSafetyFacts) :
    Leaves (fun h (routed : RoutingResult D) => ∃ captured c spec resolution requests views,
      Captured h captured ∧ captured.compiled = some c ∧
        DecidedBy taskId c captured.binding backends h spec resolution requests views routed) []
      (routeReadyTask taskId backends) := by
  refine .ownThen trivial fun s captured hcaptured => .ofExceptThen fun c hc => ?_
  refine Accounted.andThen (decideRoute_leaves taskId backends c captured.binding _)
    fun h₁ routed hs₁ hdecided => ?_
  refine .ownThen trivial fun s' _ _ => .ofExceptThen fun _ _ => .pure ?_
  obtain ⟨spec, resolution, requests, views, hdecided⟩ := hdecided
  have hlast := List.suffix_cons (Moment.tx (.own .snapshot) s' s') h₁
  exact ⟨captured, c, spec, resolution, requests, views,
    ⟨s, (hs₁.trans hlast).subset List.mem_cons_self, current_ok hcaptured⟩,
    routableConfiguration_ok hc,
    { hdecided with
      read := hdecided.read.mono hlast
      offered := hdecided.offered.mono hlast }⟩

namespace Sample

/-- The configuration of one agent, with two registered backends. -/
def hosted : CompiledConfiguration :=
  { staffed ["p"] with
    execution := ⟨(staffed ["p"]).execution.profiles, [⟨"x", true, "s"⟩, ⟨"y", true, "s"⟩]⟩ }

def hosting : Snapshot ExactDigest where
  active := ⟨1, hosted.revisionDigest, hosted.componentDigests, ⟨[7]⟩, 2⟩
  compiled := some hosted
  paired c hc := by
    obtain rfl := Option.some.inj hc
    rfl
  compiledSound c hc := by
    obtain rfl := Option.some.inj hc
    exact ⟨by decide, by decide, by decide, by decide, by decide, by decide⟩

def readyTask : Task ExactDigest := ⟨"goal", 1, .Ready, 1, none, none, none, job.digest⟩

/-- A store with one Ready Task. -/
def oneTask : Db ExactDigest where
  table
    | .tasks => ⟨[("task", readyTask)], List.nodup_singleton _⟩
    | .taskSpecs => ⟨[(job.digest, storedSpec job)], List.nodup_singleton _⟩
    | _ => .empty
  checked i p hp := by
    cases i with
    | tasks =>
      obtain rfl := List.mem_singleton.mp hp
      decide
    | taskSpecs =>
      obtain rfl := List.mem_singleton.mp hp
      rfl
    | _ => cases hp
  distinct i p hp q hq hne := by
    cases i with
    | tasks => exact absurd (by rw [List.mem_singleton.mp hp, List.mem_singleton.mp hq]) hne
    | taskSpecs => exact absurd (by rw [List.mem_singleton.mp hp, List.mem_singleton.mp hq]) hne
    | _ => cases hp

def daemon : Daemon ExactDigest := ⟨oneTask, some hosting⟩

/-- A backend with one offer for any request, and one that is not available. -/
def offering : PurePort ExactDigest :=
  ⟨supplier [], fun request => .ok [plainOffer request "o"], trusted⟩

def resting : PurePort ExactDigest :=
  ⟨⟨"y", 1, false, [], [], 8, [], [], .KeyedIdempotent⟩, fun _ => .error "down", trusted⟩

theorem task_loads : loadedTask "task" oneTask =
    .ok (⟨"task", "goal", .Ready, 1, job.digest, 1, none⟩, job) := by
  have hfind : oneTask.find .taskSpecs job.digest = some (storedSpec job) :=
    Relational.Table.lookup_of_mem (List.nodup_singleton _) (List.mem_singleton.mpr rfl)
  have hstored : taskSpecJson job.digest oneTask = some job.toValue.toCanonicalText := by
    rw [taskSpecJson, hfind]
    rfl
  have hread : TaskSpec.fromCanonicalJson job.toValue.toCanonicalText = .ok job :=
    TaskSpec.fromCanonicalJson_toCanonicalText (TaskSpec.toValue_wf (by decide) (by decide))
  have hspec : readTaskSpec ⟨"task", "goal", .Ready, 1, job.digest, 1, none⟩
      (some job.toValue.toCanonicalText) = .ok job := by
    simp only [readTaskSpec, hread, bind_eq_ok, refuseIf_eq_ok, pure_eq_ok, exists_const]
    exact ⟨by simp, by decide, trivial⟩
  exact loadedTask_of rfl rfl (by rw [hstored]; exact hspec)

theorem hosted_eligible (binding : ConfigurationBinding ExactDigest)
    (hbinding : binding = hosting.binding) : ∃ rejected,
    resolveAgents job hosted binding = .ok ⟨[resolved], rejected⟩ := by
  have hnames : binding.Names hosted := hbinding ▸ ⟨rfl, rfl⟩
  have heligible : eligibleAgents job hosted binding = [resolved] := hbinding ▸ rfl
  obtain ⟨rejected, hresolve⟩ := resolveAgents_named job hnames
  rw [heligible] at hresolve
  exact ⟨rejected, hresolve⟩

theorem daemon_routes : ∃ routed, routePorts "task" [offering, resting] daemon = .ok routed := by
  obtain ⟨rejected, hresolved⟩ := hosted_eligible _ rfl
  obtain ⟨request, hrequest⟩ := buildExecutionRequest_named
    (resolveAgents_ok hresolved).1 "task" job resolved
  have hrequests : buildRequests "task" job hosted hosting.binding [resolved] =
      .ok [(resolved, request)] := by
    simp only [buildRequests, List.mapM_cons, hrequest, List.mapM_nil]
    rfl
  have hvalid := validateExecutionCandidate_iff.mpr ⟨plainOffer_acceptable hrequest "o", rfl⟩
  have hsorted : ([offering.view hosted, resting.view hosted]).insertionSort PortView.Le =
      [offering.view hosted, resting.view hosted] := rfl
  have hviews : describePorts hosted [] [offering, resting] =
      .ok [offering.view hosted, resting.view hosted] := rfl
  have hconsidered : considerOffer resolved request ((offering.view hosted).at 0) ⟨[], []⟩
      (plainOffer request "o") = ⟨[⟨resolved.identity, request.digest, plainOffer request "o",
        resolved.routePolicy, request.executionProfileDigest⟩], []⟩ := by
    unfold considerOffer
    have hvalid' : validateExecutionCandidate request resolved
        ((offering.view hosted).at 0).descriptor (plainOffer request "o")
        ((offering.view hosted).at 0).enabled ((offering.view hosted).at 0).safety = _ := hvalid
    rw [hvalid']
    rfl
  have hcollect : collectPorts [((resolved, request), offering.view hosted),
      ((resolved, request), resting.view hosted)] ⟨[], []⟩ = .ok ⟨[⟨resolved.identity,
        request.digest, plainOffer request "o", resolved.routePolicy,
        request.executionProfileDigest⟩], []⟩ := by
    rw [collectPorts, if_neg (by decide)]
    refine bind_eq_ok.mpr ⟨[plainOffer request "o"], rfl, ?_⟩
    rw [List.foldl_cons, List.foldl_nil, hconsidered, collectPorts, if_pos (by decide)]
    rfl
  have hreturned : requestOf [(resolved, request)] ⟨resolved.identity, request.digest,
      plainOffer request "o", resolved.routePolicy, request.executionProfileDigest⟩ =
        .ok request := by
    simp [requestOf]
  exact ⟨_, routePorts_iff.mpr ⟨hosting, rfl, hosted, rfl, _, task_loads, decidePorts_iff.mpr
    ⟨_, hresolved, _, hrequests, _, hviews, _, hcollect, _, rfl, _, hreturned, rfl⟩⟩⟩

end Sample

/-- Whatever the ports claim, also when they answer differently each time, a returned candidate is
    of an agent that the captured configuration admits for the Task, of a registered and enabled
    backend; what the agent requires of its sandbox and what its policy requires of a launch are
    covered by the facts that the controller supplied for the very port that made the offer. -/
theorem routed_candidate_provenance {taskId : String} {backends : List ControllerSafetyFacts}
    {steps : List (DaemonMoment D)} {routed : RoutingResult D}
    (h : (routeReadyTask taskId backends).run.Trail steps (.ret (.ok routed))) :
    ∃ captured c spec, Captured steps captured ∧ captured.compiled = some c ∧
      TaskRead taskId steps spec ∧
      ∃ a ∈ c.agents.agents, (∀ b ∈ c.agents.agents, b.identity = routed.candidate.agent ↔ b = a) ∧
        a.Eligible spec c captured.binding ∧
        c.routing.policies.find? (fun policy => policy.name == a.routePolicy) =
          some routed.candidate.routePolicy ∧
        (∃ registration, c.execution.backends.find?
            (fun r => r.backendId == routed.candidate.offer.backendId) = some registration ∧
          registration.enabled = true) ∧
        ∃ port safety request offers, backends[port]? = some safety ∧
          Moment.call (FabricPort.offer port request) (.ok offers) ∈ steps ∧
          routed.candidate.offer ∈ offers ∧
          (∀ required ∈ a.sandboxRequirements, required ∈ safety.isolationGuarantees) ∧
          (routed.candidate.offer.launchSemantics = .KeyedIdempotent ∨
            routed.candidate.routePolicy.requiresKeyedLaunch = false ∧
              safety.observationalLaunchSafe = true) := by
  obtain ⟨captured, c, spec, resolution, requests, views, hcaptured, hc, hdecided⟩ :=
    (routeReadyTask_leaves taskId backends).trail h
  obtain ⟨r, hr, view, hview, offers, offer, hoffer, hcall, hvalid⟩ := hdecided.offered
  obtain ⟨heligible, hbuilt⟩ := buildRequests_ok hdecided.built r hr
  obtain ⟨a, ha, hresolved⟩ := eligible_resolved hdecided.resolved heligible
  obtain ⟨hagent, hidentity, rfl, hpolicy, -, -⟩ := resolveAgent_iff.mp hresolved
  have hrequest := buildExecutionRequest_builtFor hbuilt
  obtain ⟨haccepted, hcandidate⟩ := validateExecutionCandidate_iff.mp hvalid
  have hof := hdecided.viewed view hview
  have hdistinct := (captured.compiledSound c hc).distinct
  rw [hcandidate]
  refine ⟨captured, c, spec, hcaptured, hc, hdecided.read, r.1.agent, ha, fun b hb => ⟨fun hid => ?_,
    ?_⟩, hagent, hpolicy, ?_, view.backend, view.safety, r.2, offers, hof.supplied, hcall, hoffer,
    fun required hrequired => ?_, ?_⟩
  · exact List.inj_on_of_nodup_map hdistinct hb ha (hid.trans hidentity)
  · rintro rfl
    exact hidentity.symm
  · obtain ⟨registration, hregistration, henabled⟩ := hof.registered
    rw [haccepted.backendId] at hregistration
    exact ⟨registration, hregistration, henabled.trans haccepted.enabled⟩
  · exact (haccepted.isolation required ((hrequest.isolation required).mpr hrequired)).1
  · rcases haccepted.launchSafety with hkeyed | ⟨hallowed, hsafe⟩
    · exact .inl hkeyed
    · exact .inr ⟨hrequest.launchSafety hallowed, hsafe⟩

/-- The trail of a call with one offer. -/
theorem hosted_provenance : ∃ steps, ∃ routed : RoutingResult ExactDigest,
    (routeReadyTask "task" [Sample.trusted, Sample.trusted]).run.Trail steps (.ret (.ok routed)) ∧
    ∃ captured c spec, Captured steps captured ∧ captured.compiled = some c ∧
      TaskRead "task" steps spec ∧
      ∃ a ∈ c.agents.agents, a.Eligible spec c captured.binding := by
  obtain ⟨routed, hrouted⟩ := Sample.daemon_routes
  have hruns := (routeReadyTask_computes "task" [Sample.offering, Sample.resting] Sample.daemon
    (.ok routed) Sample.daemon).mpr ⟨hrouted.symm, rfl⟩
  obtain ⟨steps, hsteps⟩ := Prog.Runs.trail hruns
  obtain ⟨captured, c, spec, hcaptured, hc, hread, a, ha, -, heligible, -⟩ :=
    routed_candidate_provenance hsteps
  exact ⟨steps, routed, hsteps, captured, c, spec, hcaptured, hc, hread, a, ha, heligible⟩

/-! ## The returned request -/

/-- Requests of one resolution with one digest are of one agent, and the same. -/
theorem requests_by_digest (hD : Collisionless D) {taskId : String} {spec : TaskSpec D}
    {c : CompiledConfiguration} {binding : ConfigurationBinding D} {resolution : AgentResolution}
    {requests : List (ResolvedAgent × ExecutionRequest D)} (hc : c.Sound)
    (hactivation : IsI64 binding.activationSequence)
    (hresolved : resolveAgents spec c binding = .ok resolution)
    (hbuilt : buildRequests taskId spec c binding resolution.eligible = .ok requests)
    {r r' : ResolvedAgent × ExecutionRequest D} (hr : r ∈ requests) (hr' : r' ∈ requests)
    (h : r.2.digest = r'.2.digest) : r = r' := by
  have hsource : ∀ q ∈ requests, ∃ a ∈ c.agents.agents, resolveAgent spec c binding a = .ok q.1 ∧
      q.2.agent = a.identity ∧ q.2.Sized ∧
      buildExecutionRequest taskId spec q.1 c binding = .ok q.2 := by
    intro q hq
    obtain ⟨heligible, hrequest⟩ := buildRequests_ok hbuilt q hq
    obtain ⟨a, ha, hone⟩ := eligible_resolved hresolved heligible
    obtain ⟨-, hidentity, hagent, -⟩ := resolveAgent_iff.mp hone
    have hfields := buildExecutionRequest_builtFor hrequest
    refine ⟨a, ha, hone, hfields.agent.trans hidentity, ⟨?_, ?_, ?_⟩, hrequest⟩
    · rw [hfields.minContextTokens, hagent]
      exact hc.tokens a ha
    · rw [hfields.configuration]
      exact hactivation
    · rw [hfields.resources]
      exact nofun
  obtain ⟨a, ha, hone, hagent, hsized, hrequest⟩ := hsource r hr
  obtain ⟨a', ha', hone', hagent', hsized', hrequest'⟩ := hsource r' hr'
  have hsame := ExecutionRequest.same_of_toValue (digest_injective hD
    (ExecutionRequest.toValue_wf hsized) (ExecutionRequest.toValue_wf hsized') h)
  have hidentity : a.identity = a'.identity := by rw [← hagent, hsame.agent, hagent']
  obtain rfl := List.inj_on_of_nodup_map hc.distinct ha ha' hidentity
  have hfirst : r.1 = r'.1 := Except.ok.inj (hone.symm.trans hone')
  rw [hfirst] at hrequest
  exact Prod.ext hfirst (Except.ok.inj (hrequest.symm.trans hrequest'))

/-- Ports that behave as functions: routing changes nothing, and where it succeeds it succeeds with
    the same decision for every order of the ports. The request it returns is the one that its
    candidate was validated against, for the candidate's own agent. -/
theorem routing_order_independent (taskId : String) {ports ports' : List (PurePort D)}
    (hperm : ports.Perm ports') (s : Daemon D) :
    (∀ r s', Ends (PurePort.answers ports)
      (routeReadyTask taskId (ports.map PurePort.safety)).run s r s' → s' = s) ∧
    ∀ routed s', Ends (PurePort.answers ports)
      (routeReadyTask taskId (ports.map PurePort.safety)).run s (.ok routed) s' →
      (∀ r s'', Ends (PurePort.answers ports')
        (routeReadyTask taskId (ports'.map PurePort.safety)).run s r s'' ↔
          r = .ok routed ∧ s'' = s) ∧
      (Collisionless D → IsI64 routed.configuration.activationSequence →
        ∃ captured c task spec resolution resolved port offers, s.own = some captured ∧
          captured.compiled = some c ∧ loadedTask taskId s.db = .ok (task, spec) ∧
          resolveAgents spec c captured.binding = .ok resolution ∧
          resolved ∈ resolution.eligible ∧ resolved.identity = routed.candidate.agent ∧
          buildExecutionRequest taskId spec resolved c captured.binding = .ok routed.request ∧
          port ∈ ports ∧ port.offers routed.request = .ok offers ∧
          routed.candidate.offer ∈ offers ∧
          validateExecutionCandidate routed.request resolved port.descriptor routed.candidate.offer
            true port.safety = .ok routed.candidate) := by
  have hcomputes : ∀ ports r s', Ends (PurePort.answers ports)
      (routeReadyTask taskId (ports.map PurePort.safety)).run s r s' ↔
        r = routePorts taskId ports s ∧ s' = s := fun ports =>
    routeReadyTask_computes taskId ports s
  refine ⟨fun r s' h => ((hcomputes ports r s').mp h).2, fun routed s' h => ?_⟩
  have hrouted : routePorts taskId ports s = .ok routed := ((hcomputes ports _ s').mp h).1.symm
  refine ⟨fun r s'' => ?_, fun hD hactivation => ?_⟩
  · rw [hcomputes ports', routePorts_perm hperm hrouted]
  · obtain ⟨captured, hown, c, hcompiled, ⟨task, spec⟩, hloaded, hdecided⟩ :=
      routePorts_iff.mp hrouted
    obtain ⟨resolution, hresolved, requests, hrequests, views, hviews, found, hfound, candidate,
      hcandidate, request, hrequest, rfl⟩ := decidePorts_iff.mp hdecided
    have hpairs : ∀ p ∈ requests.flatMap fun r =>
        (views.insertionSort PortView.Le).map fun v => (r, v), p.1 ∈ requests ∧ p.2 ∈ views := by
      intro p hp
      obtain ⟨q, hq, hp⟩ := List.mem_flatMap.mp hp
      obtain ⟨v, hv, rfl⟩ := List.mem_map.mp hp
      exact ⟨hq, (List.mem_insertionSort _).mp hv⟩
    have hnone : ∀ x ∈ (⟨[], []⟩ : Offers D).candidates, PortsOffered requests views x := nofun
    obtain ⟨r, hr, view, hview, offers, hoffers, hoffer, hvalid⟩ :=
      collectPorts_offered hpairs hnone hfound candidate (selectCandidate_ok hcandidate)
    obtain ⟨haccepted, hfields⟩ := validateExecutionCandidate_iff.mp hvalid
    -- the request found by digest is the one the candidate was validated against
    obtain ⟨hdigest, agent, hfoundRequest⟩ := requestOf_ok hrequest
    have hrequestDigest : candidate.requestDigest = r.2.digest := by rw [hfields]
    obtain rfl : r = (agent, request) := requests_by_digest hD (captured.compiledSound c hcompiled)
      hactivation hresolved hrequests hr hfoundRequest (by rw [hdigest, hrequestDigest])
    obtain ⟨heligible, hbuilt⟩ := buildRequests_ok hrequests _ hr
    have hport : view.port ∈ ports := by
      rw [← describePorts_ports hviews]
      exact List.mem_map_of_mem hview
    have hidentity : agent.identity = candidate.agent := by rw [hfields]
    rw [haccepted.enabled] at hvalid
    exact ⟨captured, c, task, spec, resolution, agent, view.port, offers, hown, hcompiled, hloaded,
      hresolved, heligible, hidentity, hbuilt, hport, hoffers, hoffer, hvalid⟩

/-- Two ports in both orders. -/
theorem hosted_order : ∃ routed,
    (∀ r s', Ends (PurePort.answers [Sample.resting, Sample.offering])
      (routeReadyTask "task" [Sample.trusted, Sample.trusted]).run Sample.daemon r s' ↔
        r = .ok routed ∧ s' = Sample.daemon) ∧
    ∃ spec resolved, resolved.identity = routed.candidate.agent ∧
      buildExecutionRequest "task" spec resolved Sample.hosted Sample.hosting.binding =
        .ok routed.request := by
  obtain ⟨routed, hrouted⟩ := Sample.daemon_routes
  have hruns := (routeReadyTask_computes "task" [Sample.offering, Sample.resting] Sample.daemon
    (.ok routed) Sample.daemon).mpr ⟨hrouted.symm, rfl⟩
  obtain ⟨horder, hreturned⟩ := (routing_order_independent "task"
    (List.Perm.swap Sample.resting Sample.offering []) Sample.daemon).2 routed _ hruns
  refine ⟨routed, horder, ?_⟩
  have hactivation : IsI64 routed.configuration.activationSequence := by
    obtain ⟨captured, hown, c, -, loaded, -, hdecided⟩ := routePorts_iff.mp hrouted
    obtain rfl := Option.some.inj hown
    obtain ⟨_, -, _, -, _, -, _, -, _, -, _, -, rfl⟩ := decidePorts_iff.mp hdecided
    exact show IsI64 1 by decide
  obtain ⟨captured, c, task, spec, resolution, resolved, port, offers, hown, hc, -, -, -, hidentity,
    hbuilt, -⟩ := hreturned exactDigest_collisionless hactivation
  obtain rfl := Option.some.inj hown
  obtain rfl := Option.some.inj hc
  exact ⟨spec, resolved, hidentity, hbuilt⟩

end Pantheon
