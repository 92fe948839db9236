/-
  Routing over backends that behave as functions (`pantheon-engine/src/routing.rs`).
  Where every port answers the same call the same way, one call of `route_ready_task` is a
  function of the ports and of the daemon it looks at (`routeReadyTask_computes`). The function
  does not depend on the order of the ports (`routePorts_perm`): a port is described once, and
  the described backends are sorted by identities that are distinct.
-/
import Pantheon.Engine.Routing
import Pantheon.Execution.Selection

namespace Pantheon

open Interleave Routine

variable {D : Type}

/-! ## Ports -/

/-- A backend that behaves as a function, with the safety facts supplied beside it. -/
structure PurePort (D : Type) where
  descriptor : BackendDescriptor
  offers : ExecutionRequest D → Except String (List (ExecutionOffer D))
  safety : ControllerSafetyFacts

/-- Answers of the ports, which do not depend on the store. -/
abbrev Answers (D : Type) : Type 1 := ∀ β, FabricPort D β → β → Prop

/-- A routine of the daemon runs to its answer with nothing in between. -/
def Ends [DecidableEq D] [DigestScheme D] {α : Type} (answers : Answers D) (p : DaemonRoutine D α)
    (s : Daemon D) (a : α) (s' : Daemon D) : Prop :=
  Site.Runs (fun _ β => answers β) p s a s'

/-- The answers of some ports, each by its place. -/
def PurePort.answers (ports : List (PurePort D)) : Answers D
  | _, .ambient, _ => True
  | _, .describe index, descriptor =>
    ∃ port, ports[index]? = some port ∧ descriptor = port.descriptor
  | _, .offer index request, answer =>
    ∃ port, ports[index]? = some port ∧ answer = port.offers request

/-- A described port with its registration. -/
structure PortView (D : Type) where
  port : PurePort D
  enabled : Bool

/-- The view of a port at a place. -/
def PortView.at (v : PortView D) (index : Nat) : BackendView :=
  ⟨index, v.port.descriptor, v.enabled, v.port.safety⟩

def PortView.Le (v w : PortView D) : Prop := (v.at 0).Le (w.at 0)

instance : DecidableRel (PortView.Le (D := D)) := fun v w =>
  inferInstanceAs (Decidable ((v.at 0).Le (w.at 0)))

/-! ## The functions that routing computes -/

variable {taskId : String} {task : TaskRecord D} {spec : TaskSpec D} {c : CompiledConfiguration}
  {routed : RoutingResult D} {seen : List String} {views : List (PortView D)}
  {ports' : List (PurePort D)}

section Functions

variable [DecidableEq D] [DigestScheme D]

omit [DecidableEq D] [DigestScheme D] in
def describePorts (c : CompiledConfiguration) (seen : List String) :
    List (PurePort D) → Except (RoutingError D) (List (PortView D))
  | [] => .ok []
  | port :: rest => do
    let registration ← registrationOf c seen port.descriptor.backendId
    let views ← describePorts c (seen ++ [port.descriptor.backendId]) rest
    return ⟨port, registration.enabled⟩ :: views

def collectPorts : List ((ResolvedAgent × ExecutionRequest D) × PortView D) → Offers D →
    Except (RoutingError D) (Offers D)
  | [], found => .ok found
  | ((agent, request), view) :: rest, found =>
    if view.enabled = false ∨ view.port.descriptor.availableForOffers = false then
      collectPorts rest found
    else do
      let offers ← (view.port.offers request).mapError
        (.BackendOffer view.port.descriptor.backendId)
      collectPorts rest (offers.foldl (considerOffer agent request (view.at 0)) found)

/-- The Task as it is read from one state of the store. -/
def loadedTask (taskId : String) (d : Db D) :
    Except (RoutingError D) (TaskRecord D × TaskSpec D) := do
  let task ← match taskRecord taskId d with
    | some task => .ok task
    | none => .error (.TaskNotFound taskId)
  ensureReady task
  let spec ← readTaskSpec task (taskSpecJson task.specDigest d)
  return (task, spec)

/-- The decision for a loaded Task. -/
def decidePorts (taskId : String) (ports : List (PurePort D)) (c : CompiledConfiguration)
    (binding : ConfigurationBinding D) (task : TaskRecord D) (spec : TaskSpec D) :
    Except (RoutingError D) (RoutingResult D) := do
  let resolution ← (resolveAgents spec c binding).mapError .AgentResolution
  let requests ← buildRequests taskId spec c binding resolution.eligible
  let views ← describePorts c [] ports
  let sorted := views.insertionSort PortView.Le
  let found ← collectPorts (requests.flatMap fun r => sorted.map fun v => (r, v)) ⟨[], []⟩
  let candidate ← selectCandidate taskId found
  let request ← requestOf requests candidate
  return ⟨taskId, task.revision, spec.digest, binding, request, candidate⟩

/-- One routing of a Task. -/
def routePorts (taskId : String) (ports : List (PurePort D)) (s : Daemon D) :
    Except (RoutingError D) (RoutingResult D) := do
  let captured ← (ConfigurationAuthority.current s.own).mapError .Configuration
  let c ← routableConfiguration captured
  let (task, spec) ← loadedTask taskId s.db
  decidePorts taskId ports c captured.binding task spec

theorem loadedTask_of {d : Db D} (htask : taskRecord taskId d = some task)
    (hready : ensureReady task = .ok ())
    (hspec : readTaskSpec task (taskSpecJson task.specDigest d) = .ok spec) :
    loadedTask taskId d = .ok (task, spec) := by
  rw [loadedTask, htask]
  exact bind_eq_ok.mpr ⟨task, rfl, bind_eq_ok.mpr ⟨(), hready, bind_eq_ok.mpr ⟨spec, hspec, rfl⟩⟩⟩

theorem decidePorts_iff {ports : List (PurePort D)} {binding : ConfigurationBinding D} :
    decidePorts taskId ports c binding task spec = .ok routed ↔
      ∃ resolution, resolveAgents spec c binding = .ok resolution ∧
      ∃ requests, buildRequests taskId spec c binding resolution.eligible = .ok requests ∧
      ∃ views, describePorts c [] ports = .ok views ∧
      ∃ found, collectPorts (requests.flatMap fun r =>
        (views.insertionSort PortView.Le).map fun v => (r, v)) ⟨[], []⟩ = .ok found ∧
      ∃ candidate, selectCandidate taskId found = .ok candidate ∧
      ∃ request, requestOf requests candidate = .ok request ∧
        routed = ⟨taskId, task.revision, spec.digest, binding, request, candidate⟩ := by
  simp only [decidePorts, bind_eq_ok, pure_eq_ok, mapError_eq_ok]
  simp only [eq_comm]

/-- A Task is routed under the published configuration, from what the store has of it. -/
theorem routePorts_iff {ports : List (PurePort D)} {s : Daemon D} :
    routePorts taskId ports s = .ok routed ↔
      ∃ captured, s.own = some captured ∧ ∃ c, captured.compiled = some c ∧
      ∃ loaded, loadedTask taskId s.db = .ok loaded ∧
        decidePorts taskId ports c captured.binding loaded.1 loaded.2 = .ok routed := by
  have hcurrent : ∀ captured, ConfigurationAuthority.current s.own = .ok captured ↔
      s.own = some captured := by
    intro captured
    cases s.own <;> simp [ConfigurationAuthority.current]
  have hroutable : ∀ (captured : Snapshot D) c, routableConfiguration captured = .ok c ↔
      captured.compiled = some c := by
    intro captured c
    unfold routableConfiguration
    cases captured.compiled <;> simp
  simp only [routePorts, bind_eq_ok, mapError_eq_ok, hcurrent, hroutable]

end Functions

/-! ## Routing computes them -/

section Computes

variable [DecidableEq D] [DigestScheme D] {ports : List (PurePort D)} {s : Daemon D}

/-- The world of some ports. -/
abbrev PurePort.world (ports : List (PurePort D)) (_ : Daemon D) {β : Type} :
    FabricPort D β → β → Prop := PurePort.answers ports β

theorem describeBackends_computes (c : CompiledConfiguration) (before rest : List (PurePort D))
    (hports : ports = before ++ rest) (seen : List String) :
    Site.Computes (PurePort.world ports)
      (describeBackends c before.length seen (rest.map PurePort.safety)) s
      ((describePorts c seen rest).map fun views =>
        (views.zipIdx before.length).map fun e => e.1.at e.2) := by
  induction rest generalizing before seen with
  | nil => exact .pure
  | cons port rest ih =>
    have hport : ∀ descriptor, PurePort.world ports s (.describe before.length) descriptor ↔
        descriptor = port.descriptor := by
      intro descriptor
      have hplace : ports[before.length]? = some port := by rw [hports]; simp
      constructor
      · rintro ⟨found, hfound, rfl⟩
        rw [Option.some.inj (hplace.symm.trans hfound)]
      · rintro rfl
        exact ⟨port, hplace, rfl⟩
    have hrest := ih (before ++ [port]) (by rw [hports]; simp) (seen ++ [port.descriptor.backendId])
    rw [List.length_append, List.length_singleton] at hrest
    refine .thenOk (.ask hport) ?_
    cases hregistration :
        (registrationOf c seen port.descriptor.backendId : Except (RoutingError D) _) with
    | error e =>
      rw [describePorts, hregistration]
      exact .thenError .ofExcept
    | ok registration =>
      refine .thenOk .ofExcept ?_
      rw [describePorts, hregistration]
      cases hviews : describePorts c (seen ++ [port.descriptor.backendId]) rest with
      | error e =>
        rw [hviews] at hrest
        exact .thenError hrest
      | ok views =>
        rw [hviews] at hrest
        exact .thenOk hrest .pure

theorem collectOffers_computes
    (pairs : List ((ResolvedAgent × ExecutionRequest D) × (PortView D × Nat)))
    (hpairs : ∀ p ∈ pairs, ports[p.2.2]? = some p.2.1.port) (found : Offers D) :
    Site.Computes (PurePort.world ports)
      (collectOffers (pairs.map fun p => (p.1, p.2.1.at p.2.2)) found) s
      (collectPorts (pairs.map fun p => (p.1, p.2.1)) found) := by
  induction pairs generalizing found with
  | nil => exact .pure
  | cons pair pairs ih =>
    obtain ⟨⟨agent, request⟩, view, index⟩ := pair
    obtain ⟨hplace, hrest⟩ := List.forall_mem_cons.mp hpairs
    rw [List.map_cons, List.map_cons, collectOffers, collectPorts]
    by_cases hskip : view.enabled = false ∨ view.port.descriptor.availableForOffers = false
    · have hskip' : (view.at index).enabled = false ∨
          (view.at index).descriptor.availableForOffers = false := hskip
      rw [if_pos hskip, if_pos hskip']
      exact ih hrest found
    · have hskip' : ¬((view.at index).enabled = false ∨
          (view.at index).descriptor.availableForOffers = false) := hskip
      rw [if_neg hskip, if_neg hskip']
      refine .andThen (.tryAsk fun answer => ?_) fun offers _ => ih hrest _
      constructor
      · rintro ⟨port, hport, rfl⟩
        rw [Option.some.inj (hplace.symm.trans hport)]
      · rintro rfl
        exact ⟨view.port, hplace, rfl⟩

omit [DecidableEq D] [DigestScheme D] in
/-- Described ports keep their order and their places. -/
theorem describePorts_ports (h : describePorts c seen ports = .ok views) :
    views.map PortView.port = ports := by
  induction ports generalizing seen views with
  | nil =>
    obtain rfl := Except.ok.inj h
    rfl
  | cons port rest ih =>
    obtain ⟨registration, -, h⟩ := bind_ok h
    obtain ⟨others, hothers, h⟩ := bind_ok h
    obtain rfl := Except.ok.inj h
    rw [List.map_cons, ih hothers]

theorem loadTask_computes (taskId : String) :
    Site.Computes (PurePort.world ports) (loadTask taskId) s (loadedTask taskId s.db) := by
  refine .thenOk .readStore ?_
  unfold loadedTask
  cases taskRecord taskId s.db with
  | none => exact .thenError .orElse
  | some task =>
    refine .thenOk .orElse (.andThen .ofExcept fun _ _ => .thenOk .readStore ?_)
    exact .andThen .ofExcept fun spec _ => .pure

omit [DecidableEq D] [DigestScheme D] in
/-- Sorting views, each at its place, is sorting the ports they are of. -/
theorem sorted_views (views : List (PortView D)) :
    ∃ entries : List (PortView D × Nat), (∀ e ∈ entries, e ∈ views.zipIdx) ∧
      (views.zipIdx.map fun e => e.1.at e.2).insertionSort BackendView.Le =
        entries.map (fun e => e.1.at e.2) ∧
      views.insertionSort PortView.Le = entries.map Prod.fst := by
  refine ⟨views.zipIdx.insertionSort fun e f => e.1.Le f.1,
    fun e he => (List.mem_insertionSort _).mp he, ?_, ?_⟩
  · rw [List.map_insertionSort _ BackendView.Le]
    exact fun e _ f _ => Iff.rfl
  · rw [List.map_insertionSort _ PortView.Le]
    · rw [List.zipIdx_map_fst]
    · exact fun e _ f _ => Iff.rfl

theorem decideRoute_computes (taskId : String) (ports : List (PurePort D)) (c : CompiledConfiguration)
    (binding : ConfigurationBinding D) (s : Daemon D) :
    Site.Computes (PurePort.world ports)
      (decideRoute taskId (ports.map PurePort.safety) c binding) s
      (loadedTask taskId s.db >>= fun loaded =>
        decidePorts taskId ports c binding loaded.1 loaded.2) := by
  refine .andThen (loadTask_computes taskId) fun loaded _ => ?_
  refine .andThen .ofExcept fun resolution _ => .andThen .ofExcept fun requests _ => ?_
  have hdescribe := describeBackends_computes (s := s) c [] ports rfl []
  cases hviews : describePorts c [] ports with
  | error e =>
    rw [hviews] at hdescribe
    exact .thenError hdescribe
  | ok views =>
    rw [hviews] at hdescribe
    refine .thenOk hdescribe ?_
    obtain ⟨entries, hentries, hsorted, hports⟩ := sorted_views views
    have hplaces : ∀ p ∈ requests.flatMap fun r => entries.map fun e => (r, e),
        ports[p.2.2]? = some p.2.1.port := by
      intro p hp
      obtain ⟨r, -, hp⟩ := List.mem_flatMap.mp hp
      obtain ⟨e, he, rfl⟩ := List.mem_map.mp hp
      have hplace := List.mem_zipIdx_iff_getElem?.mp (hentries e he)
      rw [← describePorts_ports hviews, List.getElem?_map, hplace]
      rfl
    have hcollect := collectOffers_computes (s := s) _ hplaces ⟨[], []⟩
    rw [List.map_flatMap, List.map_flatMap] at hcollect
    simp only [List.map_map] at hcollect
    have hviewPairs : (fun r : ResolvedAgent × ExecutionRequest D =>
        ((views.zipIdx.map fun e => e.1.at e.2).insertionSort BackendView.Le).map fun v => (r, v)) =
        fun r => entries.map ((fun p => (p.1, p.2.1.at p.2.2)) ∘ fun e => (r, e)) := by
      rw [hsorted]
      simp only [List.map_map]
      rfl
    have hportPairs : (fun r : ResolvedAgent × ExecutionRequest D =>
        (views.insertionSort PortView.Le).map fun v => (r, v)) =
        fun r => entries.map ((fun p => (p.1, p.2.1)) ∘ fun e => (r, e)) := by
      rw [hports]
      simp only [List.map_map]
      rfl
    rw [← hviewPairs, ← hportPairs] at hcollect
    exact .andThen hcollect fun found _ => .andThen .ofExcept fun candidate _ =>
      .andThen .ofExcept fun request _ => .pure

/-- One call of `route_ready_task` computes a function of the ports and the daemon. -/
theorem routeReadyTask_computes (taskId : String) (ports : List (PurePort D)) (s : Daemon D) :
    Site.Computes (PurePort.world ports) (routeReadyTask taskId (ports.map PurePort.safety)) s
      (routePorts taskId ports s) := by
  have hsnapshot : Site.Computes (PurePort.world ports)
      (tryAs (RoutingError.Configuration (D := D)) ConfigurationAuthority.snapshot) s
      ((ConfigurationAuthority.current s.own).mapError .Configuration) := .ownRead
  unfold routePorts
  cases hcurrent : ConfigurationAuthority.current s.own with
  | error e =>
    rw [hcurrent] at hsnapshot
    exact .thenError hsnapshot
  | ok captured =>
    rw [hcurrent] at hsnapshot
    refine .thenOk hsnapshot (.andThen .ofExcept fun c _ => ?_)
    have hdecide := decideRoute_computes taskId ports c captured.binding s
    cases hrouted : loadedTask taskId s.db >>= fun loaded =>
        decidePorts taskId ports c captured.binding loaded.1 loaded.2 with
    | error e =>
      rw [hrouted] at hdecide
      exact .thenError hdecide
    | ok routed =>
      rw [hrouted] at hdecide
      -- nothing was published in between, so the second look finds the same configuration
      have hunchanged : refuseIf (captured.binding ≠ captured.binding)
          (RoutingError.StaleConfiguration (D := D)) = .ok () := refuseIf_eq_ok.mpr (by simp)
      refine .thenOk hdecide (.thenOk hsnapshot (.thenOk (a := ()) ?_ .pure))
      rw [hunchanged]
      exact .ofExcept

end Computes

/-! ## The order of the ports -/

section Order

/-- The registration of a port's backend. -/
def PurePort.registration (c : CompiledConfiguration) (port : PurePort D) :
    Option BackendRegistration :=
  c.execution.backends.find? fun r => r.backendId == port.descriptor.backendId

/-- The view of a registered port. -/
def PurePort.view (c : CompiledConfiguration) (port : PurePort D) : PortView D :=
  ⟨port, ((port.registration c).map BackendRegistration.enabled).getD false⟩

theorem registrationOf_iff {backendId : String} {registration : BackendRegistration} :
    (registrationOf c seen backendId : Except (RoutingError D) _) = .ok registration ↔
      backendId ∉ seen ∧
        c.execution.backends.find? (fun r => r.backendId == backendId) = some registration := by
  unfold registrationOf
  by_cases hseen : backendId ∈ seen
  · simp [hseen]
  · rw [if_neg hseen]
    cases c.execution.backends.find? fun r => r.backendId == backendId with
    | none => simp
    | some found => simp [hseen]

/-- Ports are described when each is registered and no two use one identity. -/
theorem describePorts_iff {ports : List (PurePort D)} :
    describePorts c seen ports = .ok views ↔
      (∀ port ∈ ports, port.descriptor.backendId ∉ seen ∧ (port.registration c).isSome) ∧
        (ports.map fun port => port.descriptor.backendId).Nodup ∧
        views = ports.map (PurePort.view c) := by
  induction ports generalizing seen views with
  | nil =>
    rw [describePorts, Except.ok.injEq, List.map_nil, List.map_nil, eq_comm]
    exact ⟨fun h => ⟨nofun, List.nodup_nil, h⟩, fun h => h.2.2⟩
  | cons port rest ih =>
    simp only [describePorts, bind_eq_ok, registrationOf_iff, ih, pure_eq_ok, List.map_cons,
      List.nodup_cons, List.forall_mem_cons, List.mem_append, List.mem_singleton, not_or]
    constructor
    · rintro ⟨registration, ⟨hnew, hfound⟩, _, ⟨hrest, hnodup, rfl⟩, rfl⟩
      have hregistration : port.registration c = some registration := hfound
      refine ⟨⟨⟨hnew, by rw [hregistration]; rfl⟩, fun p hp => ⟨(hrest p hp).1.1, (hrest p hp).2⟩⟩,
        ⟨fun hmem => ?_, hnodup⟩, ?_⟩
      · obtain ⟨p, hp, heq⟩ := List.mem_map.mp hmem
        exact (hrest p hp).1.2 heq
      · rw [PurePort.view, hregistration]
        rfl
    · rintro ⟨⟨⟨hnew, hsome⟩, hrest⟩, ⟨hfresh, hnodup⟩, rfl⟩
      obtain ⟨registration, hregistration⟩ := Option.isSome_iff_exists.mp hsome
      refine ⟨registration, ⟨hnew, hregistration⟩, rest.map (PurePort.view c),
        ⟨fun p hp => ⟨⟨(hrest p hp).1, fun heq => ?_⟩, (hrest p hp).2⟩, hnodup, rfl⟩, ?_⟩
      · exact hfresh (List.mem_map.mpr ⟨p, hp, heq⟩)
      · rw [PurePort.view, hregistration]
        rfl

instance : Std.Total (PortView.Le (D := D)) := by
  constructor
  intro v w
  rcases lt_trichotomy v.port.descriptor.backendId w.port.descriptor.backendId with h | h | h
  · exact .inl (.inl h)
  · rcases Nat.le_total v.port.descriptor.revision w.port.descriptor.revision with hr | hr
    · exact .inl (.inr ⟨h, hr⟩)
    · exact .inr (.inr ⟨h.symm, hr⟩)
  · exact .inr (.inl h)

instance : IsTrans (PortView D) PortView.Le := by
  constructor
  rintro u v w (huv | ⟨huv, hr⟩) (hvw | ⟨hvw, hr'⟩)
  · exact .inl (lt_trans huv hvw)
  · exact .inl (lt_of_lt_of_eq huv hvw)
  · exact .inl (lt_of_eq_of_lt huv hvw)
  · exact .inr ⟨huv.trans hvw, Nat.le_trans hr hr'⟩

/-- Views that go before each other are of one identity. -/
theorem PortView.Le.antisymm {v w : PortView D} (h : v.Le w) (h' : w.Le v) :
    v.port.descriptor.backendId = w.port.descriptor.backendId := by
  rcases h with h | ⟨h, -⟩
  · rcases h' with h' | ⟨h', -⟩
    · exact absurd (lt_trans h h') (lt_irrefl _)
    · exact h'.symm
  · exact h

/-- Described ports are sorted to one list, whatever their order. -/
theorem sorted_ports {ports : List (PurePort D)}
    (hids : (ports.map fun port => port.descriptor.backendId).Nodup) (hperm : ports.Perm ports') :
    (ports.map (PurePort.view c)).insertionSort PortView.Le =
      (ports'.map (PurePort.view c)).insertionSort PortView.Le := by
  have hviews := hperm.map (PurePort.view c)
  refine List.Perm.eq_of_pairwise (fun v w hv hw hvw hwv => ?_)
    (List.pairwise_insertionSort _ _) (List.pairwise_insertionSort _ _)
    (((List.perm_insertionSort _ _).trans hviews).trans (List.perm_insertionSort _ _).symm)
  obtain ⟨p, hp, rfl⟩ := List.mem_map.mp ((List.mem_insertionSort _).mp hv)
  obtain ⟨q, hq, rfl⟩ := List.mem_map.mp ((List.mem_insertionSort _).mp hw)
  exact congrArg _ (List.inj_on_of_nodup_map hids hp (hperm.mem_iff.mpr hq) (hvw.antisymm hwv))

variable [DecidableEq D] [DigestScheme D]

/-- A decision does not depend on the order of the ports. -/
theorem decidePorts_perm {ports : List (PurePort D)} {binding : ConfigurationBinding D}
    (hperm : ports.Perm ports') (h : decidePorts taskId ports c binding task spec = .ok routed) :
    decidePorts taskId ports' c binding task spec = .ok routed := by
  obtain ⟨resolution, hresolution, requests, hrequests, views, hviews, hrest⟩ :=
    decidePorts_iff.mp h
  obtain ⟨hall, hids, rfl⟩ := describePorts_iff.mp hviews
  have hviews' : describePorts c [] ports' = .ok (ports'.map (PurePort.view c)) :=
    describePorts_iff.mpr ⟨fun p hp => hall p (hperm.mem_iff.mpr hp),
      (hperm.map _).nodup_iff.mp hids, rfl⟩
  rw [sorted_ports hids hperm] at hrest
  exact decidePorts_iff.mpr ⟨resolution, hresolution, requests, hrequests, _, hviews', hrest⟩

/-- A candidate that some ports offered for some requests was accepted under one port's own
    descriptor and safety facts. -/
def PortsOffered (requests : List (ResolvedAgent × ExecutionRequest D)) (views : List (PortView D))
    (candidate : ExecutionCandidate D) : Prop :=
  ∃ r ∈ requests, ∃ view ∈ views, ∃ offers, view.port.offers r.2 = .ok offers ∧
    candidate.offer ∈ offers ∧ validateExecutionCandidate r.2 r.1 view.port.descriptor
      candidate.offer view.enabled view.port.safety = .ok candidate

theorem collectPorts_offered {requests : List (ResolvedAgent × ExecutionRequest D)}
    {pairs : List ((ResolvedAgent × ExecutionRequest D) × PortView D)}
    (hpairs : ∀ p ∈ pairs, p.1 ∈ requests ∧ p.2 ∈ views) {found found' : Offers D}
    (hfound : ∀ candidate ∈ found.candidates, PortsOffered requests views candidate)
    (h : collectPorts pairs found = .ok found') :
    ∀ candidate ∈ found'.candidates, PortsOffered requests views candidate := by
  induction pairs generalizing found with
  | nil =>
    obtain rfl := Except.ok.inj h
    exact hfound
  | cons pair pairs ih =>
    obtain ⟨⟨agent, request⟩, view⟩ := pair
    obtain ⟨⟨hrequest, hview⟩, hrest⟩ := List.forall_mem_cons.mp hpairs
    unfold collectPorts at h
    split at h
    · exact ih hrest hfound h
    · obtain ⟨offers, hoffers, h⟩ := bind_ok h
      refine ih hrest (considerOffers_each offers (fun offer hoffer candidate hvalid => ?_) hfound) h
      have hanswer := mapError_eq_ok.mp hoffers
      obtain ⟨-, rfl⟩ := validateExecutionCandidate_iff.mp hvalid
      exact ⟨_, hrequest, view, hview, offers, hanswer, hoffer, hvalid⟩

/-- Nor does a whole call. -/
theorem routePorts_perm {ports : List (PurePort D)} {s : Daemon D} (hperm : ports.Perm ports')
    (h : routePorts taskId ports s = .ok routed) : routePorts taskId ports' s = .ok routed := by
  obtain ⟨captured, hcaptured, c, hc, loaded, hloaded, hdecided⟩ := routePorts_iff.mp h
  exact routePorts_iff.mpr
    ⟨captured, hcaptured, c, hc, loaded, hloaded, decidePorts_perm hperm hdecided⟩

end Order

end Pantheon
