/-
  Routing of one Ready Task (`pantheon-engine/src/routing.rs`).
  `routeReadyTask` captures the published configuration, resolves agents and requests from it,
  asks the backends for offers and selects a candidate; it then looks at the published
  configuration again and refuses a decision that it has outlived. It writes nothing.
-/
import Pantheon.Engine.Configuration

namespace Pantheon

open Interleave Routine

variable {D : Type} [DecidableEq D] [DigestScheme D]

/-! ## Failures -/

/-- An offer that did not become a candidate. -/
structure OfferRejection where
  agent : LogicalAgentVersion
  backendId : String
  reason : CandidateRejection
  deriving Repr, DecidableEq

inductive RoutingError (D : Type) where
  | Store (error : StoreError)
  | Configuration (error : ConfigurationError)
  | TaskNotFound (taskId : String)
  | TaskNotReady (taskId : String) (phase : TaskPhase) (activeRunId : Option String)
  | TaskSpecUnavailable (taskId : String)
  | InvalidTaskSpec (taskId detail : String)
  | TaskSpecDigestMismatch (taskId : String)
  | AgentResolution (error : AgentResolutionError D)
  | RequestBuild (error : RequestBuildError)
  | UnregisteredBackend (backendId : String)
  | DuplicateBackendDescriptor (backendId : String)
  | BackendOffer (backendId detail : String)
  | NoCompatibleOffers (taskId : String) (rejections : List OfferRejection)
  | Selection (error : SelectionError)
  | StaleConfiguration
  deriving Repr, DecidableEq

deriving instance Ord for LogicalAgentVersion, CandidateRejection, OfferRejection

/-! ## The Task -/

/-- `ensure_ready`. -/
def ensureReady (task : TaskRecord D) : Except (RoutingError D) Unit :=
  refuseIf (task.phase ≠ .Ready ∨ task.activeRunId ≠ none)
    (.TaskNotReady task.id task.phase task.activeRunId)

/-- `read_task_spec`, from the stored text. -/
def readTaskSpec (task : TaskRecord D) (stored : Option String) :
    Except (RoutingError D) (TaskSpec D) :=
  match stored with
  | none => .error (.TaskSpecUnavailable task.id)
  | some text =>
    match TaskSpec.fromCanonicalJson text with
    | .error e => .error (.InvalidTaskSpec task.id e.display)
    | .ok (spec : TaskSpec D) => do
      refuseIf (spec.digest ≠ task.specDigest) (.TaskSpecDigestMismatch task.id)
      refuseIf (spec.goalId ≠ task.goalId)
        (.InvalidTaskSpec task.id "Task specification names a different Goal")
      return spec

/-! ## Requests and backends -/

/-- One request for each eligible agent. -/
def buildRequests (taskId : String) (spec : TaskSpec D) (c : CompiledConfiguration)
    (binding : ConfigurationBinding D) (eligible : List ResolvedAgent) :
    Except (RoutingError D) (List (ResolvedAgent × ExecutionRequest D)) :=
  eligible.mapM fun agent =>
    match buildExecutionRequest taskId spec agent c binding with
    | .ok request => .ok (agent, request)
    | .error e => .error (.RequestBuild e)

/-- A described backend, by its place among the ports. -/
structure BackendView where
  backend : Nat
  descriptor : BackendDescriptor
  enabled : Bool
  safety : ControllerSafetyFacts
  deriving Repr, DecidableEq

/-- The registration of a described backend, which may be described only once. -/
def registrationOf (c : CompiledConfiguration) (seen : List String) (backendId : String) :
    Except (RoutingError D) BackendRegistration :=
  if backendId ∈ seen then .error (.DuplicateBackendDescriptor backendId)
  else match c.execution.backends.find? fun r => r.backendId == backendId with
    | none => .error (.UnregisteredBackend backendId)
    | some registration => .ok registration

/-- Asks each port for its descriptor, from the given place on. -/
def describeBackends (c : CompiledConfiguration) (index : Nat) (seen : List String) :
    List ControllerSafetyFacts → DaemonControl (RoutingError D) D (List BackendView)
  | [] => pure []
  | safety :: rest => do
    let descriptor ← always (Prog.ask (.describe index))
    let registration ← Routine.ofExcept (registrationOf c seen descriptor.backendId)
    let views ← describeBackends c (index + 1) (seen ++ [descriptor.backendId]) rest
    return ⟨index, descriptor, registration.enabled, safety⟩ :: views

/-- The order in which backends are asked for offers. -/
def BackendView.Le (a b : BackendView) : Prop :=
  a.descriptor.backendId < b.descriptor.backendId ∨
    a.descriptor.backendId = b.descriptor.backendId ∧ a.descriptor.revision ≤ b.descriptor.revision

instance : DecidableRel BackendView.Le := fun _ _ => inferInstanceAs (Decidable (_ ∨ _ ∧ _))

/-! ## Offers -/

/-- What the offers seen so far became. -/
structure Offers (D : Type) where
  candidates : List (ExecutionCandidate D)
  rejections : List OfferRejection
  deriving Repr, DecidableEq

/-- One offer becomes a candidate or a rejection. -/
def considerOffer (agent : ResolvedAgent) (request : ExecutionRequest D) (view : BackendView)
    (found : Offers D) (offer : ExecutionOffer D) : Offers D :=
  match validateExecutionCandidate request agent view.descriptor offer view.enabled
    view.safety with
  | .ok candidate => { found with candidates := found.candidates ++ [candidate] }
  | .error reason =>
    { found with
      rejections := found.rejections ++ [⟨agent.identity, view.descriptor.backendId, reason⟩] }

/-- Asks every enabled and available backend for offers for every request. -/
def collectOffers :
    List ((ResolvedAgent × ExecutionRequest D) × BackendView) → Offers D →
      DaemonControl (RoutingError D) D (Offers D)
  | [], found => pure found
  | ((agent, request), view) :: rest, found =>
    if view.enabled = false ∨ view.descriptor.availableForOffers = false then
      collectOffers rest found
    else do
      let offers ← tryAs (.BackendOffer view.descriptor.backendId)
        (Prog.ask (.offer view.backend request))
      collectOffers rest (offers.foldl (considerOffer agent request view) found)

/-- The least candidate, or why there is none. -/
def selectCandidate (taskId : String) (found : Offers D) :
    Except (RoutingError D) (ExecutionCandidate D) :=
  match selectExecutionCandidate found.candidates with
  | .ok candidate => .ok candidate
  | .error _ => .error (.NoCompatibleOffers taskId
      (found.rejections.insertionSort fun a b => (compare a b).isLE = true))

/-- The request a candidate answers. -/
def requestOf (requests : List (ResolvedAgent × ExecutionRequest D))
    (candidate : ExecutionCandidate D) : Except (RoutingError D) (ExecutionRequest D) :=
  match requests.find? fun r => r.2.digest == candidate.requestDigest with
  | some r => .ok r.2
  | none => .error (.Selection .NoCandidates)

/-! ## Routing -/

/-- The compiled semantics of the captured snapshot. -/
def routableConfiguration (s : Snapshot D) : Except (RoutingError D) CompiledConfiguration :=
  match s.compiled with
  | some c => .ok c
  | none => .error (.Configuration
      (.Unavailable "the captured configuration has no usable compiled semantics"))

/-- The Task under decision and its specification. -/
def loadTask (taskId : String) :
    DaemonControl (RoutingError D) D (TaskRecord D × TaskSpec D) := do
  let found ← always (Routine.readStore (taskRecord taskId))
  let task ← orElse (.TaskNotFound taskId) found
  Routine.ofExcept (ensureReady task)
  let stored ← always (Routine.readStore (taskSpecJson task.specDigest))
  let spec ← Routine.ofExcept (readTaskSpec task stored)
  return (task, spec)

/-- The decision under one compiled configuration. -/
def decideRoute (taskId : String) (backends : List ControllerSafetyFacts)
    (c : CompiledConfiguration) (binding : ConfigurationBinding D) :
    DaemonControl (RoutingError D) D (RoutingResult D) := do
  let (task, spec) ← loadTask taskId
  let resolution ← Routine.ofExcept ((resolveAgents spec c binding).mapError .AgentResolution)
  let requests ← Routine.ofExcept (buildRequests taskId spec c binding resolution.eligible)
  let views ← describeBackends c 0 [] backends
  let sorted := views.insertionSort BackendView.Le
  let found ← collectOffers (requests.flatMap fun r => sorted.map fun v => (r, v)) ⟨[], []⟩
  let candidate ← Routine.ofExcept (selectCandidate taskId found)
  let request ← Routine.ofExcept (requestOf requests candidate)
  return ⟨taskId, task.revision, spec.digest, binding, request, candidate⟩

/-- `RoutingController::route_ready_task`. -/
def routeReadyTask (taskId : String) (backends : List ControllerSafetyFacts) :
    DaemonControl (RoutingError D) D (RoutingResult D) := do
  let captured ← tryAs .Configuration ConfigurationAuthority.snapshot
  let compiled ← Routine.ofExcept (routableConfiguration captured)
  let routed ← decideRoute taskId backends compiled captured.binding
  let current ← tryAs .Configuration ConfigurationAuthority.snapshot
  Routine.ofExcept (refuseIf (captured.binding ≠ current.binding) .StaleConfiguration)
  return routed

/-! ## Where a decision comes from -/

/-- What holds of every candidate an answer's offers become is kept as they are taken one after
    the other. -/
theorem considerOffers_each {P : ExecutionCandidate D → Prop} {agent : ResolvedAgent}
    {request : ExecutionRequest D} {view : BackendView} (offers : List (ExecutionOffer D))
    (hone : ∀ offer ∈ offers, ∀ candidate, validateExecutionCandidate request agent view.descriptor
      offer view.enabled view.safety = .ok candidate → P candidate) {found : Offers D}
    (h : ∀ candidate ∈ found.candidates, P candidate) :
    ∀ candidate ∈ (offers.foldl (considerOffer agent request view) found).candidates,
      P candidate := by
  induction offers generalizing found with
  | nil => exact h
  | cons offer offers ih =>
    refine ih (fun o ho => hone o (List.mem_cons_of_mem _ ho)) fun candidate hcandidate => ?_
    unfold considerOffer at hcandidate
    split at hcandidate
    · rename_i accepted hvalid
      rcases List.mem_append.mp hcandidate with hold | hnew
      · exact h candidate hold
      · obtain rfl := List.mem_singleton.mp hnew
        exact hone offer List.mem_cons_self _ hvalid
    · exact h candidate hcandidate

theorem buildRequests_ok {taskId : String} {spec : TaskSpec D} {c : CompiledConfiguration}
    {binding : ConfigurationBinding D} {eligible : List ResolvedAgent}
    {requests : List (ResolvedAgent × ExecutionRequest D)}
    (h : buildRequests taskId spec c binding eligible = .ok requests) :
    ∀ r ∈ requests, r.1 ∈ eligible ∧ buildExecutionRequest taskId spec r.1 c binding = .ok r.2 := by
  unfold buildRequests at h
  induction eligible generalizing requests with
  | nil =>
    obtain rfl := Except.ok.inj h
    simp
  | cons agent eligible ih =>
    rw [List.mapM_cons] at h
    obtain ⟨first, hfirst, h⟩ := bind_ok h
    obtain ⟨rest, hrest, h⟩ := bind_ok h
    obtain rfl := Except.ok.inj h
    intro r hr
    rcases List.mem_cons.mp hr with rfl | hr
    · split at hfirst
      · rename_i request hrequest
        obtain rfl := Except.ok.inj hfirst
        exact ⟨List.mem_cons_self, hrequest⟩
      · cases hfirst
    · obtain ⟨hmem, hbuilt⟩ := ih hrest r hr
      exact ⟨List.mem_cons_of_mem _ hmem, hbuilt⟩

omit [DecidableEq D] in
theorem selectCandidate_ok {taskId : String} {found : Offers D} {candidate : ExecutionCandidate D}
    (h : selectCandidate taskId found = .ok candidate) : candidate ∈ found.candidates := by
  unfold selectCandidate at h
  split at h
  · rename_i least hleast
    obtain rfl := Except.ok.inj h
    exact selectExecutionCandidate_mem hleast
  · cases h

theorem requestOf_ok {requests : List (ResolvedAgent × ExecutionRequest D)}
    {candidate : ExecutionCandidate D} {request : ExecutionRequest D}
    (h : requestOf requests candidate = .ok request) :
    request.digest = candidate.requestDigest ∧ ∃ agent, (agent, request) ∈ requests := by
  unfold requestOf at h
  split at h
  · rename_i r hr
    obtain rfl := Except.ok.inj h
    exact ⟨by simpa using List.find?_some hr, r.1, List.mem_of_find?_eq_some hr⟩
  · cases h

end Pantheon
