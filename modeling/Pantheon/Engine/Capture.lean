/-
  What a seal has done by the time it does something else.
  The account of `ChangesetSealer::seal`: along its trail, the tree is captured only behind a
  fence, bytes are handed to the object store only if they are captured from a path the Task's
  scope authorizes or are the base's at such a path, and a publication names entries at authorized
  paths whose payloads the object store has acknowledged before. Between the steps others may do
  anything, and the calls may answer anything.
-/
import Pantheon.Engine.Accounting
import Pantheon.Engine.Sealing

namespace Pantheon

open Interleave SortedAssoc Routine

variable {D : Type} [DecidableEq D] [DigestScheme D]

abbrev SealMoment (D : Type) [DecidableEq D] [DigestScheme D] : Type 1 :=
  SiteMoment D (Acknowledged D) Unit (SealPort D)

/-! ## What a trail shows -/

/-- The store was read in this state. -/
def Looked (h : List (SealMoment D)) (s : Site D (Acknowledged D)) : Prop := Moment.tx .read s s ∈ h

/-- A command was answered. -/
def Answered (h : List (SealMoment D)) (command : Command D) (mutation : Mutation D) : Prop :=
  ∃ ambient s a, Moment.tx (.call ambient (.command command mutation)) s
      { s with db := (StoreOp.command command mutation).apply ambient s.db } ∈ h ∧
    ((StoreOp.command command mutation).answer ambient s.db).1 = .ok a

/-- The object store has acknowledged a payload of this digest and size. -/
def Acked (h : List (SealMoment D)) (digest : D) (size : Nat) : Prop :=
  ∃ bytes, Moment.call (SealPort.publish bytes) (.ok ⟨digest, size⟩) ∈ h ∧ bytes.length = size

/-- The specification of an Active Task, as it was read. -/
structure SpecRead (h : List (SealMoment D)) (taskId : String) (spec : TaskSpec D) : Prop where
  task : ∃ s task, Looked h s ∧ taskRecord taskId s.db = some task ∧ task.phase = .Active ∧
    task.specDigest = spec.digest
  stored : ∃ s text, Looked h s ∧ taskSpecJson spec.digest s.db = some text ∧
    TaskSpec.fromCanonicalJson text = .ok spec

/-- The Workspace of a Task, as it was read. -/
def WorkspaceRead (h : List (SealMoment D)) (taskId : String) (workspace : WorkspaceRecord) : Prop :=
  ∃ s, Looked h s ∧ workspaceForTask taskId s.db = .ok (some workspace)

/-- The fence of a capture: a freeze that was answered and then read back, or a validation of a
    Workspace that was read Frozen. -/
inductive FenceHeld (h : List (SealMoment D)) (command : SealCommand D) (request : SealRequest)
    (workspace : WorkspaceRecord) (fence : Int) : Prop
  | frozen (id : String) (ready : workspace.phase = .Ready)
    (derived : command.derive s!"freeze:{workspace.revision}:{authorityTag request.authority}" = .ok id)
    (answered : Answered h (command.inner id "workspace.frozen") (.freezeWorkspace request.authority
      request.taskId request.outputSlot workspace.id workspace.revision))
    (held : ∃ s found, Looked h s ∧ workspaceForTask workspace.taskId s.db = .ok found ∧
      heldFence workspace.id found = .ok fence)
  | validated (id : String) (frozen : workspace.phase = .Frozen)
    (present : workspace.materialization = .Present) (unchanged : workspace.revision = fence)
    (derived : command.derive s!"validated:{workspace.revision}:{authorityTag request.authority}" = .ok id)
    (answered : Answered h (command.inner id "workspace.seal-authority.validated")
      (.validateSealAuthority request.authority request.taskId request.outputSlot workspace.id
        workspace.revision))

/-- What a capture runs under. -/
structure Under (h : List (SealMoment D)) (command : SealCommand D) (request : SealRequest)
    (spec : TaskSpec D) (scope : WorkspaceScope) (workspace : WorkspaceRecord) (fence : Int) :
    Prop where
  spec_read : SpecRead h request.taskId spec
  slot : checkSlot request spec = .ok ()
  workspace_read : WorkspaceRead h request.taskId workspace
  repository : checkRepository request spec workspace = .ok ()
  fenced : FenceHeld h command request workspace fence
  compiled : sealScope spec = .ok scope

/-- Bytes a seal may hand to the object store. -/
inductive Payload (h : List (SealMoment D)) (workspace : WorkspaceRecord) (scope : WorkspaceScope) :
    Bytes → Prop
  | captured (root : String) (walk : Walk) (entry : CapturedEntry)
    (walked : Moment.call (SealPort.captureTree root) walk ∈ h) (delivered : entry ∈ walk.entries)
    (authorized : scope.authorizes entry.path = true) : Payload h workspace scope entry.bytes
  | base (tree : BaseTree) (path : RepositoryPath) (object : BaseObject) (bytes : Bytes)
    (listed : Moment.call (SealPort.baseTree workspace.sourcePath workspace.resolvedBase) (.ok tree) ∈ h)
    (found : (path.bytes, object) ∈ tree.1) (authorized : scope.authorizes path = true)
    (read : Moment.call (SealPort.blobBytes workspace.sourcePath object.oid) (.ok bytes) ∈ h) :
    Payload h workspace scope bytes

/-- A side of an entry whose payload, if it has one, is acknowledged. -/
def SideAcked (h : List (SealMoment D)) (state : EntryState D) : Prop :=
  ∀ kind blob size, state = .Present kind blob size → Acked h blob size

/-- An entry at an authorized path with acknowledged payloads. -/
structure EntryBacked (h : List (SealMoment D)) (scope : WorkspaceScope) (entry : ChangesetEntry D) :
    Prop where
  authorized : scope.authorizes entry.path = true
  before : SideAcked h entry.before
  after : SideAcked h entry.after

/-- What a publication is made of. -/
structure PublicationBacked (h : List (SealMoment D)) (command : SealCommand D) (request : SealRequest)
    (scope : WorkspaceScope) (workspace : WorkspaceRecord) (fence : Int) (identity : Command D)
    (sealed : SealedChangeset D) (entries : List (ChangesetEntry D)) (a : Assembled D) : Prop where
  backed : ∀ entry ∈ entries, EntryBacked h scope entry
  assembled : ∃ captured, assemble workspace ⟨captured, entries⟩ = .ok a
  published : sealed = sealedChangeset request workspace fence a
  identity : ∃ id, identity = command.inner id "workspace.sealed" ∧
    command.derive s!"sealed:{fence}:{authorityTag request.authority}" = .ok id

/-- The answer of a seal: the manifest of a publication that was answered. -/
def Returned (h : List (SealMoment D)) (command : SealCommand D) (request : SealRequest)
    (result : SealedArtifact D) : Prop :=
  ∃ workspace fence a id,
    command.derive s!"sealed:{fence}:{authorityTag request.authority}" = .ok id ∧
      Answered h (command.inner id "workspace.sealed")
        (.commitChangesetSeal (sealedChangeset request workspace fence a)) ∧
      result.artifactDigest = a.artifactDigest ∧ result.artifactJson = a.artifactJson

/-! ## Trails only grow -/

variable {taskId root : String} {spec : TaskSpec D} {walk : Walk} {entry : CapturedEntry}
  {c : Capture D} {tree : BaseTree} {path : RepositoryPath}

section Mono

variable {h h' : List (SealMoment D)} {command : SealCommand D} {request : SealRequest}
  {workspace : WorkspaceRecord} {scope : WorkspaceScope} {fence : Int}

theorem Looked.mono (hs : h <:+ h') {s : Site D (Acknowledged D)} (hl : Looked h s) : Looked h' s :=
  hs.subset hl

theorem Answered.mono (hs : h <:+ h') {identity : Command D} {mutation : Mutation D}
    (ha : Answered h identity mutation) : Answered h' identity mutation := by
  obtain ⟨ambient, s, a, hm, ha⟩ := ha
  exact ⟨ambient, s, a, hs.subset hm, ha⟩

/-- A command is answered by the transaction that comes next. -/
theorem Answered.latest {identity : Command D} {mutation : Mutation D} {ambient : Ambient}
    {s : Site D (Acknowledged D)} {a : (StoreOp.command identity mutation).Answer}
    (ha : ((StoreOp.command identity mutation).answer ambient s.db).1 = .ok a) :
    Answered (.tx (.call ambient (.command identity mutation)) s
      { s with db := (StoreOp.command identity mutation).apply ambient s.db } :: h) identity mutation :=
  ⟨ambient, s, a, List.mem_cons_self, ha⟩

theorem Acked.mono (hs : h <:+ h') {digest : D} {size : Nat} (ha : Acked h digest size) :
    Acked h' digest size := by
  obtain ⟨bytes, hm, hb⟩ := ha
  exact ⟨bytes, hs.subset hm, hb⟩

theorem SpecRead.mono (hs : h <:+ h') (hr : SpecRead h taskId spec) : SpecRead h' taskId spec := by
  obtain ⟨⟨s, task, hl, htask⟩, ⟨t, text, hl', htext⟩⟩ := hr
  exact ⟨⟨s, task, hl.mono hs, htask⟩, ⟨t, text, hl'.mono hs, htext⟩⟩

theorem WorkspaceRead.mono (hs : h <:+ h') (hr : WorkspaceRead h taskId workspace) :
    WorkspaceRead h' taskId workspace := by
  obtain ⟨s, hl, hw⟩ := hr
  exact ⟨s, hl.mono hs, hw⟩

theorem FenceHeld.mono (hs : h <:+ h') (hf : FenceHeld h command request workspace fence) :
    FenceHeld h' command request workspace fence := by
  cases hf with
  | frozen id ready derived answered held =>
    obtain ⟨s, found, hl, hheld⟩ := held
    exact .frozen id ready derived (answered.mono hs) ⟨s, found, hl.mono hs, hheld⟩
  | validated id frozen present unchanged derived answered =>
    exact .validated id frozen present unchanged derived (answered.mono hs)

theorem Under.mono (hs : h <:+ h') (hu : Under h command request spec scope workspace fence) :
    Under h' command request spec scope workspace fence :=
  { hu with
    spec_read := hu.spec_read.mono hs
    workspace_read := hu.workspace_read.mono hs
    fenced := hu.fenced.mono hs }

theorem SideAcked.mono (hs : h <:+ h') {state : EntryState D} (ha : SideAcked h state) :
    SideAcked h' state := fun kind blob size heq => (ha kind blob size heq).mono hs

theorem EntryBacked.mono (hs : h <:+ h') {entry : ChangesetEntry D}
    (hb : EntryBacked h scope entry) : EntryBacked h' scope entry :=
  ⟨hb.authorized, hb.before.mono hs, hb.after.mono hs⟩

end Mono

/-! ## The account -/

/-- What justifies the actions of a seal. -/
def sealAct (workspaceRoot : String) (command : SealCommand D) (request : SealRequest)
    (h : List (SealMoment D)) : Action (SiteLabel D Unit) (SealPort D) → Prop
  | .call (.captureTree root) => ∃ spec scope workspace fence,
      Under h command request spec scope workspace fence ∧
        root = captureRootOf workspaceRoot workspace.id
  | .call (.publish bytes) => ∃ spec scope workspace fence,
      Under h command request spec scope workspace fence ∧ Payload h workspace scope bytes
  | .tx (.call _ (.command identity (.commitChangesetSeal sealed))) =>
    ∃ spec scope workspace fence entries a, Under h command request spec scope workspace fence ∧
      PublicationBacked h command request scope workspace fence identity sealed entries a
  | .tx (.call _ (.command _ (.materializePlan _ _ _))) => False
  | _ => True

section Account

variable {workspaceRoot : String} {command : SealCommand D} {request : SealRequest}
  {spec : TaskSpec D} {scope : WorkspaceScope} {workspace : WorkspaceRecord} {fence : Int}
  {h : List (SealMoment D)}

/-- A part of the seal's account. -/
abbrev Seals {ε α : Type} (workspaceRoot : String) (command : SealCommand D) (request : SealRequest)
    (h : List (SealMoment D)) (x : Sealing ε D α) (R : List (SealMoment D) → α → Prop) : Prop :=
  Accounted (sealAct workspaceRoot command request) h x R

/-! ## Capture -/

theorem flushIdentityBatch_seals (source : String) (batch : List (Bytes × Bytes))
    (identities : List (Bytes × String)) :
    Seals workspaceRoot command request h (flushIdentityBatch source batch identities)
      fun _ _ => True := by
  unfold flushIdentityBatch
  split
  · exact .pure trivial
  · exact .tryAskThen trivial fun _ => .ofExceptThen fun _ _ => .pure trivial

/-- A delivered entry is retained exactly if its path is authorized. -/
theorem retain_seals (hu : Under h command request spec scope workspace fence)
    (hwalk : Moment.call (SealPort.captureTree root) walk ∈ h) (hentry : entry ∈ walk.entries)
    (unpublished : List Bytes) :
    Seals workspaceRoot command request h (retain scope unpublished entry) fun h' kept =>
      (scope.authorizes entry.path = true ∧
        Acked h' (DigestScheme.ofBytes entry.bytes : D) entry.bytes.length ∧ kept = unpublished) ∨
      (scope.authorizes entry.path = false ∧ kept = entry.path.bytes :: unpublished) := by
  unfold retain
  split
  · rename_i hauthorized
    refine .tryAskThen ⟨spec, scope, workspace, fence, hu,
      .captured root walk entry hwalk hentry hauthorized⟩ fun published => ?_
    refine .ofExceptThen fun u hchecked => .pure (.inl ⟨hauthorized, ?_, rfl⟩)
    have hverified := refuseIf_eq_ok.mp hchecked
    simp only [not_or, not_not] at hverified
    obtain ⟨hsize, hdigest⟩ := hverified
    obtain ⟨digest, size⟩ := published
    obtain rfl : size = _ := hsize
    obtain rfl : digest = _ := hdigest
    exact ⟨entry.bytes, List.mem_cons_self, rfl⟩
  · rename_i houtside
    exact .pure (.inr ⟨by simpa using houtside, rfl⟩)

/-- Every captured path is authorized and its payload acknowledged, or it is noted. -/
def CaptureBacked (h : List (SealMoment D)) (scope : WorkspaceScope) (c : Capture D) : Prop :=
  ∀ captured ∈ c.finalState, captured.1 ∈ c.unpublished ∨
    ∃ path : RepositoryPath, path.bytes = captured.1 ∧ scope.authorizes path = true ∧
      Acked h captured.2.2.1 captured.2.2.2

theorem CaptureBacked.mono {h' : List (SealMoment D)} (hs : h <:+ h') (hc : CaptureBacked h scope c) :
    CaptureBacked h' scope c := by
  intro captured hmem
  rcases hc captured hmem with hnoted | ⟨path, hpath, hauthorized, hacked⟩
  · exact .inl hnoted
  · exact .inr ⟨path, hpath, hauthorized, hacked.mono hs⟩

theorem CaptureBacked.note (hc : CaptureBacked h scope c) {kept : List Bytes}
    (hkept : (scope.authorizes entry.path = true ∧
        Acked h (DigestScheme.ofBytes entry.bytes : D) entry.bytes.length ∧ kept = c.unpublished) ∨
      (scope.authorizes entry.path = false ∧ kept = entry.path.bytes :: c.unpublished)) :
    CaptureBacked h scope (c.note kept entry) := by
  have hsubset : ∀ path ∈ c.unpublished, path ∈ kept := by
    rcases hkept with ⟨-, -, rfl⟩ | ⟨-, rfl⟩
    · exact fun _ hp => hp
    · exact fun _ hp => List.mem_cons_of_mem _ hp
  intro captured hmem
  rcases mem_put hmem with rfl | hold
  · rcases hkept with ⟨hauthorized, hacked, -⟩ | ⟨-, rfl⟩
    · exact .inr ⟨entry.path, rfl, hauthorized, hacked⟩
    · exact .inl List.mem_cons_self
  · rcases hc captured hold with hnoted | hbacked
    · exact .inl (hsubset _ hnoted)
    · exact .inr hbacked

theorem sink_seals (hu : Under h command request spec scope workspace fence)
    (hwalk : Moment.call (SealPort.captureTree root) walk ∈ h) (hentry : entry ∈ walk.entries)
    (source : String) (base : BaseTree) (hc : CaptureBacked h scope c) :
    Seals workspaceRoot command request h (sink source base scope c entry)
      fun h' c' => CaptureBacked h' scope c' := by
  unfold sink
  refine .ofExceptThen fun _ _ => .ofExceptThen fun _ _ => ?_
  refine Accounted.andThen (retain_seals hu hwalk hentry c.unpublished) fun h₁ kept hs hkept => ?_
  have hnoted : CaptureBacked h₁ scope (c.note kept entry) := (hc.mono hs).note hkept
  split
  · unfold Capture.enqueue
    dsimp only
    split
    · refine Accounted.andThen (flushIdentityBatch_seals source _ _) fun h₂ identities hs' _ => ?_
      exact .pure (hnoted.mono hs')
    · exact .pure hnoted
  · exact .pure hnoted

theorem captureAll_seals (hu : Under h command request spec scope workspace fence)
    (hwalk : Moment.call (SealPort.captureTree root) walk ∈ h) (source : String) (base : BaseTree)
    {entries : List CapturedEntry} (hentries : ∀ e ∈ entries, e ∈ walk.entries)
    (hc : CaptureBacked h scope c) :
    Seals workspaceRoot command request h (captureAll source base scope entries c)
      fun h' c' => CaptureBacked h' scope c' := by
  induction entries generalizing h c with
  | nil => exact .pure hc
  | cons entry rest ih =>
    obtain ⟨hentry, hrest⟩ := List.forall_mem_cons.mp hentries
    refine Accounted.andThen (sink_seals hu hwalk hentry source base hc) fun h₁ c₁ hs hc₁ => ?_
    exact ih (hu.mono hs) (hs.subset hwalk) hrest hc₁

theorem captureTree_seals (hu : Under h command request spec scope workspace fence)
    (source : String) (base : BaseTree) :
    Seals workspaceRoot command request h
      (captureTree (captureRootOf workspaceRoot workspace.id) source base scope)
      fun h' c => CaptureBacked h' scope c := by
  unfold captureTree
  refine .askThen ⟨spec, scope, workspace, fence, hu, rfl⟩ fun walk => ?_
  refine Accounted.andThen (captureAll_seals (hu.mono (List.suffix_cons _ _)) List.mem_cons_self source
    base (fun _ he => he) (c := .empty) nofun) fun h₁ c _ hc => ?_
  exact .ofExceptThen fun _ _ => .pure hc

/-! ## The difference -/

theorem beforeState_seals (hu : Under h command request spec scope workspace fence)
    (hlisted : Moment.call (SealPort.baseTree workspace.sourcePath workspace.resolvedBase) (.ok tree) ∈ h)
    {object : BaseObject} (hfound : (path.bytes, object) ∈ tree.1)
    (hauthorized : scope.authorizes path = true) :
    Seals workspaceRoot command request h (beforeState workspace.sourcePath object)
      fun h' state => SideAcked h' state := by
  unfold beforeState
  refine .tryAskThen trivial fun bytes => ?_
  refine .tryAskThen ⟨spec, scope, workspace, fence, hu.mono (List.suffix_cons _ _), .base tree path
    object bytes (List.mem_cons_of_mem _ hlisted) hfound hauthorized List.mem_cons_self⟩
    fun published => ?_
  refine .ofExceptThen fun u hchecked => .pure fun kind blob size heq => ?_
  have hverified := refuseIf_eq_ok.mp hchecked
  simp only [not_or, not_not] at hverified
  obtain ⟨rfl, rfl, rfl⟩ := EntryState.Present.inj heq
  exact ⟨bytes, List.mem_cons_self, hverified.1.symm⟩

theorem newEntry_seals {operation : Operation} {before after : EntryState D}
    (hauthorized : scope.authorizes path = true) (hbefore : SideAcked h before)
    (hafter : SideAcked h after) :
    Seals workspaceRoot command request h (newEntry path operation before after)
      fun h' entry => EntryBacked h' scope entry := by
  refine .ofExcept fun entry hentry => ?_
  obtain ⟨rfl, -, rfl, rfl⟩ := ChangesetEntry.new_ok (mapError_eq_ok.mp hentry)
  exact ⟨hauthorized, hbefore, hafter⟩

theorem sideAcked_absent : SideAcked h (.Absent : EntryState D) := fun _ _ _ heq => by cases heq

/-- The entries found for one path are at an authorized path, with acknowledged payloads. -/
def Finds (scope : WorkspaceScope) (h : List (SealMoment D)) (found : Option (ChangesetEntry D)) :
    Prop :=
  ∀ entry ∈ found, EntryBacked h scope entry

theorem pathOfBytes_ok {bytes : Bytes} (hp : pathOfBytes bytes = .ok path) :
    path.bytes = bytes := RepositoryPath.fromBytes_ok (mapError_eq_ok.mp hp)

theorem RepositoryPath.eq_of_bytes {p q : RepositoryPath} (heq : p.bytes = q.bytes) : p = q := by
  cases p
  cases q
  cases heq
  rfl

theorem diffCaptured_seals (hu : Under h command request spec scope workspace fence)
    (hlisted : Moment.call (SealPort.baseTree workspace.sourcePath workspace.resolvedBase) (.ok tree) ∈ h)
    (hc : CaptureBacked h scope c) {captured : Bytes × EntryKind × D × Nat}
    (hmem : captured ∈ c.finalState) :
    Seals workspaceRoot command request h (diffCaptured workspace.sourcePath tree c captured)
      (Finds scope) := by
  unfold diffCaptured
  refine .ofExceptThen fun path hpath => ?_
  have hbytes := pathOfBytes_ok hpath
  -- a path that may be changed is not one whose bytes were not retained
  have hallowed : refuseUnpublishedChange path c.unpublished = .ok () →
      scope.authorizes path = true ∧ Acked h captured.2.2.1 captured.2.2.2 := by
    intro hrefused
    rcases hc captured hmem with hnoted | ⟨found, hfound, hauthorized, hacked⟩
    · rw [← hbytes] at hnoted
      exact absurd hnoted (refuseIf_eq_ok.mp hrefused)
    · rw [RepositoryPath.eq_of_bytes (hbytes.trans hfound.symm)]
      exact ⟨hauthorized, hacked⟩
  have hafter : Acked h captured.2.2.1 captured.2.2.2 →
      SideAcked h (.Present captured.2.1 captured.2.2.1 captured.2.2.2) := by
    intro hacked kind blob size heq
    obtain ⟨-, rfl, rfl⟩ := EntryState.Present.inj heq
    exact hacked
  have hfinds : ∀ h' (entry : ChangesetEntry D), EntryBacked h' scope entry →
      Finds scope h' (some entry) := fun h' entry hb e he => Option.some.inj he ▸ hb
  dsimp only
  split
  · refine .ofExceptThen fun _ hrefused => ?_
    obtain ⟨hauthorized, hacked⟩ := hallowed hrefused
    refine Accounted.andThen (newEntry_seals hauthorized sideAcked_absent (hafter hacked))
      fun h₁ entry _ hb => .pure (hfinds h₁ entry hb)
  · rename_i before hfind
    split
    · exact .pure nofun
    · refine .ofExceptThen fun _ hrefused => ?_
      obtain ⟨hauthorized, hacked⟩ := hallowed hrefused
      have hfound : (path.bytes, before) ∈ tree.1 := hbytes ▸ mem_of_find hfind
      refine Accounted.andThen (beforeState_seals hu hlisted hfound hauthorized)
        fun h₁ state hs hstate => ?_
      refine Accounted.andThen (newEntry_seals hauthorized hstate ((hafter hacked).mono hs))
        fun h₂ entry _ hb => .pure (hfinds h₂ entry hb)

theorem diffBase_seals (hu : Under h command request spec scope workspace fence)
    (hlisted : Moment.call (SealPort.baseTree workspace.sourcePath workspace.resolvedBase) (.ok tree) ∈ h)
    (c : Capture D) {object : Bytes × BaseObject} (hmem : object ∈ tree.1) :
    Seals workspaceRoot command request h (diffBase workspace.sourcePath scope c object)
      (Finds scope) := by
  unfold diffBase
  split
  · exact .pure nofun
  · refine .ofExceptThen fun path hpath => ?_
    refine .ofExceptThen fun _ hrefused => ?_
    have hauthorized : scope.authorizes path = true := by simpa using refuseIf_eq_ok.mp hrefused
    have hfound : (path.bytes, object.2) ∈ tree.1 := by
      rw [pathOfBytes_ok hpath]
      exact hmem
    refine Accounted.andThen (beforeState_seals hu hlisted hfound hauthorized)
      fun h₁ state hs hstate => ?_
    refine Accounted.andThen (newEntry_seals hauthorized hstate sideAcked_absent)
      fun h₂ entry _ hb => .pure fun e he => Option.some.inj he ▸ hb

theorem collectEntries_seals {κ : Type} {f : κ → Sealing SealError D (Option (ChangesetEntry D))}
    {items : List κ}
    (hf : ∀ item ∈ items, ∀ h', h <:+ h' →
      Seals workspaceRoot command request h' (f item) (Finds scope)) :
    Seals workspaceRoot command request h (collectEntries f items)
      fun h' entries => ∀ entry ∈ entries, EntryBacked h' scope entry := by
  induction items generalizing h with
  | nil => exact .pure nofun
  | cons item items ih =>
    obtain ⟨hfirst, hrest⟩ := List.forall_mem_cons.mp hf
    refine Accounted.andThen (hfirst h List.suffix_rfl) fun h₁ found hs₁ hfound => ?_
    refine Accounted.andThen (ih fun item hitem h' hs' => hrest item hitem h' (hs₁.trans hs'))
      fun h₂ entries hs₂ hentries => .pure fun entry hentry => ?_
    rcases List.mem_append.mp hentry with hnew | hold
    · exact (hfound entry (Option.mem_toList.mp hnew)).mono hs₂
    · exact hentries entry hold

theorem captureDifference_seals (hu : Under h command request spec scope workspace fence) :
    Seals workspaceRoot command request h (captureDifference workspaceRoot workspace scope)
      fun h' difference => ∀ entry ∈ difference.entries, EntryBacked h' scope entry := by
  unfold captureDifference
  refine .tryAskThen trivial fun tree => ?_
  have hu₁ : Under (.call (.baseTree workspace.sourcePath workspace.resolvedBase) (.ok tree) :: h)
    command request spec scope workspace fence := hu.mono (List.suffix_cons _ _)
  refine Accounted.andThen (.tryPart (captureTree_seals hu₁ workspace.sourcePath tree))
    fun h₂ walked hs₂ hwalked => ?_
  refine Accounted.andThen (.tryPart (flushIdentityBatch_seals workspace.sourcePath _ _))
    fun h₃ identities hs₃ _ => ?_
  have hc : CaptureBacked h₃ scope { walked with batch := [], identities } := hwalked.mono hs₃
  have hu₃ := hu₁.mono (hs₂.trans hs₃)
  have hlisted₃ := (hs₂.trans hs₃).subset List.mem_cons_self
  refine Accounted.andThen (collectEntries_seals fun captured hmem h' hs' =>
    diffCaptured_seals (hu₃.mono hs') (hs'.subset hlisted₃) (hc.mono hs') hmem)
    fun h₄ present hs₄ hpresent => ?_
  refine Accounted.andThen (collectEntries_seals fun object hmem h' hs' =>
    diffBase_seals (hu₃.mono (hs₄.trans hs')) ((hs₄.trans hs').subset hlisted₃) _ hmem)
    fun h₅ deleted hs₅ hdeleted => .pure fun entry hentry => ?_
  rcases List.mem_append.mp hentry with hp | hd
  · exact (hpresent entry hp).mono hs₅
  · exact hdeleted entry hd

/-! ## Publication -/

theorem publishChangeset_seals (hu : Under h command request spec scope workspace fence)
    {entries : List (ChangesetEntry D)} (hentries : ∀ entry ∈ entries, EntryBacked h scope entry)
    {a : Assembled D} (ha : ∃ captured, assemble workspace ⟨captured, entries⟩ = .ok a) :
    Seals workspaceRoot command request h (publishChangeset command request workspace fence a)
      fun h' result => Returned h' command request result := by
  unfold publishChangeset
  refine .ofExceptThen fun id hid => ?_
  have hbacked : ∀ h', h <:+ h' → PublicationBacked h' command request scope workspace fence
      (command.inner id "workspace.sealed") (sealedChangeset request workspace fence a) entries a :=
    fun h' hs => ⟨fun entry he => (hentries entry he).mono hs, ha, rfl, id, rfl, hid⟩
  refine .performThen trivial (fun ambient => ⟨spec, scope, workspace, fence, entries, a,
    hu.mono (List.suffix_cons _ _), hbacked _ (List.suffix_cons _ _)⟩) fun ambient s committed hb => ?_
  have hanswered := Answered.latest (h := .call Surrounded.ambient ambient :: h) hb
  have hreturned : ∀ h' reused, _ <:+ h' → Returned h' command request
      ⟨a.artifactDigest, a.artifactJson, a.revisionState.digest, reused⟩ :=
    fun h' reused hs => ⟨workspace, fence, a, id, hid, hanswered.mono hs, rfl, rfl⟩
  cases committed with
  | Executed value cursor => exact .pure (hreturned _ _ List.suffix_rfl)
  | Replayed cursor _ => exact .readThen trivial fun _ => .pure (hreturned _ _ (List.suffix_cons _ _))

theorem captureAndSeal_seals (hu : Under h command request spec scope workspace fence) :
    Seals workspaceRoot command request h
      (captureAndSeal workspaceRoot command request workspace fence scope)
      fun h' result => Returned h' command request result := by
  unfold captureAndSeal
  refine Accounted.andThen (captureDifference_seals hu) fun h₁ difference hs hentries => ?_
  refine .ofExceptThen fun a ha => ?_
  exact publishChangeset_seals (hu.mono hs) hentries ⟨difference.captured, ha⟩

/-! ## The whole seal -/

omit [DecidableEq D] [DigestScheme D] in
theorem sealableTask_ok {found : Option (TaskRecord D)} {task : TaskRecord D}
    (hs : sealableTask taskId found = .ok task) : found = some task ∧ task.phase = .Active := by
  unfold sealableTask at hs
  split at hs
  · cases hs
  · split at hs
    · rename_i hactive
      obtain rfl := Except.ok.inj hs
      exact ⟨rfl, hactive⟩
    · cases hs

theorem sealableSpec_ok {expected : D} {stored : Option String}
    (hs : sealableSpec taskId expected stored = .ok spec) :
    ∃ text, stored = some text ∧ TaskSpec.fromCanonicalJson text = .ok spec ∧
      spec.digest = expected := by
  unfold sealableSpec at hs
  split at hs
  · cases hs
  · rename_i text
    split at hs
    · cases hs
    · rename_i found hfound
      split at hs
      · cases hs
      · rename_i hdigest
        obtain rfl := Except.ok.inj hs
        exact ⟨text, rfl, hfound, not_not.mp hdigest⟩

theorem loadSpec_seals (taskId : String) :
    Seals workspaceRoot command request h (loadSpec taskId) fun h' spec => SpecRead h' taskId spec := by
  unfold loadSpec
  refine .readThen trivial fun s => .ofExceptThen fun task htask => ?_
  obtain ⟨hsome, hactive⟩ := sealableTask_ok htask
  refine .readThen trivial fun t => .ofExcept fun spec hspec => ?_
  obtain ⟨text, htext, hread, hdigest⟩ := sealableSpec_ok hspec
  rw [← hdigest] at htext
  exact ⟨⟨s, task, List.mem_cons_of_mem _ List.mem_cons_self, hsome, hactive, hdigest.symm⟩,
    ⟨t, text, List.mem_cons_self, htext, hread⟩⟩

/-- What a seal has found before it looks for a fence. -/
structure Subject (h : List (SealMoment D)) (request : SealRequest) (spec : TaskSpec D)
    (workspace : WorkspaceRecord) : Prop where
  spec_read : SpecRead h request.taskId spec
  slot : checkSlot request spec = .ok ()
  workspace_read : WorkspaceRead h request.taskId workspace
  repository : checkRepository request spec workspace = .ok ()

theorem sealSubject_seals : Seals workspaceRoot command request h (sealSubject request)
    fun h' subject => Subject h' request subject.1 subject.2 := by
  unfold sealSubject
  refine Accounted.andThen (loadSpec_seals request.taskId) fun h₁ spec _ hspec => ?_
  refine .ofExceptThen fun _ hslot => ?_
  refine .tryReadThen trivial fun s found hfound => ?_
  refine .orElseThen fun workspace hworkspace => .ofExceptThen fun _ hrepository => .pure ?_
  exact ⟨hspec.mono (List.suffix_cons _ _), hslot, ⟨s, List.mem_cons_self, hworkspace ▸ hfound⟩,
    hrepository⟩

theorem establishFence_seals : Seals workspaceRoot command request h
    (establishFence command request workspace)
      fun h' fence => FenceHeld h' command request workspace fence := by
  unfold establishFence
  split
  · rename_i hready
    unfold freezeFence
    refine .ofExceptThen fun id hid => ?_
    refine .performThen trivial (fun _ => trivial) fun ambient s _ hb => ?_
    refine .tryReadThen trivial fun t found hfound => .ofExcept fun fence hfence => ?_
    exact .frozen id hready hid ((Answered.latest hb).mono (List.suffix_cons _ _))
      ⟨t, found, List.mem_cons_self, hfound, hfence⟩
  · rename_i hfrozen
    unfold revalidateFence
    refine .ofExceptThen fun _ hpresent => .ofExceptThen fun id hid => ?_
    refine .performThen trivial (fun _ => trivial) fun ambient s _ hb => .pure ?_
    have hmaterialized : workspace.materialization = .Present := by
      simpa using refuseIf_eq_ok.mp hpresent
    exact .validated id hfrozen hmaterialized rfl hid (Answered.latest hb)
  · exact .throw

theorem orRecord_seals {α : Type} {p : Sealing SealError D α}
    {onError : SealError → Sealing SealError D α} {R : List (SealMoment D) → α → Prop}
    (hp : Seals workspaceRoot command request h p R)
    (hr : ∀ h' e, h <:+ h' → Seals workspaceRoot command request h' (onError e) R) :
    Seals workspaceRoot command request h (orRecord p onError) R := by
  refine Prog.Accounts.bind (p := p.run) hp fun h' r hs => ?_
  cases r with
  | ok a => exact hs
  | error e => exact (hr h' e hs.1).older hs.1

/-- The account of a whole seal. -/
theorem seal_seals : Seals workspaceRoot command request []
    (ChangesetSealer.seal workspaceRoot command request)
      fun h' result => Returned h' command request result := by
  unfold ChangesetSealer.seal
  refine Accounted.andThen sealSubject_seals fun h₁ subject _ hsubject => ?_
  refine Accounted.andThen establishFence_seals fun h₂ fence hs₂ hfence => ?_
  refine .ofExceptThen fun scope hscope => ?_
  have hu : Under h₂ command request subject.1 scope subject.2 fence :=
    ⟨hsubject.spec_read.mono hs₂, hsubject.slot, hsubject.workspace_read.mono hs₂,
      hsubject.repository, hfence, hscope⟩
  refine orRecord_seals (captureAndSeal_seals hu) fun h₃ e hs₃ => ?_
  unfold recordFailure
  exact .ofExceptThen fun id _ => .performThen trivial (fun _ => trivial) fun _ _ _ _ => .throw

end Account

end Pantheon
