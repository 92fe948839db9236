/-
  The Workspace Controller (`pantheon-engine/src/workspace.rs`).
  `ensure` brings the Task's current Workspace to Ready: it resolves the base, commits the
  identity, commits the marker, discards and rebuilds the external state, and commits what it
  verified. A Workspace that is Ready is only observed.
  `materializer_spares_used`: under every interleaving a call discards and rebuilds only what it
  has itself found never to have been mutable. A Workspace that is nevertheless in use by then
  was completed in between, by a call that ran at the same time.
-/
import Pantheon.Engine.Accounting
import Pantheon.Engine.Sealing
import Pantheon.Store.WorkspaceMoves

namespace Pantheon

open Interleave Relational Routine

variable {D : Type} [DecidableEq D] [DigestScheme D]

/-! ## The controller -/

/-- A path of the host: its text, or the bytes of one that is not UTF-8. -/
inductive HostPath where
  | text (path : String)
  | raw (bytes : Bytes)

/-- `path_text`. -/
def pathText : HostPath → Option String
  | .text path => some path
  | .raw _ => none

structure MaterializationTarget where
  workspaceId : String
  source : HostPath
  destination : String
  base : ResolvedBase

structure MaterializerError where
  code : String
  detail : String

/-- `RepositoryMaterializer`, and what a transaction draws from outside. -/
inductive Materializer : Type → Type where
  | ambient : Materializer Ambient
  | resolveBase (source : HostPath) (requested : RequestedBase) :
    Materializer (Except MaterializerError ResolvedBase)
  | materialize (target : MaterializationTarget) :
    Materializer (Except MaterializerError ResolvedBase)
  | observe (target : MaterializationTarget) : Materializer (Except MaterializerError Presence)
  | discard (target : MaterializationTarget) : Materializer (Except MaterializerError Unit)

instance : Surrounded Materializer := ⟨.ambient⟩

structure WorkspaceRequest where
  source : HostPath
  requestedBase : RequestedBase

structure WorkspaceCommand (D : Type) where
  epoch : String
  id : String
  requestHash : D

inductive WorkspaceError where
  | Store (error : StoreError)
  | Ineligible (taskId reason : String)
  | TaskSpecUnusable (taskId detail : String)
  | Materialization (workspaceId : String) (error : MaterializerError)
  | Missing (workspaceId : String) (observed : Presence)
  | Conflict (workspaceId detail : String)
  | CommandIdentityTooLong (id : String)

abbrev WorkspaceControl (D : Type) [DecidableEq D] [DigestScheme D] : Type → Type 1 :=
  Fallible WorkspaceError D Unit Empty Materializer

namespace WorkspaceController

/-- `path_of`. -/
def pathOf (root workspaceId : String) : String := joinPath (joinPath root workspaceId) "repo"

/-- The target of a recorded Workspace. -/
def target (root : String) (current : WorkspaceRecord) : MaterializationTarget :=
  ⟨current.id, .text current.sourcePath, pathOf root current.id, current.resolvedBase⟩

/-- `derive`. -/
def derive (base suffix : String) (since : Option Int) : Except WorkspaceError String :=
  let id := match since with
    | some revision => s!"{base}:workspace:{suffix}:{revision}"
    | none => s!"{base}:workspace:{suffix}"
  if id.utf8ByteSize > maxCommandId then .error (.CommandIdentityTooLong id) else .ok id

def inner (command : WorkspaceCommand D) (id eventType : String) : Command D :=
  ⟨command.epoch, id, command.requestHash, eventType⟩

/-- `settle`. -/
def settle (committed : Committed WorkspaceRecord) (taskId : String) :
    WorkspaceControl D WorkspaceRecord :=
  match committed with
  | .Executed value _ => pure value
  | .Replayed _ _ => do
    let found ← tryAs .Store (Routine.readStore (workspaceForTask taskId))
    Routine.orElse (.Ineligible taskId "a replayed workspace command left no current workspace") found

/-- `check_matches`. -/
def checkMatches (current : WorkspaceRecord) (request : WorkspaceRequest) :
    Except WorkspaceError Unit :=
  if current.requestedBase.text ≠ request.requestedBase.text then .error (.Conflict current.id
    s!"it was opened for {current.requestedBase.text} and the request asks for {request.requestedBase.text}")
  else match pathText request.source with
    | some source =>
      if source = current.sourcePath then .ok () else .error (.Conflict current.id
        s!"it was opened against {current.sourcePath} and the request names {source}")
    | none => .error (.Conflict current.id "the source repository path is not valid UTF-8")

/-- `repository_of`, what is checked of the Task. -/
def ownerTask (taskId : String) (task : Option (TaskRecord D)) :
    Except WorkspaceError (TaskRecord D) :=
  match task with
  | none => .error (.Ineligible taskId "no such task")
  | some task =>
    if task.phase = .Ready then .ok task
    else .error (.Ineligible taskId s!"task is {task.phase.asStr}")

/-- `repository_of`, what is read off the stored specification. -/
def declaredRepository (taskId : String) (expected : D) (stored : Option String) :
    Except WorkspaceError String :=
  match stored with
  | none => .error (.TaskSpecUnusable taskId "the specification the task names is not stored")
  | some canonical => match TaskSpec.fromCanonicalJson canonical with
    | .error e => .error (.TaskSpecUnusable taskId e.display)
    | .ok (spec : TaskSpec D) =>
      if spec.digest ≠ expected then
        .error (.TaskSpecUnusable taskId "the stored specification does not match its digest")
      else match spec.inputs.find? fun i => i.name == repositoryInput with
        | some input => .ok input.reference
        | none => .error (.Ineligible taskId
            s!"it declares no {repositoryInput} input to work in")

/-- `repository_of`. -/
def repositoryOf (taskId : String) : WorkspaceControl D String := do
  let found ← always (Routine.readStore (taskRecord taskId))
  let task ← Routine.ofExcept (ownerTask taskId found)
  let stored ← always (Routine.readStore (taskSpecJson task.specDigest))
  Routine.ofExcept (declaredRepository taskId task.specDigest stored)

/-- `open`. -/
def openCurrent (command : WorkspaceCommand D) (workspaceId taskId : String)
    (request : WorkspaceRequest) : WorkspaceControl D WorkspaceRecord := do
  let repository ← repositoryOf taskId
  let resolved ← tryAs (.Materialization workspaceId)
    (Prog.ask (.resolveBase request.source request.requestedBase))
  let source ← Routine.orElse (.Ineligible taskId "the source repository path is not valid UTF-8")
    (pathText request.source)
  let id ← Routine.ofExcept (derive command.id "open" none)
  let committed : Committed WorkspaceRecord ←
    tryAs .Store (Routine.perform (.command (inner command id "workspace.requested")
      (.openWorkspace workspaceId ⟨taskId, repository, source, request.requestedBase, resolved⟩)))
  settle committed taskId

/-- `reopen`. -/
def reopen (root : String) (current : WorkspaceRecord) : WorkspaceControl D WorkspaceRecord := do
  let observed ← tryAs (.Materialization current.id) (Prog.ask (.observe (target root current)))
  if observed = .Present then return current
  throw (.Missing current.id observed)

/-- `record_failure`, and then the error it answers. -/
def recordFailure (command : WorkspaceCommand D) (current : WorkspaceRecord)
    (target : MaterializationTarget) (error : MaterializerError) :
    WorkspaceControl D WorkspaceRecord := do
  let answer ← always (Prog.ask (.observe target))
  -- the failure path never claims verification
  let observed : Presence := match answer with
    | .ok .Absent => .Absent
    | _ => .Unknown
  let id ← Routine.ofExcept (derive command.id "failed" (some current.revision))
  let _ ← tryAs .Store (Routine.perform (.command (inner command id "workspace.failed")
    (.failWorkspaceMaterialization current.id current.revision observed)))
  throw (.Materialization current.id error)

/-- `materialize`. -/
def materialize (root : String) (command : WorkspaceCommand D) (current : WorkspaceRecord) :
    WorkspaceControl D WorkspaceRecord := do
  let id ← Routine.ofExcept (derive command.id "materializing" (some current.revision))
  let begun : Committed WorkspaceRecord ←
    tryAs .Store (Routine.perform (.command (inner command id "workspace.materializing")
      (.beginWorkspaceMaterialization current.id current.revision)))
  let marked ← settle begun current.taskId
  match ← always (Prog.ask (.discard (target root current))) with
  | .error error => recordFailure command marked (target root current) error
  | .ok () =>
    match ← always (Prog.ask (.materialize (target root current))) with
    | .error error => recordFailure command marked (target root current) error
    | .ok verified => do
      let id ← Routine.ofExcept (derive command.id "ready" (some marked.revision))
      let completed : Committed WorkspaceRecord ←
        tryAs .Store (Routine.perform (.command (inner command id "workspace.ready")
          (.completeWorkspaceMaterialization marked.id marked.revision verified)))
      settle completed marked.taskId

/-- The Workspace `ensure` goes on with: the Task's own one, or a new one. -/
def currentFor (command : WorkspaceCommand D) (workspaceId taskId : String)
    (request : WorkspaceRequest) : WorkspaceControl D WorkspaceRecord := do
  match ← tryAs .Store (Routine.readStore (workspaceForTask taskId)) with
  | some record => do
    Routine.ofExcept (checkMatches record request)
    return record
  | none => openCurrent command workspaceId taskId request

/-- `ensure`. -/
def ensure (root : String) (command : WorkspaceCommand D) (workspaceId taskId : String)
    (request : WorkspaceRequest) : WorkspaceControl D WorkspaceRecord := do
  let current ← currentFor command workspaceId taskId request
  match current.phase with
  | .Ready => reopen root current
  | .Requested | .Materializing | .Error => materialize root command current
  | phase => throw (.Conflict current.id
      s!"workspace is {phase.asStr} and cannot be brought to Ready here")

end WorkspaceController

/-! ## Calls among others -/

/-- The moments of one call, newest first. -/
abbrev WorkspaceTrail (D : Type) [DecidableEq D] [DigestScheme D] : Type 1 :=
  List (SiteMoment D Unit Empty Materializer)

abbrev Ensured : Type := Except WorkspaceError WorkspaceRecord

/-- Calls of `ensure`, any number at a time, among any other calls of the store. -/
def workspaceMachine (root : String) :
    Machine (Site D Unit) (SiteLabel D Empty) Materializer Ensured where
  starts p := ∃ command workspaceId taskId request,
    p = (WorkspaceController.ensure root command workspaceId taskId request).run
  env s s' := ∃ (ambient : Ambient) (op : StoreOp D), s' = { s with db := op.apply ambient s.db }
  onCrash s := s
  hear _ _ s := s

/-- The target whose external state a call of the materializer discards or rebuilds. -/
def Materializer.touches {β : Type} : Materializer β → Option MaterializationTarget
  | .discard target => some target
  | .materialize target => some target
  | _ => none

/-- The target that a call of `ensure` is about to discard or rebuild. -/
def touching : Routine D Unit Empty Materializer Ensured → Option MaterializationTarget
  | .call port _ => port.touches
  | _ => none

/-- The record is of this row. -/
structure WorkspaceRecord.Of (record : WorkspaceRecord) (d : Db D) (w : Workspace) : Prop where
  found : d.find .workspaces record.id = some w
  source : w.sourcePath = record.sourcePath
  base : w.resolvedBase = record.resolvedBase.text

/-- The record is of a stored Workspace that has never been mutable. -/
def Scratch (record : WorkspaceRecord) (d : Db D) : Prop :=
  ∃ w, record.Of d w ∧ w.phase.hasBeenMutable = false

/-- One of the moments left the Workspace never mutable. -/
def FoundScratch (h : WorkspaceTrail D) (record : WorkspaceRecord) :
    Prop := ∃ l s s', Moment.tx l s s' ∈ h ∧ Scratch record s'.db

/-- A call touches only what it has found to be scratch. -/
def workspaceAct (root : String) (h : WorkspaceTrail D) :
    Action (SiteLabel D Empty) Materializer → Prop
  | .call port => ∀ target, port.touches = some target →
      ∃ record, target = WorkspaceController.target root record ∧ FoundScratch h record
  | _ => True

omit [DigestScheme D] in
/-- A Workspace that was read in a phase before Ready is scratch. -/
theorem workspaceForTask_scratch {taskId : String} {d : Db D} {record : WorkspaceRecord}
    (h : workspaceForTask taskId d = .ok (some record))
    (hphase : record.phase.hasBeenMutable = false) : Scratch record d := by
  unfold workspaceForTask at h
  split at h
  · cases h
  rename_i p hp
  have hmem : (p.1, p.2) ∈ d.rows .workspaces := List.mem_of_find?_eq_some hp
  split at h
  · rename_i hrecord
    obtain rfl := Option.some.inj (Except.ok.inj h)
    unfold decodeWorkspace at hrecord
    split at hrecord
    · cases hrecord
    split at hrecord
    · cases hrecord
    rename_i resolved hresolved
    obtain rfl := Except.ok.inj hrecord
    have hbase : p.2.resolvedBase = resolved.text := by
      unfold ResolvedBase.parse at hresolved
      split at hresolved
      · exact congrArg ResolvedBase.text (Except.ok.inj hresolved)
      · cases hresolved
    exact ⟨p.2, ⟨State.mem_rows.mp hmem, rfl, hbase⟩, hphase⟩
  · cases h

/-- A Workspace that was just opened is scratch. -/
theorem openWorkspace_scratch {identity : Command D} {workspaceId : String}
    {binding : WorkspaceBinding} {ambient : Ambient} {d : Db D} {value : WorkspaceRecord}
    {cursor : JournalCursor}
    (h : (StoreOp.answer ambient d (.command identity (.openWorkspace workspaceId binding))).1 =
      .ok (.Executed value cursor)) :
    Scratch value
      ((StoreOp.command identity (.openWorkspace workspaceId binding)).apply ambient d) := by
  obtain ⟨d₁, hc, hsame⟩ := (command_ran h).commits
  have hrow := (openWorkspace_commits hc).2 workspaceId
  obtain ⟨task, -, h₁⟩ := fetch_then hc
  obtain ⟨-, h₂⟩ := Writer.ensure_then h₁
  have h₃ := Writer.read_then h₂
  obtain ⟨-, h₄⟩ := Writer.ensure_then h₃
  obtain ⟨d₂, -, h₅⟩ := insert_then h₄
  obtain ⟨rfl, -⟩ := Writer.commits_pure.mp h₅
  refine ⟨openedWorkspace binding, ⟨?_, rfl, rfl⟩, rfl⟩
  rw [State.find_congr (hsame .workspaces (by decide)), hrow, if_pos rfl]

section Accounts

variable {root workspaceId taskId : String} {command : WorkspaceCommand D}
  {request : WorkspaceRequest} {record : WorkspaceRecord} {h h' : WorkspaceTrail D}
  {R : WorkspaceTrail D → WorkspaceRecord → Prop}

/-- What a call has found of the record it goes on with. -/
def Known (h : WorkspaceTrail D) (record : WorkspaceRecord) : Prop :=
  record.phase.hasBeenMutable = false → FoundScratch h record

theorem FoundScratch.mono (hf : FoundScratch h record) (hs : h <:+ h') : FoundScratch h' record := by
  obtain ⟨l, s, s', hmem, hscratch⟩ := hf
  exact ⟨l, s, s', hs.subset hmem, hscratch⟩

theorem known_read {s : Site D Unit} (hread : workspaceForTask taskId s.db = .ok (some record)) :
    Known (.tx .read s s :: h) record :=
  fun hphase => ⟨_, s, s, List.mem_cons_self, workspaceForTask_scratch hread hphase⟩

theorem settle_accounts {committed : Committed WorkspaceRecord}
    (hexecuted : ∀ value cursor, committed = .Executed value cursor → R h value)
    (hread : ∀ s record, workspaceForTask taskId s.db = .ok (some record) →
      R (.tx .read s s :: h) record) :
    Accounted (workspaceAct root) h (WorkspaceController.settle committed taskId) R := by
  cases committed with
  | Executed value cursor => exact .pure (hexecuted value cursor rfl)
  | Replayed cursor recordedAt =>
    refine .tryReadThen trivial fun s found hfound => ?_
    cases found with
    | none => exact .throw
    | some record => exact .pure (hread s record hfound)

theorem openCurrent_accounts : Accounted (workspaceAct root) h
    (WorkspaceController.openCurrent command workspaceId taskId request) Known := by
  refine .andThen (R := fun _ _ => True) ?_ fun h₁ repository _ _ => ?_
  · refine .readThen trivial fun _ => .ofExceptThen fun task _ => ?_
    exact .readThen trivial fun _ => .ofExcept fun _ _ => trivial
  refine .tryAskThen nofun fun resolved => .orElseThen fun source _ => .ofExceptThen fun id _ => ?_
  refine .performThen nofun (fun _ => trivial) fun ambient s committed hc => ?_
  refine settle_accounts (fun value cursor hvalue _ => ?_) fun _ _ => known_read
  subst hvalue
  exact ⟨_, s, _, List.mem_cons_self, openWorkspace_scratch hc⟩

theorem recordFailure_accounts {target : MaterializationTarget} {error : MaterializerError} :
    Accounted (workspaceAct root) h
      (WorkspaceController.recordFailure command record target error) R := by
  refine .askThen nofun fun answer => .ofExceptThen fun id _ => ?_
  exact .performThen nofun (fun _ => trivial) fun _ _ _ _ => .throw

theorem materialize_accounts (hf : FoundScratch h record) : Accounted (workspaceAct root) h
    (WorkspaceController.materialize root command record) fun _ _ => True := by
  have htouch {h'} {β : Type} {port : Materializer β} (hs : h <:+ h')
      (hport : port.touches = some (WorkspaceController.target root record)) :
      workspaceAct root h' (.call port) := fun target ht =>
    ⟨record, Option.some.inj (ht.symm.trans hport), hf.mono hs⟩
  refine .ofExceptThen fun id _ => .performThen nofun (fun _ => trivial) fun ambient s begun _ => ?_
  refine .andThen (settle_accounts (R := fun _ _ => True) (fun _ _ _ => trivial)
    fun _ _ _ => trivial) fun h₁ marked hs₁ _ => ?_
  have hs : h <:+ h₁ := ((List.suffix_cons _ _).trans (List.suffix_cons _ _)).trans hs₁
  refine .askThen (htouch hs rfl) fun discarded => ?_
  cases discarded with
  | error error => exact recordFailure_accounts
  | ok done =>
    refine .askThen (htouch (hs.trans (List.suffix_cons _ _)) rfl) fun built => ?_
    cases built with
    | error error => exact recordFailure_accounts
    | ok verified =>
      refine .ofExceptThen fun id _ => .performThen nofun (fun _ => trivial) fun _ _ _ _ => ?_
      exact settle_accounts (fun _ _ _ => trivial) fun _ _ _ => trivial

theorem ensure_accounts : Accounted (workspaceAct root) []
    (WorkspaceController.ensure root command workspaceId taskId request) fun _ _ => True := by
  refine .andThen (R := Known) ?_ fun h current _ hknown => ?_
  · refine .tryReadThen trivial fun s found hfound => ?_
    cases found with
    | none => exact openCurrent_accounts
    | some record => exact .ofExceptThen fun _ _ => .pure (known_read hfound)
  split
  case h_1 =>
    refine .tryAskThen nofun fun observed => ?_
    split
    · exact .pure trivial
    · exact .throw
  case h_5 => exact .throw
  -- Requested, Materializing and Error
  all_goals
    rename_i hphase
    exact materialize_accounts (hknown (by rw [hphase]; rfl))

end Accounts

/-! ## Every run -/

theorem workspaceMachine_bound (root : String) :
    StoreBound anyStep (workspaceMachine root : Machine (Site D Unit) _ _ _) where
  effects p hp := by
    obtain ⟨command, workspaceId, taskId, request, rfl⟩ := hp
    exact ⟨_, _, ensure_accounts⟩
  hear _ _ _ := rfl
  crash _ := rfl
  env s s' h := by
    obtain ⟨ambient, op, rfl⟩ := h
    exact ⟨ambient, op, trivial, rfl⟩

/-- What has never been mutable becomes mutable by a completion alone. -/
theorem scratch_completed {record : WorkspaceRecord} {d d' : Db D} (h : Scratch record d)
    (hrun : Run.Steps anyStep d d') : ∃ w, record.Of d' w ∧ (w.phase.hasBeenMutable = true →
      VerifiedReady d d' record.id record.resolvedBase.text) := by
  induction hrun with
  | refl =>
    obtain ⟨w, hw, hunused⟩ := h
    exact ⟨w, hw, fun hused => by simp [hunused] at hused⟩
  | @step e before op ambient admitted ih =>
    obtain ⟨w, ⟨hw, hsource, hbase⟩, hused⟩ := ih
    obtain ⟨new, hnew, hmove⟩ := apply_workspace op ambient hw
    refine ⟨new, ⟨hnew, hmove.same.source.trans hsource, hmove.same.resolved.trans hbase⟩,
      fun h' => ?_⟩
    cases hmove with
    | kept => exact (hused h').step op ambient
    | began => cases h'
    | completed named materializing verified =>
      subst named
      exact ⟨e, ambient, _, _, _, verified.trans hbase, before, ⟨w, hw, materializing⟩,
        ⟨_, hnew, rfl⟩, .refl⟩
    | failed => cases h'
    | froze ready => exact (hused (by rw [ready]; rfl)).step op ambient

/-- The call that `p` is the rest of has found, in the state `s`, the Workspace of `record` never
    to have been mutable. -/
def FoundBy (root : String) (p : Routine D Unit Empty Materializer Ensured)
    (record : WorkspaceRecord) (s : Site D Unit) : Prop :=
  ∃ p₀ trail l before, (workspaceMachine root).starts p₀ ∧ p₀.Trail trail p ∧
    Moment.tx l before s ∈ trail ∧ Scratch record s.db

/-- Calls of `ensure` in every interleaving, with crashes and retries at any point, among any
    other calls of the store: what a call discards or rebuilds is at the path of a Workspace, from
    the source and base of its row, and the same call has found that Workspace never mutable. If
    it is in use by now, its materialization was verified and committed since. -/
theorem materializer_spares_used {root : String} {c : Config (Site D Unit) _ _ _}
    (h : Reach (workspaceMachine root) (fun _ _ => True) (fun _ => True) c)
    {p : Routine D Unit Empty Materializer Ensured} (hp : p ∈ c.pool)
    {target : MaterializationTarget} (htarget : touching p = some target) :
    ∃ record s w, target = WorkspaceController.target root record ∧ FoundBy root p record s ∧
      record.Of c.shared.db w ∧ (w.phase.hasBeenMutable = true →
        VerifiedReady s.db c.shared.db record.id record.resolvedBase.text) := by
  obtain ⟨p₀, trail, hstarts, htrail, -, hchain, hown⟩ :=
    storeBound_trail (workspaceMachine_bound root) h p hp
  obtain ⟨command, workspaceId, taskId, request, rfl⟩ := hstarts
  have haccounts := Prog.Accounts.trail ensure_accounts htrail
  cases p with
  | ret a => cases htarget
  | tx l t k => cases htarget
  | call port k =>
    obtain ⟨record, rfl, l, s, s', hmem, hscratch⟩ := haccounts.1 target htarget
    have hsince := hchain.mem (storeBound_preserves (workspaceMachine_bound root)).trans hown hmem
    obtain ⟨w, hw, hcompleted⟩ := scratch_completed hscratch hsince
    exact ⟨record, s', w, rfl, ⟨_, trail, l, s, ⟨_, _, _, _, rfl⟩, htrail, hmem, hscratch⟩, hw,
      hcompleted⟩

namespace Sample

/-- A materializer that does what it is asked to. -/
def builder (n : Nat) : ∀ β, Materializer β → β
  | _, .ambient => ambient (Char.ofNat (48 + n))
  | _, .resolveBase _ _ => .ok base
  | _, .materialize target => .ok target.base
  | _, .observe _ => .ok .Present
  | _, .discard _ => .ok ()

theorem main_usable : refNameProblem "main" = none := by decide

/-- A call that finds a Workspace opened, after some of its actions. -/
def ensured (n : Nat) (d : Store) :
    Routine PrefixDigest Unit Empty Materializer Ensured × Site PrefixDigest Unit :=
  (WorkspaceController.ensure "/w" ⟨generation, "n", ⟨[0]⟩⟩ "other" "task"
    ⟨.text "/src", ⟨"main", main_usable⟩⟩).run.acts (fun _ _ s => s) builder n ⟨d, ()⟩

/-- The fifth action rebuilds. -/
theorem ensured_runs : ∃ d ∈ runAll installed (dispatched.take 5),
    (touching (ensured 4 d).1).map (·.destination) = some "/w/workspace/repo" := by
  decide +kernel

end Sample

/-- A call is about to rebuild the Workspace that it has found. -/
theorem materializer_spares_used_ensured : ∃ d record s w,
    touching (Sample.ensured 4 d).1 = some (WorkspaceController.target "/w" record) ∧
    FoundBy "/w" (Sample.ensured 4 d).1 record s ∧ record.Of (Sample.ensured 4 d).2.db w := by
  obtain ⟨d, -, htouching⟩ := Sample.ensured_runs
  obtain ⟨target, htarget, -⟩ := Option.map_eq_some_iff.mp htouching
  obtain ⟨past, hreach⟩ := Reach.acts_among [] []
    (.step (.start trivial) (.spawn _ ⟨_, _, _, _, rfl⟩) trivial : Reach (workspaceMachine "/w")
      (fun _ _ => True) (fun _ => True) ⟨⟨d, ()⟩, [], [(Sample.ensured 0 d).1]⟩)
    Sample.builder 4 fun _ _ _ _ _ => trivial
  obtain ⟨record, s, w, rfl, hfound, hw, -⟩ :=
    materializer_spares_used hreach List.mem_cons_self htarget
  exact ⟨d, record, s, w, htarget, hfound, hw⟩

end Pantheon
