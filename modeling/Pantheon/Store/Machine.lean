/-
  The store as a state machine: every mutating operation, with any arguments and in any order.
  `Mutation` lists the transaction bodies; `StoreOp` runs one under the command envelope or as
  a plain write, as the source does. A run starts from a bootstrapped store, and `Run cond`
  holds the runs whose steps all meet a condition on the state they start from.
  `apply_cases` is the one place where a step is taken apart: it did nothing, or one body
  committed and only the ledger changed besides.
-/
import Pantheon.Config.Model
import Pantheon.Store.Artifacts
import Pantheon.Store.AgentControl
import Pantheon.Store.Context
import Pantheon.Store.Planning
import Pantheon.Store.Sandbox
import Pantheon.Store.Scheduling

namespace Pantheon

open Relational

variable {D : Type} [DecidableEq D] [DigestScheme D]

/-! ## Operations -/

/-- The mutations that run under the command envelope. -/
inductive Mutation (D : Type) [DigestScheme D] where
  | createGoal (goalId : String) (spec : GoalSpec)
  | recordDirectPlanning (decision : PlanningDecision D) (proposal : ProposalRecord D)
  | materializePlan (operationId taskId : String) (plan : ValidPlan D)
  | cancelGoal (goalId : String)
  | setDispatchMode (mode : DispatchMode) (expected : Int)
  | commitRunIntent (intent : RunIntent D)
  | openWorkspace (workspaceId : String) (binding : WorkspaceBinding)
  | beginWorkspaceMaterialization (workspaceId : String) (expected : Int)
  | completeWorkspaceMaterialization (workspaceId : String) (expected : Int) (base : ResolvedBase)
  | failWorkspaceMaterialization (workspaceId : String) (expected : Int) (observed : Presence)
  | freezeWorkspace (authority : SealAuthority) (taskId outputSlot workspaceId : String)
      (expected : Int)
  | validateSealAuthority (authority : SealAuthority) (taskId outputSlot workspaceId : String)
      (expected : Int)
  | recordCaptureFailure (workspaceId : String) (expected : Int)
  | commitChangesetSeal (changeset : SealedChangeset D)
  | createAttempt (creation : AttemptCreation D)
  | attachRunContextPlan (attachment : ContextPlanAttachment D)
  | activateConfiguration (compiled : CompiledComponents D) (compilerVersion : String)
      (sourceSetDigest : D) (expected : Int)
  | createSandbox (sandboxId : String) (binding : SandboxBinding D)
  | beginSandboxPreparation (sandboxId : String) (expected : Int)
  | completeSandboxPreparation (sandboxId : String) (expected : Int)
  | beginSandboxRelease (sandboxId : String) (expected : Int)
  | completeSandboxRelease (sandboxId : String) (expected : Int) (observed : Presence)
  | failSandbox (sandboxId : String) (expected : Int) (observed : Presence)
  | updateSandboxPresence (sandboxId : String) (expected : Int) (presence : Presence)
  | recordSandboxProbeEvidence (evidence : SandboxProbeEvidence D)

/-- The operations that are plain writes, outside the command ledger. -/
inductive PlainWrite (D : Type) where
  | recordSchedulingBackoff (taskId : String) (expected : Int) (code detailJson : String)
      (nextAttemptAt : Int)
  | rekeyAgentControlSession (attemptId : String) (newVerifier : D) (expected : Int)
  | markLaunchContact (runId attemptId controllerEpoch : String)
      (expectedStatus expectedCredential : Int)
  | recordExecutionObservation (attemptId : String) (expected : Int) (update : ObservationUpdate)
  | concludeRun (runId : String) (target : RunPhase) (expected : Int)
  | openAgentRequest (credential : AgentCredential D) (operation : AgentOperation)
      (requestId : String) (requestHash : D)
  | completeAgentRequest (credential : AgentCredential D) (requestId resultRef : String)
  | failAgentRequest (credential : AgentCredential D) (requestId problemCode : String)
  | submitCandidate (submission : CandidateSubmission D)

/-- A transaction body with its rights and result, and whether a result stands for work done
    by this call rather than reconciled with earlier work. -/
structure Body (D : Type) [DecidableEq D] where
  access : Access TableName
  Result : Type
  body : Ambient → Write D access Result
  fresh : Result → Bool

/-- Whether a body may write a table. -/
def Body.touches (b : Body D) (i : TableName) : Bool :=
  b.access.inserts.contains i || b.access.updates.contains i

def Body.of {A : Access TableName} {α : Type} (m : Ambient → Write D A α) : Body D :=
  ⟨A, α, m, fun _ => true⟩

def Mutation.body : Mutation D → Body D
  | .createGoal goalId spec => .of fun _ => Pantheon.createGoal goalId spec
  | .recordDirectPlanning decision proposal =>
    .of fun _ => Pantheon.recordDirectPlanning decision proposal
  | .materializePlan operationId taskId plan =>
    .of fun ambient => Pantheon.materializePlan ambient.now operationId taskId plan.plan
  | .cancelGoal goalId => .of fun _ => Pantheon.cancelGoal goalId
  | .setDispatchMode mode expected => .of fun _ => Pantheon.setDispatchMode mode expected
  | .commitRunIntent intent => .of fun _ => applyRunIntent intent
  | .openWorkspace workspaceId binding => .of fun _ => Pantheon.openWorkspace workspaceId binding
  | .beginWorkspaceMaterialization workspaceId expected =>
    .of fun _ => Pantheon.beginWorkspaceMaterialization workspaceId expected
  | .completeWorkspaceMaterialization workspaceId expected base =>
    .of fun _ => Pantheon.completeWorkspaceMaterialization workspaceId expected base
  | .failWorkspaceMaterialization workspaceId expected observed =>
    .of fun _ => Pantheon.failWorkspaceMaterialization workspaceId expected observed
  | .freezeWorkspace authority taskId outputSlot workspaceId expected =>
    .of fun _ => Pantheon.freezeWorkspace authority taskId outputSlot workspaceId expected
  | .validateSealAuthority authority taskId outputSlot workspaceId expected =>
    .of fun _ => validateSealAuthorityCommand authority taskId outputSlot workspaceId expected
  | .recordCaptureFailure workspaceId expected =>
    .of fun _ => Pantheon.recordCaptureFailure workspaceId expected
  | .commitChangesetSeal changeset =>
    .of fun ambient => Pantheon.commitChangesetSeal ambient.rowId changeset
  | .createAttempt creation => .of fun _ => applyAttemptCreation creation
  | .attachRunContextPlan attachment => .of fun _ => applyAttachment attachment
  | .activateConfiguration compiled compilerVersion sourceSetDigest expected =>
    .of fun _ => writeActivation compiled compilerVersion sourceSetDigest expected
  | .createSandbox sandboxId binding => .of fun _ => Pantheon.createSandbox sandboxId binding
  | .beginSandboxPreparation sandboxId expected =>
    .of fun _ => Pantheon.beginSandboxPreparation sandboxId expected
  | .completeSandboxPreparation sandboxId expected =>
    .of fun _ => Pantheon.completeSandboxPreparation sandboxId expected
  | .beginSandboxRelease sandboxId expected =>
    .of fun _ => Pantheon.beginSandboxRelease sandboxId expected
  | .completeSandboxRelease sandboxId expected observed =>
    .of fun _ => Pantheon.completeSandboxRelease sandboxId expected observed
  | .failSandbox sandboxId expected observed =>
    .of fun _ => Pantheon.failSandbox sandboxId expected observed
  | .updateSandboxPresence sandboxId expected presence =>
    .of fun _ => Pantheon.updateSandboxPresence sandboxId expected presence
  | .recordSandboxProbeEvidence evidence =>
    .of fun ambient => Pantheon.recordSandboxProbeEvidence ambient.now evidence

def PlainWrite.body : PlainWrite D → Body D
  | .recordSchedulingBackoff taskId expected code detailJson nextAttemptAt =>
    .of fun _ => Pantheon.recordSchedulingBackoff taskId expected code detailJson nextAttemptAt
  | .rekeyAgentControlSession attemptId newVerifier expected =>
    .of fun ambient => applyRekey ambient attemptId newVerifier expected
  | .markLaunchContact runId attemptId controllerEpoch expectedStatus expectedCredential =>
    .of fun ambient => applyLaunchContact ambient runId attemptId controllerEpoch expectedStatus
      expectedCredential
  | .recordExecutionObservation attemptId expected update =>
    .of fun ambient => applyObservation ambient attemptId expected update
  | .concludeRun runId target expected =>
    .of fun ambient => applyConcludeRun ambient runId target expected
  | .openAgentRequest credential operation requestId requestHash =>
    .of fun _ => Pantheon.openAgentRequest credential operation requestId requestHash
  | .completeAgentRequest credential requestId resultRef =>
    .of fun _ => Pantheon.completeAgentRequest credential requestId resultRef
  | .failAgentRequest credential requestId problemCode =>
    .of fun _ => Pantheon.failAgentRequest credential requestId problemCode
  | .submitCandidate submission =>
    ⟨_, _, fun ambient => applyCandidateSubmission ambient submission, fun r => !r.reconciled⟩

/-- One call of the store. -/
inductive StoreOp (D : Type) [DigestScheme D] where
  | command (identity : Command D) (mutation : Mutation D)
  | write (body : PlainWrite D)

def StoreOp.body : StoreOp D → Body D
  | .command _ mutation => mutation.body
  | .write plain => plain.body

/-- The error of a transaction that ignored a failed statement. -/
def discardedFailure : StoreError := .InvariantViolated
  "an authoritative mutation failed inside this transaction and its error was discarded; the transaction was rolled back rather than committed"

def Committed.isFresh {α : Type} : Committed α → Bool
  | .Executed _ _ => true
  | .Replayed _ _ => false

/-- What a call answers. -/
def StoreOp.Answer : StoreOp D → Type
  | .command _ mutation => Committed mutation.body.Result
  | .write plain => plain.body.Result

/-- One call: its answer, and the store after it. -/
def StoreOp.answer (ambient : Ambient) (d : Db D) :
    (op : StoreOp D) → Except StoreError op.Answer × Db D
  | .command identity mutation =>
    (execute ambient identity (mutation.body.body ambient)).transact discardedFailure d
  | .write plain => (plain.body.body ambient).transact discardedFailure d

/-- Whether an answer stands for work done by this call. -/
def StoreOp.isFresh : (op : StoreOp D) → op.Answer → Bool
  | .command _ _ => Committed.isFresh
  | .write plain => plain.body.fresh

/-- One call: whether it executed afresh, and the store after it. -/
def StoreOp.exec (ambient : Ambient) (d : Db D) (op : StoreOp D) : Except StoreError Bool × Db D :=
  let answer := op.answer ambient d
  (answer.1.map op.isFresh, answer.2)

/-- The store after a call. -/
def StoreOp.apply (op : StoreOp D) (ambient : Ambient) (d : Db D) : Db D := (op.exec ambient d).2

/-- The call executed afresh: it committed, and not by finding its work already recorded. -/
def StoreOp.Fresh (op : StoreOp D) (ambient : Ambient) (d : Db D) : Prop :=
  (op.exec ambient d).1 = .ok true

instance (op : StoreOp D) (ambient : Ambient) (d : Db D) : Decidable (op.Fresh ambient d) :=
  match h : (op.exec ambient d).1 with
  | .ok true => .isTrue h
  | .ok false => .isFalse fun h' => by simp [StoreOp.Fresh, h] at h'
  | .error _ => .isFalse fun h' => by simp [StoreOp.Fresh, h] at h'

/-! ## Runs -/

def bootstrapAccess : Access TableName :=
  ⟨[.systemState, .journalEpochs, .activeConfiguration, .schedulerState], []⟩

/-- The rows the migrations leave in a new installation. -/
def bootstrap (generation epoch : String) : Write D bootstrapAccess Unit := do
  insert .systemState () ⟨generation⟩
  insert .journalEpochs epoch ⟨1, true⟩
  insert .activeConfiguration () ⟨1, none⟩
  insert .schedulerState () ⟨.Running, 1, 1⟩

/-- A newly installed store. -/
def Installed (d : Db D) : Prop :=
  ∃ generation epoch, (bootstrap generation epoch).Commits (State.empty (schema D)) () d

variable {d d' : Db D} {i : TableName} {cond : Db D → StoreOp D → Prop} {op : StoreOp D}
  {calls : List (Ambient × StoreOp D)}

omit [DigestScheme D] in
/-- A new installation holds nothing but the rows of the bootstrap. -/
theorem Installed.table_empty (h : Installed d) (hi : i ∉ bootstrapAccess.inserts) :
    d.table i = Table.empty := by
  obtain ⟨generation, epoch, hc⟩ := h
  exact hc.within.same i hi (by simp [bootstrapAccess])

omit [DigestScheme D] in
theorem Installed.find_none (h : Installed d) (hi : i ∉ bootstrapAccess.inserts) (k : Key D i) :
    d.find i k = none := by
  rw [State.find, h.table_empty hi]
  rfl

/-- Runs of the store from `d` in which every step meets `cond` in the state it starts from. -/
inductive Run.Steps (cond : Db D → StoreOp D → Prop) (d : Db D) : Db D → Prop where
  | refl : Run.Steps cond d d
  | step {d' : Db D} (before : Run.Steps cond d d') (op : StoreOp D) (ambient : Ambient)
      (admitted : cond d' op) : Run.Steps cond d (op.apply ambient d')

/-- Any operation, in any order. -/
def anyStep (_ : Db D) (_ : StoreOp D) : Prop := True

/-- The states of an installation. -/
def Reachable (d : Db D) : Prop := ∃ d₀, Installed d₀ ∧ Run.Steps anyStep d₀ d

/-- What every admitted step keeps, a run keeps. -/
theorem Run.Steps.invariant {P : Db D → Prop} (hrun : Run.Steps cond d d') (h₀ : P d)
    (hstep : ∀ e op ambient, P e → cond e op → P (op.apply ambient e)) : P d' := by
  induction hrun with
  | refl => exact h₀
  | step _ op ambient admitted ih => exact hstep _ op ambient ih admitted

theorem Run.Steps.trans {d'' : Db D} (h : Run.Steps cond d d') (h' : Run.Steps cond d' d'') :
    Run.Steps cond d d'' :=
  h'.invariant (P := fun e => Run.Steps cond d e) h fun _ op ambient he hop => .step he op ambient hop

theorem Run.Steps.weaken {cond' : Db D → StoreOp D → Prop} (h : Run.Steps cond d d')
    (hweak : ∀ e op, cond e op → cond' e op) : Run.Steps cond' d d' :=
  h.invariant (P := fun e => Run.Steps cond' d e) .refl fun e op ambient he hop =>
    .step he op ambient (hweak e op hop)

theorem Reachable.apply (h : Reachable d) (op : StoreOp D) (ambient : Ambient) :
    Reachable (op.apply ambient d) := by
  obtain ⟨d₀, hinstalled, hbefore⟩ := h
  exact ⟨d₀, hinstalled, .step hbefore op ambient trivial⟩

theorem Reachable.steps (h : Reachable d) (hrun : Run.Steps anyStep d d') : Reachable d' := by
  exact hrun.invariant (P := Reachable) h fun _ op ambient he _ => he.apply op ambient

/-! ## One step -/

/-- The tables the command envelope writes. -/
def ledgerTables : List TableName := [.eventJournal, .commands, .journalEpochs]

/-- A body committed, and after it only the ledger changed. -/
structure Ran (b : Body D) (ambient : Ambient) (r : b.Result) (d d' : Db D) : Prop where
  commits : ∃ d₁, (b.body ambient).Commits d r d₁ ∧ ∀ i, i ∉ ledgerTables → d'.table i = d₁.table i

/-- A commanded mutation has nothing of its own to reconcile. -/
theorem Mutation.body_fresh (m : Mutation D) (r : m.body.Result) : m.body.fresh r = true := by
  cases m <;> rfl

omit [DigestScheme D] in
/-- A body and the trace of its command. -/
theorem recorded_ran {b : Body D} {ambient : Ambient} {command : Command D} {r : b.Result}
    {cursor : JournalCursor} {d₁ : Db D} (h : (b.body ambient).Commits d r d₁)
    (hrecorded : Recorded ambient command cursor d₁ d') : Ran b ambient r d d' := by
  refine ⟨d₁, h, fun i hi => ?_⟩
  simp only [ledgerTables, List.mem_cons, List.not_mem_nil, or_false, not_or] at hi
  exact hrecorded.within.same i (by simp [journalAccess, hi]) (by simp [journalAccess, hi])

/-- A call was refused, was a replay, or ran its body. -/
theorem answer_cases (op : StoreOp D) (ambient : Ambient) (d : Db D) :
    (∃ e, op.answer ambient d = (.error e, d)) ∨
      (∃ a, op.answer ambient d = (.ok a, d) ∧ op.isFresh a = false) ∨
      ∃ a r d', op.answer ambient d = (.ok a, d') ∧ op.isFresh a = op.body.fresh r ∧
        Ran op.body ambient r d d' := by
  cases op with
  | command identity mutation =>
    rcases Writer.transact_cases discardedFailure
      (execute ambient identity (mutation.body.body ambient)) d with ⟨e, he⟩ | ⟨r, d', hr, hc⟩
    · exact .inl ⟨e, he⟩
    · rcases commits_execute hc with ⟨_, -, -, rfl, rfl⟩ | ⟨-, value, cursor, d₁, rfl, hm, hrec⟩
      · exact .inr (.inl ⟨_, hr, rfl⟩)
      · exact .inr (.inr ⟨_, value, d', hr, (mutation.body_fresh value).symm,
          recorded_ran hm hrec⟩)
  | write plain =>
    rcases Writer.transact_cases discardedFailure (plain.body.body ambient) d with
      ⟨e, he⟩ | ⟨r, d', hr, hc⟩
    · exact .inl ⟨e, he⟩
    · exact .inr (.inr ⟨r, r, d', hr, rfl, d', hc, fun _ _ => rfl⟩)

omit [DigestScheme D] in
/-- A call that was not refused, as the transaction it is. -/
theorem answer_ok {A : Access TableName} {α : Type} {m : Write D A α} {r : α}
    (h : (m.transact discardedFailure d).1 = .ok r) :
    m.Commits d r (m.transact discardedFailure d).2 := by
  rcases Writer.transact_cases discardedFailure m d with ⟨e, he⟩ | ⟨r', d', hr, hc⟩
  · rw [he] at h
    cases h
  · rw [hr] at h ⊢
    obtain rfl := Except.ok.inj h
    exact hc

/-- A plain write that was not refused has committed. -/
theorem write_commits {plain : PlainWrite D} {ambient : Ambient} {r : plain.body.Result}
    (h : (StoreOp.answer ambient d (.write plain)).1 = .ok r) :
    (plain.body.body ambient).Commits d r ((StoreOp.write plain).apply ambient d) :=
  answer_ok h

/-- A command that was executed ran its body, with the value it answered. -/
theorem command_ran {identity : Command D} {mutation : Mutation D} {ambient : Ambient}
    {value : mutation.body.Result} {cursor : JournalCursor}
    (h : (StoreOp.answer ambient d (.command identity mutation)).1 =
      .ok (.Executed value cursor)) :
    Ran mutation.body ambient value d ((StoreOp.command identity mutation).apply ambient d) := by
  rcases commits_execute (answer_ok h) with ⟨_, -, -, hreplay, -⟩ | ⟨-, _, _, d₁, hsame, hm, hrec⟩
  · cases hreplay
  · obtain ⟨rfl, rfl⟩ := Committed.Executed.inj hsame
    exact recorded_ran hm hrec

/-- A step did nothing, or it ran its body. -/
theorem apply_cases (op : StoreOp D) (ambient : Ambient) (d : Db D) :
    op.apply ambient d = d ∨ ∃ r, Ran op.body ambient r d (op.apply ambient d) := by
  rcases answer_cases op ambient d with ⟨e, he⟩ | ⟨a, ha, -⟩ | ⟨a, r, d', ha, -, hran⟩
  · exact .inl (congrArg Prod.snd he)
  · exact .inl (congrArg Prod.snd ha)
  · have hafter : op.apply ambient d = d' := congrArg Prod.snd ha
    exact .inr ⟨r, hafter ▸ hran⟩

/-- A fresh step ran its body with a fresh result. -/
theorem fresh_ran {ambient : Ambient} (h : op.Fresh ambient d) :
    ∃ r, op.body.fresh r = true ∧ Ran op.body ambient r d (op.apply ambient d) := by
  rcases answer_cases op ambient d with ⟨e, he⟩ | ⟨a, ha, hreplay⟩ | ⟨a, r, d', ha, hfresh, hran⟩
  · simp [StoreOp.Fresh, StoreOp.exec, he, Except.map] at h
  · simp [StoreOp.Fresh, StoreOp.exec, ha, Except.map, hreplay] at h
  · have hafter : op.apply ambient d = d' := congrArg Prod.snd ha
    refine ⟨r, ?_, hafter ▸ hran⟩
    simpa [StoreOp.Fresh, StoreOp.exec, ha, Except.map, hfresh] using h

/-- A fresh call was answered. -/
theorem fresh_answered {ambient : Ambient} (h : op.Fresh ambient d) :
    ∃ a, (op.answer ambient d).1 = .ok a ∧ op.isFresh a = true := by
  unfold StoreOp.Fresh StoreOp.exec at h
  cases hanswer : (op.answer ambient d).1 with
  | error e => simp [hanswer, Except.map] at h
  | ok a => exact ⟨a, rfl, by simpa [hanswer, Except.map] using h⟩

omit [DigestScheme D] in
/-- A table a body may not write is the same after a step, the ledger apart. -/
theorem Ran.same {b : Body D} {ambient : Ambient} {r : b.Result} (h : Ran b ambient r d d')
    (i : TableName) (hledger : i ∉ ledgerTables) (htouches : b.touches i = false) :
    d'.table i = d.table i := by
  obtain ⟨d₁, hc, hframe⟩ := h.commits
  simp only [Body.touches, Bool.or_eq_false_iff, List.contains_eq_mem, decide_eq_false_iff_not]
    at htouches
  exact (hframe i hledger).trans (hc.within.same i htouches.1 htouches.2)

/-- Rows never disappear. -/
theorem apply_grown (op : StoreOp D) (ambient : Ambient) (hledger : i ∉ ledgerTables) {k : Key D i}
    (h : d.find i k ≠ none) : (op.apply ambient d).find i k ≠ none := by
  rcases apply_cases op ambient d with hsame | ⟨r, d₁, hc, hframe⟩
  · rwa [hsame]
  · rw [State.find_congr (hframe i hledger)]
    exact hc.within.grown i k h

/-- A row that was there is kept, or the call ran and may update its table. -/
theorem apply_row (op : StoreOp D) (ambient : Ambient) (hledger : i ∉ ledgerTables) {k : Key D i}
    {old : Row D i} (h : d.find i k = some old) :
    (op.apply ambient d).find i k = some old ∨ ∃ r d₁, (op.body.body ambient).Commits d r d₁ ∧
      i ∈ op.body.access.updates ∧ (op.apply ambient d).find i k = d₁.find i k := by
  rcases apply_cases op ambient d with hsame | ⟨r, d₁, hc, hframe⟩
  · exact .inl (hsame.symm ▸ h)
  have hafter := State.find_congr (hframe i hledger) k
  by_cases hu : i ∈ op.body.access.updates
  · exact .inr ⟨r, d₁, hc, hu, hafter⟩
  · exact .inl (hafter.trans (hc.within.kept i hu k old h))

/-- A row that is there was there before, or the call ran and may write its table. -/
theorem apply_row_before {ambient : Ambient} (hledger : i ∉ ledgerTables) {k : Key D i}
    {row : Row D i} (h : (op.apply ambient d).find i k = some row) :
    d.find i k = some row ∨ ∃ r d₁, (op.body.body ambient).Commits d r d₁ ∧
      op.body.touches i = true ∧ d₁.find i k = some row := by
  rcases apply_cases op ambient d with hsame | ⟨r, hran⟩
  · exact .inl (hsame ▸ h)
  by_cases ht : op.body.touches i = true
  · obtain ⟨d₁, hc, hframe⟩ := hran.commits
    exact .inr ⟨r, d₁, hc, ht, State.find_congr (hframe i hledger) k ▸ h⟩
  · exact .inl (State.find_congr (hran.same i hledger (by simpa using ht)) k ▸ h)

/-- A row that was not there before was inserted by the call. -/
theorem apply_row_new {ambient : Ambient} (hledger : i ∉ ledgerTables) {k : Key D i}
    {new : Row D i} (h : (op.apply ambient d).find i k = some new) (hnone : d.find i k = none) :
    ∃ r d₁, (op.body.body ambient).Commits d r d₁ ∧ i ∈ op.body.access.inserts ∧
      d₁.find i k = some new ∧
      ∀ j, j ∉ ledgerTables → (op.apply ambient d).table j = d₁.table j := by
  rcases apply_cases op ambient d with hsame | ⟨r, d₁, hc, hframe⟩
  · cases (hsame ▸ hnone).symm.trans h
  have hnew : d₁.find i k = some new := State.find_congr (hframe i hledger) k ▸ h
  by_cases hi : i ∈ op.body.access.inserts
  · exact ⟨r, d₁, hc, hi, hnew, hframe⟩
  · cases (hc.within.closed i hi k hnone).symm.trans hnew

omit [DigestScheme D] in
/-- Where one row is replaced, every row that was there is moved or kept. -/
theorem moved_at {P : Row D i → Row D i → Prop} (hrefl : ∀ row, P row row) {k target : Key D i}
    {old row row' : Row D i} (h : d.find i k = some old) (hrow : d.find i target = some row)
    (hafter : ∀ k, d'.find i k = if target = k then some row' else d.find i k)
    (hmoved : target = k → P row row') : ∃ new, d'.find i k = some new ∧ P old new := by
  by_cases hid : target = k
  · obtain rfl : row = old := Option.some.inj ((hid ▸ hrow).symm.trans h)
    exact ⟨row', by rw [hafter, if_pos hid], hmoved hid⟩
  · exact ⟨old, by rw [hafter, if_neg hid, h], hrefl old⟩

/-! ## Lists of calls -/

/-- The store after a list of calls, each of which must execute afresh. -/
def runAll : Db D → List (Ambient × StoreOp D) → Option (Db D)
  | d, [] => some d
  | d, (ambient, op) :: calls =>
    match op.exec ambient d with
    | (.ok true, d') => runAll d' calls
    | _ => none

theorem runAll_cons {ambient : Ambient} (h : runAll d ((ambient, op) :: calls) = some d') :
    op.Fresh ambient d ∧ runAll (op.apply ambient d) calls = some d' := by
  unfold runAll at h
  split at h
  · rename_i e hexec
    have hafter : op.apply ambient d = e := congrArg Prod.snd hexec
    exact ⟨congrArg Prod.fst hexec, hafter ▸ h⟩
  · cases h

theorem runAll_one {ambient : Ambient} (h : runAll d [(ambient, op)] = some d') :
    d' = op.apply ambient d :=
  (Option.some.inj (runAll_cons h).2).symm

theorem runAll_trans {e : Db D} {later : List (Ambient × StoreOp D)} (h : runAll d calls = some e)
    (h' : runAll e later = some d') : runAll d (calls ++ later) = some d' := by
  induction calls generalizing d with
  | nil => exact Option.some.inj h ▸ h'
  | cons call calls ih =>
    obtain ⟨ambient, op⟩ := call
    have hexec : op.exec ambient d = (.ok true, op.apply ambient d) :=
      Prod.ext (runAll_cons h).1 rfl
    rw [List.cons_append, runAll, hexec]
    exact ih (runAll_cons h).2

/-- A plain write that commits with a fresh result, as a list of one call. -/
theorem runAll_write {plain : PlainWrite D} {ambient : Ambient} {r : plain.body.Result}
    (hc : (plain.body.body ambient).Commits d r d') (hfresh : plain.body.fresh r = true) :
    runAll d [(ambient, .write plain)] = some d' := by
  have hanswer : StoreOp.answer ambient d (.write plain) = (.ok r, d') := Writer.transact_ok.mpr hc
  have hexec : (StoreOp.write plain).exec ambient d = (.ok true, d') := by
    unfold StoreOp.exec
    rw [hanswer, ← hfresh]
    rfl
  unfold runAll
  rw [hexec]
  rfl

theorem runAll_append {later : List (Ambient × StoreOp D)} (h : runAll d (calls ++ later) = some d') :
    ∃ e, runAll d calls = some e ∧ runAll e later = some d' := by
  induction calls generalizing d with
  | nil => exact ⟨d, rfl, h⟩
  | cons call calls ih =>
    obtain ⟨ambient, op⟩ := call
    have hexec : op.exec ambient d = (.ok true, op.apply ambient d) :=
      Prod.ext (runAll_cons h).1 rfl
    obtain ⟨e, he, hlater⟩ := ih (runAll_cons h).2
    refine ⟨e, ?_, hlater⟩
    unfold runAll
    rw [hexec]
    exact he

/-- Calls that are admitted in every state make an admitted run. -/
theorem runAll_admitted {start : Db D} (hstart : Run.Steps cond start d)
    (hcalls : ∀ call ∈ calls, ∀ e, cond e call.2) (h : runAll d calls = some d') :
    Run.Steps cond start d' := by
  induction calls generalizing d with
  | nil => exact Option.some.inj h ▸ hstart
  | cons call calls ih =>
    obtain ⟨ambient, op⟩ := call
    have hhere := hcalls (ambient, op) List.mem_cons_self d
    exact ih (.step hstart op ambient hhere)
      (fun later hlater => hcalls later (List.mem_cons_of_mem _ hlater)) (runAll_cons h).2

theorem runAll_steps {start : Db D} (hstart : Run.Steps anyStep start d)
    (h : runAll d calls = some d') : Run.Steps anyStep start d' :=
  runAll_admitted hstart (fun _ _ _ => trivial) h

/-! ## A sample installation -/

namespace Sample

abbrev Store : Type := Db PrefixDigest

def generation : String := "0123456789abcdef0123456789abcdef"

def journalEpoch : String := "fedcba9876543210fedcba9876543210"

/-- An installation without any work. -/
def installed : Store :=
  ((bootstrap generation journalEpoch : Write PrefixDigest bootstrapAccess Unit).transact
    discardedFailure (State.empty (schema PrefixDigest))).2

theorem installed_installed : Installed installed := by
  have hok : ((bootstrap generation journalEpoch : Write PrefixDigest bootstrapAccess Unit).transact
      discardedFailure (State.empty (schema PrefixDigest))).1 = .ok () := by decide +kernel
  exact ⟨generation, journalEpoch, Writer.transact_ok.mp (Prod.ext hok rfl)⟩

theorem reachable_of_runAll {calls : List (Ambient × StoreOp PrefixDigest)} {d : Store}
    (h : runAll installed calls = some d) : Reachable d :=
  ⟨installed, installed_installed, runAll_steps .refl h⟩

/-- The surroundings of a call, told apart by a character. -/
def ambient (c : Char) : Ambient :=
  ⟨10, 10, String.ofList (List.replicate 32 c), String.ofList (List.replicate 32 c)⟩

/-- A commanded call, identified by a character. -/
def call (c : Char) (mutation : Mutation PrefixDigest) : Ambient × StoreOp PrefixDigest :=
  (ambient c, .command ⟨generation, String.ofList [c], ⟨[0]⟩, "sample"⟩ mutation)

def textDigest (text : String) : PrefixDigest := DigestScheme.ofBytes (utf8 text)

def goal : GoalSpec := ⟨"o", [], [], ⟨[], [], []⟩⟩

def proposal : Proposal :=
  ⟨[⟨"code", "o", [], [("changeset", "code.changeset", false)], ["c"], [], [], [],
    [⟨"k", "s", "e", true⟩]⟩], []⟩

def authority : Authority PrefixDigest := ⟨goal, "goal", 1, fun _ => some "1", ⟨[9]⟩, 1⟩

def taskSpec : TaskSpec PrefixDigest :=
  ⟨"code", "o", [], [⟨"changeset", "code.changeset", false⟩], ["c"], ⟨[], [], []⟩,
    ⟨[⟨"k", "s", "e", "1", .Required⟩], ⟨[9]⟩, 1⟩, "goal", 1⟩

def plan : ValidPlan PrefixDigest :=
  ⟨⟨taskSpec, proposal.digest, 1, goal.digest⟩, proposal, authority, rfl⟩

/-- An agents component with one agent. -/
def agents : Value :=
  .object [("agents", .arr [.object [("name", .str "a"), ("version", .integer 1),
    ("soul", .str "s"), ("behavior", .str "b")]])]

/-- A sandbox profile without a network. -/
def profile : SandboxProfile := ⟨"p", .Container, [], .None, "e"⟩

def execution : ExecutionComponent := ⟨[profile], []⟩

/-- A context policy that demands nothing. -/
def contextPolicy : ContextComponent := ⟨1, [], [], 0, 0, 0, []⟩

def components : ComponentDigests PrefixDigest :=
  ⟨agents.digest, textDigest "routing", execution.toValue.digest, textDigest "evaluators",
    contextPolicy.toValue.digest, textDigest "authorization"⟩

def compiled : CompiledComponents PrefixDigest :=
  ⟨[(.agents, agents.digest, agents.toCanonicalText), (.routing, textDigest "routing", "routing"),
    (.executionProfiles, execution.toValue.digest, execution.toValue.toCanonicalText),
    (.evaluators, textDigest "evaluators", "evaluators"),
    (.context, contextPolicy.toValue.digest, contextPolicy.toValue.toCanonicalText),
    (.authorization, textDigest "authorization", "authorization")], components⟩

/-- A Goal with an active configuration and a recorded plan. -/
def planned : List (Ambient × StoreOp PrefixDigest) := [
  call 'a' (.createGoal "goal" goal),
  call 'b' (.activateConfiguration compiled "v" ⟨[7]⟩ 1),
  call 'c' (.recordDirectPlanning ⟨"operation", "goal", 1, 0, 1, ⟨[8]⟩, "initial", "p", "1"⟩
    ⟨proposal.digest, "p", "n"⟩)]

def materialize : Ambient × StoreOp PrefixDigest := call 'd' (.materializePlan "operation" "task" plan)

def base : ResolvedBase :=
  ⟨"0123456789012345678901234567890123456789", by decide, by decide⟩

def agent : LogicalAgentVersion := ⟨"a", 1⟩

def binding : ExecutionBinding PrefixDigest :=
  ⟨"task", agent, ⟨[1]⟩, ⟨[2]⟩, "backend", 1, ⟨[3]⟩, ⟨[4]⟩, profile.digest, ⟨[6]⟩, 1,
    components.revisionDigest "v", components⟩

def snapshot : ContextSourceSnapshot PrefixDigest :=
  ⟨taskSpec.digest, "goal", 1, 1, agent, 1, contextPolicy.toValue.digest, guidanceDigest "s",
    guidanceDigest "b", "workspace", base.text⟩

def intent : RunIntent PrefixDigest :=
  ⟨"run", "task", "goal", 1, 2, 1, 1, 3, 1, none, 1, 1, binding.digest, binding, snapshot.digest,
    snapshot⟩

/-- The planned Task with a ready Workspace and a Run. -/
def dispatched : List (Ambient × StoreOp PrefixDigest) := planned ++ [
  materialize,
  call 'e' (.openWorkspace "workspace" ⟨"task", "r", "/src", ⟨"main", by decide⟩, base⟩),
  call 'f' (.beginWorkspaceMaterialization "workspace" 1),
  call 'g' (.completeWorkspaceMaterialization "workspace" 2 base),
  call 'h' (.commitRunIntent intent)]

/-- The Run with its plan attached. -/
def attached : List (Ambient × StoreOp PrefixDigest) := dispatched ++ [
  call 'i' (.attachRunContextPlan ⟨"run", snapshot.digest, textDigest "plan", "v", "plan"⟩)]

def launchKey : String := "0123456789abcdef0123456789abcdef0123456789abcdef0123456789abcdef"

def attempt : AttemptCreation PrefixDigest := ⟨"run", "attempt", launchKey, "session", ⟨[1]⟩, 1⟩

/-- The Run with its Attempt contacted. -/
def contacted : List (Ambient × StoreOp PrefixDigest) := attached ++ [
  call 'j' (.createAttempt attempt),
  (ambient 'k', .write (.markLaunchContact "run" "attempt" "i" 1 1))]

/-- A Candidate without outputs, and its submission under the first credential. -/
def candidate : CandidateResult PrefixDigest := ⟨"task", "run", [], .nil, by simp⟩

def submit : Ambient × StoreOp PrefixDigest :=
  (ambient 'l', .write (.submitCandidate ⟨⟨"attempt", ⟨[1]⟩⟩, "q", ⟨[2]⟩, candidate, 2⟩))

def cancel : Ambient × StoreOp PrefixDigest := call 'j' (.cancelGoal "goal")

end Sample

end Pantheon
