/-
  Commands execute once.
  `Store::execute_command` takes any mutation. A `Closure` is such a mutation: a transaction
  body that leaves the rows of the command ledger and of the installation's identity alone,
  which the source's `Writer` ensures (callers get revisioned updates only, and neither table
  has a revision) and which every mutation of the store meets (`Mutation.closure`).
  `commands_execute_once` is about every sequence of such calls, with any other transactions
  in between. A crash between two transactions changes nothing durable, so a sequence with
  crashes is a sequence.
-/
import Pantheon.Store.Machine

namespace Pantheon

open Relational

variable {D : Type} [DecidableEq D]

/-! ## Calls -/

/-- A mutation that leaves the ledger and the identity of the installation alone. -/
structure Closure (D : Type) [DecidableEq D] where
  access : Access TableName
  Result : Type
  body : Write D access Result
  ledger_kept : .commands ∉ access.updates
  identity_kept : .systemState ∉ access.updates

/-- Every mutation of the store is one. -/
def Mutation.closure [DigestScheme D] (ambient : Ambient) (m : Mutation D) : Closure D where
  access := m.body.access
  Result := m.body.Result
  body := m.body.body ambient
  ledger_kept := by cases m <;> exact of_decide_eq_true rfl
  identity_kept := by cases m <;> exact of_decide_eq_true rfl

/-- One call of `Store::execute_command`. -/
structure Call (D : Type) [DecidableEq D] where
  ambient : Ambient
  command : Command D
  mutation : Closure D

/-- `Store::execute_command`. -/
def Call.answer (c : Call D) (d : Db D) : Except StoreError (Committed c.mutation.Result) × Db D :=
  (execute c.ambient c.command c.mutation.body).transact discardedFailure d

/-- A transaction: a command, or a write outside the ledger. -/
inductive Transaction (D : Type) [DecidableEq D] where
  | command (c : Call D)
  | write (m : Closure D)

/-- The store after a transaction. -/
def Transaction.after (d : Db D) : Transaction D → Db D
  | .command c => (c.answer d).2
  | .write m => (m.body.transact discardedFailure d).2

def Call.identity (c : Call D) : String × String := (c.command.epoch, c.command.id)

/-- The place in the journal of the execution an answer stands for. -/
def Committed.cursor {α : Type} : Committed α → JournalCursor
  | .Executed _ cursor => cursor
  | .Replayed cursor _ => cursor

/-- Whether an answer says that the mutation ran. -/
def ranNow {α : Type} : Except StoreError (Committed α) → Bool
  | .ok (.Executed _ _) => true
  | _ => false

/-- Whether a transaction runs the mutation of a command with this identity. -/
def Transaction.executes (k : String × String) (d : Db D) : Transaction D → Bool
  | .command c => c.identity == k && ranNow (c.answer d).1
  | .write _ => false

/-- How often a mutation ran under an identity. -/
def executions (k : String × String) : Db D → List (Transaction D) → Nat
  | _, [] => 0
  | d, t :: ts => (t.executes k d).toNat + executions k (t.after d) ts

/-! ## What one transaction keeps -/

/-- The installation is on this generation, and the ledger has this row. -/
structure Recalls (k : String × String) (row : CommandRow D) (d : Db D) : Prop where
  current : ∃ system, d.find .systemState () = some system ∧ system.restoreGeneration = k.1
  entry : d.find .commands k = some row

theorem transact_kept {A : Access TableName} {α : Type} (m : Write D A α) (d : Db D)
    {i : TableName} (hi : i ∉ A.updates) {k : Key D i} {r : Row D i} (h : d.find i k = some r) :
    (m.transact discardedFailure d).2.find i k = some r := by
  rcases Writer.transact_cases discardedFailure m d with ⟨e, he⟩ | ⟨a, d', ha, hc⟩
  · rw [he]
    exact h
  · rw [ha]
    exact hc.within.kept i hi k r h

theorem Transaction.after_kept (t : Transaction D) (d : Db D) {i : TableName}
    (hi : i = .commands ∨ i = .systemState) {k : Key D i} {r : Row D i}
    (h : d.find i k = some r) : (t.after d).find i k = some r := by
  have hclosure : ∀ m : Closure D, i ∉ m.access.updates := by
    intro m
    rcases hi with rfl | rfl
    · exact m.ledger_kept
    · exact m.identity_kept
  cases t with
  | write m => exact transact_kept m.body d (hclosure m) h
  | command c =>
    refine transact_kept _ d ?_ h
    simp only [journaled, List.mem_cons, not_or]
    refine ⟨?_, hclosure c.mutation⟩
    rcases hi with rfl | rfl <;> decide

variable {k : String × String} {row : CommandRow D} {d : Db D} {c : Call D}

theorem Recalls.after (h : Recalls k row d) (t : Transaction D) : Recalls k row (t.after d) := by
  obtain ⟨system, hsystem, hgeneration⟩ := h.current
  exact ⟨⟨system, t.after_kept d (.inr rfl) hsystem, hgeneration⟩,
    t.after_kept d (.inl rfl) h.entry⟩

/-- No call of the store forgets a command. -/
theorem Recalls.apply [DigestScheme D] (h : Recalls k row d) (op : StoreOp D) (ambient : Ambient) :
    Recalls k row (op.apply ambient d) := by
  cases op with
  | command identity mutation =>
    exact h.after (.command ⟨ambient, identity, mutation.closure ambient⟩)
  | write plain =>
    refine h.after (.write ⟨plain.body.access, plain.body.Result, plain.body.body ambient, ?_, ?_⟩)
    · cases plain <;> exact of_decide_eq_true rfl
    · cases plain <;> exact of_decide_eq_true rfl

/-! ## What a call answers -/

theorem fenceEpoch_commits {A : Access TableName} {epoch : String} {system : SystemState}
    (hsystem : d.find .systemState () = some system) (h : epoch = system.restoreGeneration) :
    (fenceEpoch epoch : Write D A Unit).Commits d () d := by
  simp only [fenceEpoch, fetch, find, Writer.commits_bind, Writer.commits_read,
    Writer.commits_require, Writer.commits_ensure]
  exact ⟨system, d, ⟨_, d, ⟨rfl, rfl⟩, hsystem, rfl⟩, h, rfl⟩

/-- An identity the ledger knows is answered from it: the mutation does not matter. -/
theorem Recalls.answer (h : Recalls c.identity row d) :
    c.answer d = if row.requestHash = c.command.requestHash
      then (.ok (.Replayed ⟨row.journalEpoch, row.sequence⟩ row.recordedAt), d)
      else (.error (.CommandConflict c.command.id), d) := by
  obtain ⟨system, hsystem, hgeneration⟩ := h.current
  have hfence : (fenceEpoch c.command.epoch : Write D (journaled c.mutation.access) Unit).Commits
      d () d := fenceEpoch_commits hsystem hgeneration.symm
  have hentry : (find .commands (c.command.epoch, c.command.id) :
      Write D (journaled c.mutation.access) _).Commits d (some row) d :=
    Writer.commits_read.mpr ⟨h.entry.symm, rfl⟩
  unfold Call.answer
  split
  · rename_i hhash
    refine Writer.transact_ok.mpr (Writer.then_of hfence ?_)
    refine Writer.then_of hentry ?_
    refine Writer.then_of (Writer.ensure_of hhash) ?_
    exact Writer.commits_pure.mpr ⟨rfl, rfl⟩
  · rename_i hhash
    refine Writer.Fails.transact (hfence.bind_fails (hentry.bind_fails ?_)) _
    exact Writer.Fails.bind (Writer.fails_ensure hhash)

/-- A command that executed is in the ledger, at the cursor it answered. -/
theorem executed_recalls {d' : Db D} {value : c.mutation.Result} {cursor : JournalCursor}
    (h : c.answer d = (.ok (.Executed value cursor), d')) :
    Recalls c.identity ⟨c.command.requestHash, cursor.epoch, cursor.sequence, c.ambient.recordedAt⟩
      d' := by
  have hcommits := Writer.transact_ok.mp h
  obtain ⟨_, d₀, hfence, -⟩ := Writer.commits_bind.mp hcommits
  obtain ⟨system, hsystem, hepoch⟩ := fetch_then hfence
  obtain ⟨hgeneration, -⟩ := Writer.commits_ensure.mp hepoch
  have hkept := transact_kept (execute c.ambient c.command c.mutation.body) d (i := .systemState)
    (by simp [journaled, c.mutation.identity_kept]) hsystem
  refine ⟨⟨system, ?_, hgeneration.symm⟩, ?_⟩
  · rw [← show (c.answer d).2 = d' from congrArg Prod.snd h]
    exact hkept
  · rcases commits_execute hcommits with ⟨_, -, -, hreplay, -⟩ | ⟨-, _, _, d₁, hexecuted, -, hrecorded⟩
    · cases hreplay
    · obtain ⟨-, rfl⟩ := Committed.Executed.inj hexecuted
      rw [hrecorded.ledger]
      exact if_pos rfl

/-- A command that was answered is in the ledger, and every later answer to it is the same. -/
theorem answered_recalls {d' : Db D} {committed : Committed c.mutation.Result}
    (h : c.answer d = (.ok committed, d')) :
    ∃ row, Recalls c.identity row d' ∧ row.requestHash = c.command.requestHash ∧
      committed.cursor = ⟨row.journalEpoch, row.sequence⟩ := by
  cases committed with
  | Executed value cursor => exact ⟨_, executed_recalls h, rfl, rfl⟩
  | Replayed cursor recordedAt =>
    have hcommits := Writer.transact_ok.mp h
    obtain ⟨_, _, hfence, -⟩ := Writer.commits_bind.mp hcommits
    obtain ⟨system, hsystem, hepoch⟩ := fetch_then hfence
    obtain ⟨hgeneration, -⟩ := Writer.commits_ensure.mp hepoch
    rcases commits_execute hcommits with ⟨row, hrow, hhash, hsame, rfl⟩ | ⟨-, _, _, _, hsame, -⟩
    · obtain ⟨rfl, -⟩ := Committed.Replayed.inj hsame
      exact ⟨row, ⟨⟨system, hsystem, hgeneration.symm⟩, hrow⟩, hhash, rfl⟩
    · cases hsame

/-- The same for calls of the store. -/
theorem command_recalls [DigestScheme D] {identity : Command D} {m : Mutation D} {ambient : Ambient}
    {committed : Committed m.body.Result}
    (h : ((StoreOp.command identity m).answer ambient d).1 = .ok committed) :
    ∃ row, Recalls (identity.epoch, identity.id) row
        ((StoreOp.command identity m).apply ambient d) ∧
      row.requestHash = identity.requestHash ∧
      committed.cursor = ⟨row.journalEpoch, row.sequence⟩ :=
  answered_recalls (c := ⟨ambient, identity, m.closure ambient⟩) (Prod.ext h rfl)

theorem Recalls.replays [DigestScheme D] {identity : Command D}
    (h : Recalls (identity.epoch, identity.id) row d)
    (hhash : row.requestHash = identity.requestHash) (m : Mutation D) (ambient : Ambient) :
    (StoreOp.command identity m).answer ambient d =
      (.ok (.Replayed ⟨row.journalEpoch, row.sequence⟩ row.recordedAt), d) :=
  (Recalls.answer (c := ⟨ambient, identity, m.closure ambient⟩) h).trans (if_pos hhash)

theorem Recalls.executes (h : Recalls k row d) (t : Transaction D) : t.executes k d = false := by
  cases t with
  | write m => rfl
  | command c =>
    by_cases hk : c.identity = k
    · subst hk
      rw [Transaction.executes, h.answer]
      split <;> simp [ranNow]
    · simp [Transaction.executes, hk]

theorem Recalls.executions (h : Recalls k row d) (ts : List (Transaction D)) :
    executions k d ts = 0 := by
  induction ts generalizing d with
  | nil => rfl
  | cons t ts ih =>
    rw [Pantheon.executions, h.executes t, ih (h.after t)]
    rfl

end Pantheon
