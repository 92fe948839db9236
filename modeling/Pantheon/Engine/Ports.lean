/-
  What a controller of the engine is made of: transactions of the store, memory of its own
  process, and calls to the ports behind which the outside world stands.
  A controller is a `Control` program. Each store call is one transaction, labelled by the
  operation it performs; what a transaction draws from outside (the clock, random event
  identities) is answered by the `ambient` port just before it. A port answers anything. What
  the launcher was asked and what it answered is on record in the shared state.
-/
import Pantheon.Base.Program
import Pantheon.Execution.Routing
import Pantheon.Execution.Sandbox
import Pantheon.Store.Machine

namespace Pantheon

open Interleave

variable {D : Type} [DecidableEq D] [DigestScheme D]

/-! ## Credentials -/

/-- Thirty-two bytes, the size every draw of entropy has. -/
abbrev Bytes32 : Type := { bytes : List UInt8 // bytes.length = 32 }

/-- The raw credential of an Attempt: lowercase hexadecimal text. -/
structure Bearer where
  text : String
  deriving Repr, DecidableEq

/-- The text `Bearer::generate` makes of its draw. -/
def Bearer.ofBytes (bytes : Bytes32) : Bearer := ⟨String.ofList (toHex bytes.1)⟩

/-- `Bearer::verifier`. -/
def Bearer.verifier (b : Bearer) : D := DigestScheme.ofBytes (utf8 b.text)

structure BearerState where
  bearer : Bearer
  credentialRevision : Int
  deriving Repr, DecidableEq

/-! ## Ports -/

structure LaunchPackage (D : Type) where
  launchKey : String
  runId : String
  attemptId : String
  credential : Bearer
  contextPlanDigest : D
  deriving Repr, DecidableEq

/-- Calls out of the process, with the type of their answers. A failed call answers with the
    text of its failure. -/
inductive Port (D : Type) : Type → Type where
  | ambient : Port D Ambient
  | randomBytes : Port D (Except String Bytes32)
  | launchSemantics : Port D LaunchSemantics
  | backendId : Port D String
  | ensureExecution (package : LaunchPackage D) : Port D (Except String Observation)
  | inspectExecution (launchKey : String) : Port D (Except String Observation)
  | ensureSandbox (key : SandboxKey) (plan : SandboxPlan D) : Port D (Except String Presence)
  | verifySandbox (key : SandboxKey) (plan : SandboxPlan D) :
    Port D (Except String SandboxVerification)

/-! ## Programs -/

/-- What the launcher is asked. -/
inductive LauncherCall (D : Type) where
  | ensure (package : LaunchPackage D)
  | inspect (launchKey : String)
  deriving Repr, DecidableEq

/-- A call to the launcher, with its answer and the store at the time. -/
structure Heard (D : Type) [DecidableEq D] where
  db : Db D
  asked : LauncherCall D
  answer : Except String Observation

/-- The store, what the Run Controller's process holds in memory, and the record of every
    call to the launcher (newest first), which no part of the program reads. -/
structure Engine (D : Type) [DecidableEq D] where
  db : Db D
  bearers : List (String × BearerState)
  heard : List (Heard D)

/-- The record of a call and its answer. -/
def Engine.hear {β : Type} (c : Port D β) (b : β) (s : Engine D) : Engine D :=
  match c, b with
  | .ensureExecution package, answer =>
    { s with heard := ⟨s.db, .ensure package, answer⟩ :: s.heard }
  | .inspectExecution launchKey, answer =>
    { s with heard := ⟨s.db, .inspect launchKey, answer⟩ :: s.heard }
  | _, _ => s

/-- The calls that go to the launcher. -/
def Port.reachesLauncher {β : Type} : Port D β → Bool
  | .ensureExecution _ => true
  | .inspectExecution _ => true
  | _ => false

omit [DigestScheme D] in
@[simp] theorem Engine.hear_db {β : Type} (c : Port D β) (b : β) (s : Engine D) :
    (Engine.hear c b s).db = s.db := by
  cases c <;> rfl

omit [DigestScheme D] in
theorem Engine.hear_aside {β : Type} {c : Port D β} (h : c.reachesLauncher = false) (b : β)
    (s : Engine D) : Engine.hear c b s = s := by
  cases c <;> first | rfl | cases h

/-- What a step on the shared state is: a call of the store, a read of it, or memory. The
    read that the recovery decision concludes a Run from has a label of its own. -/
inductive Label (D : Type) [DigestScheme D] where
  | call (ambient : Ambient) (op : StoreOp D)
  | read
  | recoveryView (runId : String)
  | memory

abbrev Act (D : Type) [DecidableEq D] [DigestScheme D] : Type → Type 1 :=
  Prog (Engine D) (Label D) (Port D)

/-- A controller operation that may fail. -/
abbrev Control (ε : Type) (D : Type) [DecidableEq D] [DigestScheme D] : Type → Type 1 :=
  ExceptT ε (Act D)

/-- One call of the store. -/
def perform (op : StoreOp D) : Act D (Except StoreError op.Answer) := do
  let ambient ← Prog.ask .ambient
  Prog.atomically (.call ambient op) fun s =>
    ((op.answer ambient s.db).1, { s with db := (op.answer ambient s.db).2 })

/-- One read of the store. -/
def readStore {α : Type} (f : Db D → α) : Act D α := Prog.atomically .read fun s => (f s.db, s)

namespace Control

variable {ε : Type} {α : Type}

/-- The answer of a step that may fail, with its error converted. -/
def lift {δ : Type} (convert : δ → ε) (p : Act D (Except δ α)) : Control ε D α :=
  ExceptT.mk (p >>= fun answer => pure (answer.mapError convert))

/-- An infallible step. -/
def step (p : Act D α) : Control ε D α := ExceptT.lift p

/-- A missing value is an error. -/
def orElse (e : ε) : Option α → Control ε D α
  | some a => pure a
  | none => throw e

/-- A computed value or its error. -/
def ofExcept : Except ε α → Control ε D α
  | .ok a => pure a
  | .error e => throw e

end Control

/-! ## The actions of a program -/

variable {op : StoreOp D}

section Each

variable {P : Conduct (Engine D) (Label D) (Port D)} {ε : Type} {α : Type}

theorem each_perform (hambient : P.call (.ambient : Port D Ambient))
    (h : ∀ ambient, P.tx (.call ambient op) fun s => { s with db   := op.apply ambient s.db }) :
    (perform op).Each P :=
  ⟨hambient, fun ambient => ⟨h ambient, fun _ => trivial⟩⟩

theorem each_readStore {f : Db D → α} (h : P.tx .read id) : (readStore f).Each P :=
  ⟨h, fun _ => trivial⟩

theorem each_ask {c : Port D α} (h : P.call c) : (Prog.ask c : Act D α).Each P :=
  ⟨h, fun _ => trivial⟩

theorem each_lift {δ : Type} {convert : δ → ε} {p : Act D (Except δ α)} (h : p.Each P) :
    (Control.lift convert p : Control ε D α).run.Each P := h.bind fun _ => trivial

theorem each_step {p : Act D α} (h : p.Each P) : (Control.step p : Control ε D α).run.Each P :=
  h.bind fun _ => trivial

theorem each_orElse (e : ε) (o : Option α) : (Control.orElse e o : Control ε D α).run.Each P := by
  cases o <;> trivial

theorem each_ofExcept (r : Except ε α) : (Control.ofExcept r : Control ε D α).run.Each P := by
  cases r <;> trivial

end Each

/-! ## Programs that rest on an invariant -/

section Keeps

variable {H : Custom (Engine D) (Label D) (Port D)} {ε δ α : Type} {Q : α → Prop}

theorem keeps_call {Q : Except StoreError op.Answer → Prop}
    (hambient : ∀ (ambient : Ambient) s, H.inv s → H.inv (H.hear .ambient ambient s))
    (h : ∀ ambient s, H.inv s → H.allow s (.call ambient op) →
      H.inv { s with db   := op.apply ambient s.db } ∧ Q (op.answer ambient s.db).1) :
    (perform op).Keeps H Q :=
  fun s hs ambient _ => ⟨hambient ambient s hs, h ambient⟩

theorem keeps_readStore {f : Db D → α} (h : ∀ s, H.inv s → Q (f s.db)) :
    (readStore f).Keeps H Q :=
  fun s hs _ => ⟨hs, h s hs⟩

theorem keeps_lift {convert : δ → ε} {p : Act D (Except δ α)}
    (h : p.Keeps H fun r => ∀ a, r = .ok a → Q a) : Prog.KeepsOk H Q (Control.lift convert p) := by
  refine Prog.Keeps.bind h fun r hr => ?_
  cases r with
  | ok a => exact fun b hb => hr b (congrArg _ (Except.ok.inj hb))
  | error e => exact fun b hb => by cases hb

theorem keeps_step {p : Act D α} (h : p.Keeps H Q) :
    Prog.KeepsOk H Q (Control.step p : Control ε D α) :=
  Prog.Keeps.bind h fun _ ha _ hb => Except.ok.inj hb ▸ ha

theorem keeps_throw {e : ε} : Prog.KeepsOk H Q (throw e : Control ε D α) :=
  fun a ha => by cases ha

theorem keeps_orElse {e : ε} {o : Option α} (h : ∀ a, o = some a → Q a) :
    Prog.KeepsOk H Q (Control.orElse e o : Control ε D α) := by
  cases o with
  | none => exact keeps_throw
  | some a => exact fun b hb => Except.ok.inj hb ▸ h a rfl

end Keeps

/-! ## Steps beside the lineage of Runs -/

/-- Run statuses, Attempts and Attempt statuses are the same. -/
structure SameLineage (d d' : Db D) : Prop where
  runStatus : d'.table .runStatus = d.table .runStatus
  attempts : d'.table .attempts = d.table .attempts
  attemptStatus : d'.table .attemptStatus = d.table .attemptStatus

omit [DigestScheme D] in
theorem SameLineage.refl (d : Db D) : SameLineage d d := ⟨rfl, rfl, rfl⟩

/-- An operation that writes none of these tables. -/
def StoreOp.isAside (op : StoreOp D) : Bool :=
  !op.body.touches .runStatus && !op.body.touches .attempts && !op.body.touches .attemptStatus

theorem apply_aside (h : op.isAside = true) (ambient : Ambient) (d : Db D) :
    SameLineage d (op.apply ambient d) := by
  simp only [StoreOp.isAside, Bool.and_eq_true, Bool.not_eq_true'] at h
  rcases apply_cases op ambient d with hsame | ⟨r, hran⟩
  · rw [hsame]
    exact .refl d
  · exact ⟨hran.same _ (by decide) h.1.1, hran.same _ (by decide) h.1.2,
      hran.same _ (by decide) h.2⟩

/-- Transactions that leave the lineage of Runs alone. -/
def Aside : Conduct (Engine D) (Label D) (Port D) where
  tx _ e := ∀ s, SameLineage s.db (e s).db
  call _ := True

/-- What preparing a Run consists of: store calls beside the lineage of Runs and their
    sessions, reads of the store, and calls to ports other than the launcher. -/
def Preparing : Conduct (Engine D) (Label D) (Port D) where
  tx
    | .call ambient op, e => op.isAside = true ∧ op.body.touches .agentControlSessions = false ∧
        e = fun s => { s with db := op.apply ambient s.db }
    | .read, e => e = id
    | _, _ => False
  call c := c.reachesLauncher = false

theorem preparing_same {l : Label D} {e : Engine D → Engine D} (he : Preparing.tx l e)
    (s : Engine D) : SameLineage s.db (e s).db ∧ (e s).heard = s.heard := by
  cases l with
  | call ambient op =>
    obtain ⟨hop, -, rfl⟩ := he
    exact ⟨apply_aside hop ambient s.db, rfl⟩
  | read =>
    obtain rfl := he
    exact ⟨.refl s.db, rfl⟩
  | recoveryView runId => exact he.elim
  | memory => exact he.elim

theorem prepares_aside {α : Type} {p : Act D α} (h : p.Each Preparing) : p.Each Aside :=
  h.mono (fun _ _ he s => (preparing_same he s).1) fun _ _ => trivial

/-- Reads of the store, and calls to ports other than the launcher. -/
def Looking : Conduct (Engine D) (Label D) (Port D) where
  tx l e := l = .read ∧ e = id
  call c := c.reachesLauncher = false

theorem readStore_looks {α : Type} (f : Db D → α) : (readStore f).Each Looking :=
  each_readStore ⟨rfl, rfl⟩

theorem looks_prepares {α : Type} {p : Act D α} (h : p.Each Looking) : p.Each Preparing := by
  refine h.mono (fun l e he => ?_) fun c hc => ?_
  · obtain ⟨rfl, rfl⟩ := he
    exact rfl
  · exact hc

theorem perform_prepares (h : op.isAside = true)
    (hsessions : op.body.touches .agentControlSessions = false) : (perform op).Each Preparing :=
  each_perform rfl fun _ => ⟨h, hsessions, rfl⟩

theorem readStore_prepares {α : Type} (f : Db D → α) : (readStore f).Each Preparing :=
  looks_prepares (readStore_looks f)

end Pantheon
