/-
  Controllers over the store and a state of their own.
  A `Routine` is a program whose shared state is the store with what the controller's process
  keeps (`own`): each store call is one transaction, labelled by its operation; what it draws
  from outside is asked for just before. The rules at the end say what a routine by itself
  does, step by step, and what it answers where it only computes.
-/
import Pantheon.Base.Program
import Pantheon.Store.Machine

namespace Pantheon

open Interleave

/-- The store, and what a process keeps beside it. -/
structure Site (D E : Type) [DecidableEq D] where
  db : Db D
  own : E

/-- Ports that answer what a transaction draws from outside. -/
class Surrounded (C : Type → Type) where
  ambient : C Ambient

/-- What a step of a routine is: a call of the store, a read of it, or a step on the
    process's own state. -/
inductive SiteLabel (D : Type) [DigestScheme D] (L : Type) where
  | call (ambient : Ambient) (op : StoreOp D)
  | read
  | own (l : L)

abbrev Routine (D E L : Type) (C : Type → Type) [DecidableEq D] [DigestScheme D] :
    Type → Type 1 :=
  Prog (Site D E) (SiteLabel D L) C

/-- A routine that may fail. -/
abbrev Fallible (ε D E L : Type) (C : Type → Type) [DecidableEq D] [DigestScheme D] :
    Type → Type 1 :=
  ExceptT ε (Routine D E L C)

namespace Routine

variable {D E L : Type} {C : Type → Type} [DecidableEq D] [DigestScheme D] {α ε δ : Type}

/-- One call of the store, with what it draws from outside. -/
def performWith (ambient : Ambient) (op : StoreOp D) :
    Routine D E L C (Except StoreError op.Answer) :=
  Prog.atomically (.call ambient op) fun s =>
    ((op.answer ambient s.db).1, { s with db := (op.answer ambient s.db).2 })

/-- One call of the store. -/
def perform [Surrounded C] (op : StoreOp D) : Routine D E L C (Except StoreError op.Answer) := do
  let ambient ← Prog.ask Surrounded.ambient
  performWith ambient op

/-- One read of the store. -/
def readStore (f : Db D → α) : Routine D E L C α := Prog.atomically .read fun s => (f s.db, s)

/-- One step on the process's own state. -/
def ownStep (l : L) (t : E → α × E) : Routine D E L C α :=
  Prog.atomically (.own l) fun s => ((t s.own).1, { s with own := (t s.own).2 })

/-- The answer of a step that may fail, with its error converted. -/
def tryAs (convert : δ → ε) (p : Routine D E L C (Except δ α)) : Fallible ε D E L C α :=
  ExceptT.mk (p >>= fun answer => pure (answer.mapError convert))

/-- An infallible step. -/
def always (p : Routine D E L C α) : Fallible ε D E L C α := ExceptT.lift p

/-- A missing value is an error. -/
def orElse (e : ε) : Option α → Fallible ε D E L C α
  | some a => pure a
  | none => throw e

/-- A computed value or its error. -/
def ofExcept : Except ε α → Fallible ε D E L C α
  | .ok a => pure a
  | .error e => throw e

theorem bind_assoc {γ : Type} (x : Fallible ε D E L C α) (f : α → Fallible ε D E L C β)
    (g : β → Fallible ε D E L C γ) : ((x >>= f) >>= g) = (x >>= fun a => f a >>= g) := by
  refine (Prog.bind_assoc x.run (ExceptT.bindCont f) (ExceptT.bindCont g)).trans ?_
  refine congrArg (x.run >>= ·) (funext fun r => ?_)
  cases r with
  | ok a => rfl
  | error e => rfl

end Routine

/-! ## What a routine by itself does -/

/-- A routine runs to its answer, with answers that the world may give. Nothing is recorded
    of its calls. -/
def Site.Runs {D E L : Type} {C : Type → Type} [DecidableEq D] [DigestScheme D] {α : Type}
    (world : Site D E → ∀ {β : Type}, C β → β → Prop) (p : Routine D E L C α) (s : Site D E)
    (a : α) (s' : Site D E) : Prop :=
  p.Runs (fun _ _ s => s) @world s a s'

namespace Site

variable {D E L : Type} {C : Type → Type} [DecidableEq D] [DigestScheme D] {α β ε δ : Type}
  {world : Site D E → ∀ {β : Type}, C β → β → Prop} {s s' : Site D E}

theorem runs_pure {a : α} {r : Except ε α} :
    Runs @world (pure a : Fallible ε D E L C α).run s r s' ↔ r = .ok a ∧ s' = s := runs_ret

theorem runs_seq {x : Fallible ε D E L C α} {f : α → Fallible ε D E L C β} {r : Except ε β} :
    Runs @world (x >>= f).run s r s' ↔
      (∃ a s₁, Runs @world x.run s (.ok a) s₁ ∧ Runs @world (f a).run s₁ r s') ∨
        ∃ e, Runs @world x.run s (.error e) s' ∧ r = .error e := runs_andThen

theorem runs_tryAs {convert : δ → ε} {p : Routine D E L C (Except δ α)} {r : Except ε α} :
    Runs @world (Routine.tryAs convert p).run s r s' ↔
      ∃ answer, Runs @world p s answer s' ∧ r = answer.mapError convert := by
  refine Iff.trans runs_bind ⟨?_, ?_⟩
  · rintro ⟨answer, s₁, hp, hret⟩
    obtain ⟨rfl, rfl⟩ := runs_ret.mp hret
    exact ⟨answer, hp, rfl⟩
  · rintro ⟨answer, hp, rfl⟩
    exact ⟨answer, s', hp, .ret⟩

theorem runs_always {p : Routine D E L C α} {r : Except ε α} :
    Runs @world (Routine.always p : Fallible ε D E L C α).run s r s' ↔
      ∃ a, Runs @world p s a s' ∧ r = .ok a := by
  refine Iff.trans runs_bind ⟨?_, ?_⟩
  · rintro ⟨a, s₁, hp, hret⟩
    obtain ⟨rfl, rfl⟩ := runs_ret.mp hret
    exact ⟨a, hp, rfl⟩
  · rintro ⟨a, hp, rfl⟩
    exact ⟨a, s', hp, .ret⟩

theorem runs_orElse {e : ε} {o : Option α} {r : Except ε α} :
    Runs @world (Routine.orElse e o : Fallible ε D E L C α).run s r s' ↔
      r = (match o with | some a => .ok a | none => .error e) ∧ s' = s := by
  cases o with
  | some a => exact runs_ret
  | none => exact runs_ret

theorem runs_ofExcept {x r : Except ε α} :
    Runs @world (Routine.ofExcept x : Fallible ε D E L C α).run s r s' ↔ r = x ∧ s' = s := by
  cases x with
  | ok a => exact runs_ret
  | error e => exact runs_ret

theorem runs_readStore {f : Db D → α} {a : α} :
    Runs @world (Routine.readStore f : Routine D E L C α) s a s' ↔ a = f s.db ∧ s' = s :=
  Iff.trans runs_tx runs_ret

theorem runs_ownStep {l : L} {t : E → α × E} {a : α} :
    Runs @world (Routine.ownStep l t : Routine D E L C α) s a s' ↔
      a = (t s.own).1 ∧ s' = { s with own := (t s.own).2 } :=
  Iff.trans runs_tx runs_ret

theorem runs_ask {c : C α} {a : α} :
    Runs @world (Prog.ask c : Routine D E L C α) s a s' ↔ world s c a ∧ s' = s := by
  refine Iff.trans runs_call ⟨?_, ?_⟩
  · rintro ⟨b, hb, hret⟩
    obtain ⟨rfl, rfl⟩ := runs_ret.mp hret
    exact ⟨hb, rfl⟩
  · rintro ⟨ha, rfl⟩
    exact ⟨a, ha, .ret⟩

/-! ## Routines that compute -/

/-- By itself, a routine answers `e` and changes nothing. -/
def Computes (world : Site D E → ∀ {β : Type}, C β → β → Prop) (x : Fallible ε D E L C α)
    (s : Site D E) (e : Except ε α) : Prop :=
  ∀ r s', Runs @world x.run s r s' ↔ r = e ∧ s' = s

namespace Computes

theorem pure {a : α} : Computes @world (Pure.pure a : Fallible ε D E L C α) s (.ok a) :=
  fun _ _ => runs_pure

theorem ofExcept {x : Except ε α} :
    Computes @world (Routine.ofExcept x : Fallible ε D E L C α) s x := fun _ _ => runs_ofExcept

theorem orElse {e : ε} {o : Option α} :
    Computes @world (Routine.orElse e o : Fallible ε D E L C α) s
      (match o with | some a => .ok a | none => .error e) := fun _ _ => runs_orElse

theorem andThen {x : Fallible ε D E L C α} {f : α → Fallible ε D E L C β} {e : Except ε α}
    {g : α → Except ε β} (hx : Computes @world x s e)
    (hf : ∀ a, e = .ok a → Computes @world (f a) s (g a)) :
    Computes @world (x >>= f) s (e >>= g) := by
  intro r s'
  rw [runs_seq]
  simp only [hx _ _]
  cases e with
  | ok a =>
    constructor
    · rintro (⟨_, _, ⟨heq, rfl⟩, hrun⟩ | ⟨_, ⟨heq, -⟩, -⟩)
      · obtain rfl := Except.ok.inj heq
        exact (hf _ rfl _ _).mp hrun
      · cases heq
    · exact fun h => .inl ⟨a, s, ⟨rfl, rfl⟩, (hf a rfl _ _).mpr h⟩
  | error e =>
    constructor
    · rintro (⟨_, _, ⟨heq, -⟩, -⟩ | ⟨_, ⟨heq, rfl⟩, rfl⟩)
      · cases heq
      · exact ⟨congrArg _ (Except.error.inj heq), rfl⟩
    · exact fun h => .inr ⟨e, ⟨rfl, h.2⟩, h.1⟩

/-- The rest goes on with what the first part answers. -/
theorem thenOk {x : Fallible ε D E L C α} {f : α → Fallible ε D E L C β} {a : α} {e : Except ε β}
    (hx : Computes @world x s (.ok a)) (hf : Computes @world (f a) s e) :
    Computes @world (x >>= f) s e :=
  hx.andThen (g := fun _ => e) fun _ ha => Except.ok.inj ha ▸ hf

/-- A failure of the first part is the answer. -/
theorem thenError {x : Fallible ε D E L C α} {f : α → Fallible ε D E L C β} {e : ε}
    (hx : Computes @world x s (.error e)) : Computes @world (x >>= f) s (.error e) :=
  hx.andThen (g := fun _ => .error e) nofun

/-- A step with one answer. -/
theorem always {p : Routine D E L C α} {a : α} (hp : ∀ b s', Runs @world p s b s' ↔ b = a ∧ s' = s) :
    Computes @world (Routine.always p : Fallible ε D E L C α) s (.ok a) := by
  intro r s'
  rw [runs_always]
  simp only [hp]
  constructor
  · rintro ⟨_, ⟨rfl, rfl⟩, rfl⟩
    exact ⟨rfl, rfl⟩
  · rintro ⟨rfl, rfl⟩
    exact ⟨a, ⟨rfl, rfl⟩, rfl⟩

/-- A step with one answer, which may be a failure. -/
theorem tryAs {convert : δ → ε} {p : Routine D E L C (Except δ α)} {x : Except δ α}
    (hp : ∀ b s', Runs @world p s b s' ↔ b = x ∧ s' = s) :
    Computes @world (Routine.tryAs convert p) s (x.mapError convert) := by
  intro r s'
  rw [runs_tryAs]
  simp only [hp]
  constructor
  · rintro ⟨_, ⟨rfl, rfl⟩, rfl⟩
    exact ⟨rfl, rfl⟩
  · rintro ⟨rfl, rfl⟩
    exact ⟨x, ⟨rfl, rfl⟩, rfl⟩

/-- A call with one answer. -/
theorem ask {c : C α} {a : α} (hc : ∀ b, world s c b ↔ b = a) :
    Computes @world (Routine.always (Prog.ask c) : Fallible ε D E L C α) s (.ok a) :=
  always fun b _ => runs_ask.trans (and_congr_left' (hc b))

/-- A call with one answer, which may be a failure. -/
theorem tryAsk {c : C (Except δ α)} {convert : δ → ε} {answer : Except δ α}
    (hc : ∀ b, world s c b ↔ b = answer) :
    Computes @world (Routine.tryAs convert (Prog.ask c) : Fallible ε D E L C α) s
      (answer.mapError convert) :=
  tryAs fun b _ => runs_ask.trans (and_congr_left' (hc b))

theorem readStore {f : Db D → α} : Computes @world
    (Routine.always (Routine.readStore f) : Fallible ε D E L C α) s (.ok (f s.db)) :=
  always fun _ _ => runs_readStore

/-- A read that may fail. -/
theorem tryRead {f : Db D → Except δ α} {convert : δ → ε} : Computes @world
    (Routine.tryAs convert (Routine.readStore f) : Fallible ε D E L C α) s
      ((f s.db).mapError convert) :=
  tryAs fun _ _ => runs_readStore

/-- A look at the process's own state. -/
theorem ownRead {l : L} {f : E → Except δ α} {convert : δ → ε} : Computes @world
    (Routine.tryAs convert (Routine.ownStep l fun own => (f own, own)) : Fallible ε D E L C α) s
      ((f s.own).mapError convert) :=
  tryAs fun _ _ => runs_ownStep

end Computes

end Site

end Pantheon
