/-
  Passes of the Run Controller as a machine, among other calls of the store.
  A crash ends a pass in flight and loses the process memory.
-/
import Pantheon.Engine.Run
import Pantheon.Store.Attempts

namespace Pantheon

open Interleave Relational RunControl

variable {D : Type} [DecidableEq D] [DigestScheme D]

/-! ## Passes among other calls -/

abbrev RunConfig (D : Type) [DecidableEq D] [DigestScheme D] : Type 1 :=
  Config (Engine D) (Label D) (Port D) (Except RunControllerError RunOutcome)

abbrev RunEvent (D : Type) [DecidableEq D] [DigestScheme D] : Type 1 :=
  Event (Engine D) (Label D) (Port D) (Except RunControllerError RunOutcome)

/-- Passes of a Run Controller with a recovery policy, among calls of the store that meet
    `others`. A crash loses the process memory. -/
def runMachine (policy : MinRecoveryPolicy) (others : StoreOp D → Prop) :
    Machine (Engine D) (Label D) (Port D) (Except RunControllerError RunOutcome) where
  starts p := ∃ incarnation runId, p = (reconcileRun incarnation policy runId).run
  env s s' := ∃ op ambient, others op ∧ s' = { s with db := op.apply ambient s.db }
  onCrash s := { s with bearers := [] }
  hear := Engine.hear

/-- A new installation, and a process that has just started. -/
def FreshEngine (s : Engine D) : Prop := Installed s.db ∧ s.bearers = [] ∧ s.heard = []

/-- Calls of the store, made by others, are a run. -/
theorem reach_runAll {policy : MinRecoveryPolicy} {others : StoreOp D → Prop}
    {init : Engine D → Prop} {cond : RunConfig D → RunEvent D → Prop}
    (hcond : ∀ c s, cond c (.env s)) {d d' : Db D} {bearers : List (String × BearerState)}
    {heard : List (Heard D)} {past : List (Engine D)}
    {pool : List (Act D (Except RunControllerError RunOutcome))}
    {calls : List (Ambient × StoreOp D)} (hcalls : ∀ call ∈ calls, others call.2)
    (hrun : runAll d calls = some d')
    (h : Reach (runMachine policy others) cond init ⟨⟨d, bearers, heard⟩, past, pool⟩) :
    ∃ past', Reach (runMachine policy others) cond init ⟨⟨d', bearers, heard⟩, past', pool⟩ := by
  induction calls generalizing d past with
  | nil =>
    obtain rfl := Option.some.inj hrun
    exact ⟨past, h⟩
  | cons call calls ih =>
    obtain ⟨ambient, op⟩ := call
    have hop : others op := hcalls _ List.mem_cons_self
    exact ih (fun c hc => hcalls c (List.mem_cons_of_mem _ hc)) (runAll_cons hrun).2
      (h.step (.env _ ⟨op, ambient, hop, rfl⟩) (hcond _ _))

namespace Sample

/-- A verification in which everything was verified. -/
def verified : SandboxVerification :=
  ⟨true, true, true, true, true, true, true, true, true, true, true, true, true, true, true, true,
    true, [], "d", "1", "p", "a", "1"⟩

/-- Ports whose backend answers one observation. The clock and the draws of entropy differ
    from call to call, and from one `start` to another. -/
def answers (observed : Observation) (start n : Nat) : ∀ β, Port PrefixDigest β → β
  | _, .ambient => ambient (Char.ofNat (start + n))
  | _, .randomBytes => .ok ⟨List.replicate 32 (UInt8.ofNat (start + n)), by simp⟩
  | _, .launchSemantics => .KeyedIdempotent
  | _, .backendId => "backend"
  | _, .ensureExecution _ => .ok observed
  | _, .inspectExecution _ => .ok observed
  | _, .ensureSandbox _ _ => .ok .Present
  | _, .verifySandbox _ _ => .ok verified

end Sample

end Pantheon
