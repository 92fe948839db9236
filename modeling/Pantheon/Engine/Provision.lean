/-
  Provisioning among other calls.
  `provision_ready`: a Sandbox that a call answers with is Ready, was created for the plan of
  the call and was verified against a plan of that digest, where every call for a Run has the
  same plan. A call does not compare the Sandbox that is already current with its own plan, so
  without that it answers with another plan's Sandbox (`provision_other_plan`).
-/
import Pantheon.Engine.Passes
import Pantheon.Engine.Sandbox
import Pantheon.Store.SandboxMoves

namespace Pantheon

open Interleave Relational

variable {D : Type} [DecidableEq D] [DigestScheme D]

/-! ## Calls among others -/

/-- A call of `provision`, whose answer says what it was called with. -/
def provisionCall (command : Command D) (runId : String) (plan : SandboxPlan D) :
    Act D (String × SandboxPlan D × Except SandboxControllerError (SandboxRecord D)) :=
  (provision command runId plan).run >>= fun answer => pure (runId, plan, answer)

/-- The calls of the store that only the Sandbox Controller makes. -/
def StoreOp.provisions : StoreOp D → Bool
  | .command _ (.createSandbox _ _) => true
  | .command _ (.completeSandboxPreparation _ _) => true
  | _ => false

/-- Calls of `provision` with admitted plans, any number at a time, among other calls of the
    store. A crash loses the process memory. -/
def provisionMachine (admits : String → SandboxPlan D → Prop) :
    Machine (Engine D) (Label D) (Port D)
      (String × SandboxPlan D × Except SandboxControllerError (SandboxRecord D)) where
  starts p := ∃ command runId plan, admits runId plan ∧ p = provisionCall command runId plan
  env s s' := ∃ (op : StoreOp D) (ambient : Ambient),
    op.provisions = false ∧ s' = { s with db := op.apply ambient s.db }
  onCrash s := { s with bearers := [] }
  hear := Engine.hear

abbrev ProvisionConfig (D : Type) [DecidableEq D] [DigestScheme D] : Type 1 :=
  Config (Engine D) (Label D) (Port D)
    (String × SandboxPlan D × Except SandboxControllerError (SandboxRecord D))

abbrev ProvisionEvent (D : Type) [DecidableEq D] [DigestScheme D] : Type 1 :=
  Event (Engine D) (Label D) (Port D)
    (String × SandboxPlan D × Except SandboxControllerError (SandboxRecord D))

/-- What an answer of the backend verified: the Sandbox, and the digest of the plan. -/
def passed {β : Type} : Port D β → β → Option (String × D)
  | .verifySandbox key plan, .ok verification =>
    if verification.allPassed then some (key.text, plan.digest) else none
  | _, _ => none

/-- Whatever the backend verified is in `verified`. -/
def InVerified (verified : String → D → Prop) (_ : ProvisionConfig D) : ProvisionEvent D → Prop
  | .call port answer => ∀ id digest, passed port answer = some (id, digest) → verified id digest
  | _ => True

/-- The completion of a preparation finds its derived command identity unused. -/
def Label.completesAfresh (s : Engine D) : Label D → Prop
  | .call _ (.command identity (.completeSandboxPreparation _ _)) =>
    s.db.find .commands (identity.epoch, identity.id) = none
  | _ => True

def CompletesAfresh (c : ProvisionConfig D) : ProvisionEvent D → Prop
  | .tx l _ => l.completesAfresh c.shared
  | _ => True

/-! ## The invariant -/

theorem sandboxId_injective {a b : String} (h : s!"sandbox-{a}" = s!"sandbox-{b}") : a = b := by
  simpa [String.ext_iff, toString] using h

variable {op : StoreOp D} {d : Db D} {runId : String} {record : SandboxRecord D}
  {command : Command D} {key : SandboxKey} {plan : SandboxPlan D}

section Invariant

variable (may : String → D → String → Prop) (verified : String → D → Prop) (strict : Prop)

/-- A stored Sandbox is for a plan its Run may have, and a Ready one was verified. -/
structure Provided (id : String) (row : SandboxInstance D) : Prop where
  key : id = s!"sandbox-{row.runId}"
  plan : may row.runId row.sandboxPlanDigest row.environmentIdentity
  ready : row.phase = .Ready → verified id row.sandboxPlanDigest

/-- Every stored Sandbox does. -/
def AllProvided (d : Db D) : Prop :=
  ∀ id row, d.find .sandboxInstances id = some row → Provided may verified id row

/-- A call of the store that creates only for such a plan, and completes only what was
    verified. -/
structure Provides (d : Db D) (op : StoreOp D) : Prop where
  creates : ∀ identity id binding, op = .command identity (.createSandbox id binding) →
    id = s!"sandbox-{binding.runId}" ∧
      may binding.runId binding.sandboxPlanDigest binding.environmentIdentity
  completes : ∀ identity id expected,
    op = .command identity (.completeSandboxPreparation id expected) →
      ∀ row, d.find .sandboxInstances id = some row → verified id row.sandboxPlanDigest

variable {may verified}

omit [DecidableEq D] [DigestScheme D] in
theorem Provided.moved {id : String} {row : SandboxInstance D}
    (h : Provided may verified id row) (phase : SandboxPhase) (presence : Presence)
    (hready : phase = .Ready → verified id row.sandboxPlanDigest) :
    Provided may verified id (row.moved phase presence) := ⟨h.key, h.plan, hready⟩

theorem apply_provided {ambient : Ambient} (h : AllProvided may verified d)
    (hop : Provides may verified d op) : AllProvided may verified (op.apply ambient d) := by
  intro id new hnew
  cases hold : d.find .sandboxInstances id with
  | none =>
    obtain ⟨identity, binding, hcreate, rfl⟩ := apply_sandbox_new hnew hold
    obtain ⟨hid, hplan⟩ := hop.creates _ _ _ hcreate
    exact ⟨hid, hplan, fun hready => by cases hready⟩
  | some old =>
    obtain ⟨moved, hmoved, hmove⟩ := apply_sandbox op ambient hold
    obtain rfl := Option.some.inj (hmoved.symm.trans hnew)
    have hold' := h id old hold
    cases hmove with
    | kept => exact hold'
    | advanced follows completed =>
      refine hold'.moved _ _ fun hready => ?_
      obtain ⟨identity, expected, hcomplete⟩ := completed hready
      exact hop.completes _ _ _ hcomplete old hold
    | observed => exact hold'.moved _ _ hold'.ready
    | failed named => exact hold'.moved _ _ fun hready => by cases hready

theorem provides_other (h : op.provisions = false) : Provides may verified d op := by
  constructor
  · rintro identity id binding rfl
    cases h
  · rintro identity id expected rfl
    cases h

/-! ## What each part of a call keeps -/

variable (may verified)

/-- What was verified against one plan a Run may have counts for any other. -/
def Transfers : Prop :=
  ∀ runId digest environment digest' environment', may runId digest environment →
    may runId digest' environment' → verified s!"sandbox-{runId}" digest →
    verified s!"sandbox-{runId}" digest'

/-- What a call counts on, and keeps. Where it is `strict`, no completion is answered from the
    ledger. -/
def provisioning : Custom (Engine D) (Label D) (Port D) where
  inv s := AllProvided may verified s.db
  allow s l := strict → l.completesAfresh s
  answer _ _ port answer :=
    ∀ id digest, passed port answer = some (id, digest) → verified id digest
  hear := Engine.hear

/-- A record of the Run's Sandbox, for its plan; one that is Ready was verified. -/
structure RecordProvided (runId : String) (record : SandboxRecord D) : Prop where
  run : record.runId = runId
  plan : may runId record.sandboxPlanDigest record.environmentIdentity
  ready : record.phase = .Ready → verified s!"sandbox-{runId}" record.sandboxPlanDigest

/-- What a call answers with: a Sandbox that was verified, and is Ready. -/
structure Provisioned (runId : String) (record : SandboxRecord D) : Prop where
  provided : RecordProvided may verified runId record
  verified : verified s!"sandbox-{runId}" record.sandboxPlanDigest
  ready : strict → record.phase = .Ready

variable {may verified strict} {α : Type}

theorem keeps_perform {Q : Except StoreError op.Answer → Prop}
    (h : ∀ ambient (s : Engine D), AllProvided may verified s.db →
      (strict → (Label.call ambient op).completesAfresh s) →
      Provides may verified s.db op ∧ Q (op.answer ambient s.db).1) :
    (perform op).Keeps (provisioning may verified strict) Q := by
  intro s hs ambient _
  refine ⟨hs, fun s' hs' hafresh => ?_⟩
  obtain ⟨hop, hanswer⟩ := h ambient s' hs' hafresh
  exact ⟨apply_provided hs' hop, hanswer⟩

theorem keeps_ask {port : Port D α} {Q : α → Prop}
    (h : ∀ answer, (∀ id digest, passed port answer = some (id, digest) → verified id digest) →
      Q answer) : (Prog.ask port).Keeps (provisioning may verified strict) Q := by
  intro s hs answer hanswer
  refine ⟨?_, h answer hanswer⟩
  change AllProvided may verified (Engine.hear port answer s).db
  rw [Engine.hear_db]
  exact hs

/-- A call of the store that neither creates nor completes. -/
theorem keeps_other (h : op.provisions = false) :
    (perform op).Keeps (provisioning may verified strict) fun _ => True :=
  keeps_perform fun _ _ _ _ => ⟨provides_other h, trivial⟩

section Then

variable {ε β : Type} {Q : β → Prop}

/-- After such a call nothing is known of its answer. -/
theorem other_then {convert : StoreError → ε} {k : op.Answer → Control ε D β}
    (h : op.provisions = false)
    (hk : ∀ a, Prog.KeepsOk (provisioning may verified strict) Q (k a)) :
    Prog.KeepsOk (provisioning may verified strict) Q (Control.lift convert (perform op) >>= k) :=
  Prog.KeepsOk.andThen (R := fun _ => True) (keeps_lift (keeps_perform fun _ _ _ _ =>
    ⟨provides_other h, fun _ _ => trivial⟩)) fun a _ => hk a

theorem read_then {δ : Type} {convert : δ → ε} {f : Db D → Except δ α} {k : α → Control ε D β}
    (hk : ∀ a, Prog.KeepsOk (provisioning may verified strict) Q (k a)) :
    Prog.KeepsOk (provisioning may verified strict) Q (Control.lift convert (readStore f) >>= k) :=
  Prog.KeepsOk.andThen (R := fun _ => True) (keeps_lift (keeps_readStore fun _ _ _ _ => trivial))
    fun a _ => hk a

end Then

omit [DigestScheme D] in
theorem sandboxForRun_provided (hd : AllProvided may verified d)
    (h : sandboxForRun runId d = some record) : RecordProvided may verified runId record := by
  obtain ⟨⟨id, row⟩, hfound, rfl⟩ := Option.map_eq_some_iff.mp h
  have hrow := hd id row (State.mem_rows.mp (List.mem_of_find?_eq_some hfound))
  have hrun : row.runId = runId := by
    have hcurrent := List.find?_some hfound
    simp only [Bool.and_eq_true, beq_iff_eq] at hcurrent
    exact hcurrent.1
  subst hrun
  exact ⟨rfl, hrow.plan, fun hready => hrow.key ▸ hrow.ready hready⟩

theorem currentSandbox_keeps (runId missing : String) :
    Prog.KeepsOk (provisioning may verified strict) (RecordProvided may verified runId)
      (currentSandbox runId missing) := by
  refine Prog.KeepsOk.andThen (R := fun found => ∀ record, found = some record →
    RecordProvided may verified runId record) (keeps_step (keeps_readStore ?_)) ?_
  · exact fun d hd record hrecord => sandboxForRun_provided hd hrecord
  · exact fun found hfound => keeps_orElse hfound

/-- The answer to a command on the Run's Sandbox: what it wrote, or what is current. -/
theorem committedSandbox_keeps {committed : Committed (SandboxRecord D)}
    (h : ∀ record cursor, committed = .Executed record cursor →
      RecordProvided may verified runId record) :
    Prog.KeepsOk (provisioning may verified strict) (RecordProvided may verified runId)
      (committedSandbox runId committed) := by
  cases committed with
  | Executed record cursor => exact fun a ha => Except.ok.inj ha ▸ h record cursor rfl
  | Replayed cursor recordedAt => exact currentSandbox_keeps _ _

theorem acquireSandbox_keeps {binding : SandboxBinding D} (hkey : key.text = s!"sandbox-{runId}")
    (hrun : binding.runId = runId)
    (hplan : may runId binding.sandboxPlanDigest binding.environmentIdentity) :
    Prog.KeepsOk (provisioning may verified strict) (RecordProvided may verified runId)
      (acquireSandbox command runId key binding) := by
  subst hrun
  refine Prog.KeepsOk.andThen (R := fun created : Except StoreError (Committed (SandboxRecord D)) =>
    ∀ record cursor, created = .ok (.Executed record cursor) →
      RecordProvided may verified binding.runId record) (keeps_step (keeps_perform ?_)) ?_
  · intro ambient s hs _
    refine ⟨⟨?_, ?_⟩, fun record cursor hexecuted => ?_⟩
    · rintro identity id other hop
      cases hop
      exact ⟨hkey, hplan⟩
    · rintro identity id expected hop
      cases hop
    · obtain ⟨d₁, hc, -⟩ := command_ran hexecuted
      rw [(createSandbox_commits hc).record_eq]
      exact ⟨rfl, hplan, fun hready => by cases hready⟩
  · intro created hcreated
    rcases created with e | committed
    · cases e with
      | SandboxAlreadyCurrent => exact currentSandbox_keeps _ _
      | _ => exact keeps_throw
    · exact committedSandbox_keeps fun record cursor hsame => hcreated record cursor (by rw [hsame])

theorem recordProbeEvidence_keeps (command : Command D) (runId : String) (key : SandboxKey)
    (plan : SandboxPlan D) (verification : SandboxVerification)
    (results : List SandboxProbeResult) :
    Prog.KeepsOk (provisioning may verified strict) (fun _ => True)
      (recordProbeEvidence command runId key plan verification results) := by
  induction results with
  | nil => exact fun _ _ => trivial
  | cons result results ih =>
    exact other_then rfl fun _ => ih

omit [DigestScheme D] in
/-- A row under the key of a Run is the Run's. -/
theorem AllProvided.run (h : AllProvided may verified d) {id : String}
    (hkey : id = s!"sandbox-{runId}") {row : SandboxInstance D}
    (hrow : d.find .sandboxInstances id = some row) : row.runId = runId :=
  sandboxId_injective ((h _ _ hrow).key.symm.trans hkey)

section Keyed

variable (htransfer : Transfers may verified) (hkey : key.text = s!"sandbox-{runId}")
  (hplan : may runId plan.digest plan.environmentIdentity)

include htransfer hkey hplan

/-- A completion answers with the Ready Sandbox that was verified, or from the ledger. -/
theorem completes_keeps {identity : Command D} {revision : Int}
    (hverified : verified s!"sandbox-{runId}" plan.digest) :
    (perform (.command identity (.completeSandboxPreparation key.text revision))).Keeps
      (provisioning may verified strict) fun r => ∀ committed, r = .ok committed →
        (∀ record cursor, committed = .Executed record cursor →
          Provisioned may verified strict runId record) ∧
        ∀ cursor recordedAt, committed = .Replayed cursor recordedAt → ¬ strict := by
  refine keeps_perform fun ambient s hs hafresh => ⟨⟨?_, ?_⟩, ?_⟩
  · rintro _ id binding hop
    cases hop
  · rintro _ id expected hop row hrow
    cases hop
    have hrun := hs.run hkey hrow
    rw [hkey]
    exact htransfer _ _ _ _ _ hplan (hrun ▸ (hs _ _ hrow).plan) hverified
  · refine fun committed hcommitted => ⟨?_, ?_⟩
    · rintro record cursor rfl
      obtain ⟨d₁, hc, -⟩ := command_ran hcommitted
      obtain ⟨old, hmoved, -⟩ := advanceSandbox_commits hc
      have hrun := hs.run hkey hmoved.found
      have hold : may runId old.sandboxPlanDigest old.environmentIdentity :=
        hrun ▸ (hs _ _ hmoved.found).plan
      have hready := htransfer _ _ _ _ _ hplan hold hverified
      rw [hmoved.record_eq]
      exact ⟨⟨hrun, hold, fun _ => hready⟩, hready, fun _ => rfl⟩
    · rintro cursor recordedAt rfl hstrict
      have hunused := hafresh hstrict
      rcases commits_execute (answer_ok hcommitted) with ⟨_, hentry, -⟩ | ⟨-, _, _, _, hsame, -⟩
      · cases hunused.symm.trans hentry
      · cases hsame

theorem verifyPrepared_keeps {epoch : String} :
    Prog.KeepsOk (provisioning may verified strict) (Provisioned may verified strict runId)
      (verifyPrepared command epoch runId key plan record) := by
  refine Prog.KeepsOk.andThen (R := fun verification => verification.allPassed = true →
    verified key.text plan.digest) (keeps_lift (keeps_ask ?_)) fun verification hverified => ?_
  · rintro answer hanswer verification rfl hpassed
    exact hanswer _ _ (if_pos hpassed)
  split
  · rename_i hpassed
    rw [hkey] at hverified
    refine Prog.KeepsOk.andThen
      (keeps_lift (completes_keeps htransfer hkey hplan (hverified hpassed))) ?_
    rintro (⟨record, cursor⟩ | ⟨cursor, recordedAt⟩) ⟨hexecuted, hreplayed⟩
    · exact fun a ha => Except.ok.inj ha ▸ hexecuted record cursor rfl
    · refine Prog.Keeps.mono (fun r hr a ha => ?_) (currentSandbox_keeps runId _)
      have hrecord := hr a ha
      exact ⟨hrecord, htransfer _ _ _ _ _ hplan hrecord.plan (hverified hpassed),
        fun hstrict => (hreplayed cursor recordedAt rfl hstrict).elim⟩
  · refine Prog.KeepsOk.andThen (R := fun _ => True)
      (keeps_lift (recordProbeEvidence_keeps _ _ _ _ _ _)) fun _ _ => ?_
    exact other_then rfl fun _ => keeps_throw

theorem ensurePrepared_keeps :
    Prog.KeepsOk (provisioning may verified strict) (Provisioned may verified strict runId)
      (ensurePrepared command runId key plan record) := by
  refine read_then fun epoch => ?_
  refine Prog.KeepsOk.andThen (R := fun _ => True)
    (keeps_step (keeps_ask fun _ _ => trivial)) fun answer _ => ?_
  -- The outcome of recording a failure is ignored.
  rcases answer with detail | presence
  · exact Prog.KeepsOk.andThen (keeps_step (keeps_other rfl)) fun _ _ => keeps_throw
  · cases presence with
    | Present => exact verifyPrepared_keeps htransfer hkey hplan
    | _ => exact Prog.KeepsOk.andThen (keeps_step (keeps_other rfl)) fun _ _ => keeps_throw

theorem provisionKeyed_keeps :
    Prog.KeepsOk (provisioning may verified strict) (Provisioned may verified strict runId)
      (provisionKeyed command runId plan key) := by
  refine Prog.KeepsOk.andThen (acquireSandbox_keeps hkey rfl hplan) fun record hrecord => ?_
  split
  · rename_i hready
    exact fun a ha => Except.ok.inj ha ▸ ⟨hrecord, hrecord.ready hready, fun _ => hready⟩
  · exact keeps_throw
  · exact keeps_throw
  · refine read_then fun epoch => other_then rfl fun begun => ?_
    refine Prog.KeepsOk.andThen (R := fun _ => True) ?_ fun _ _ => ensurePrepared_keeps htransfer hkey hplan
    cases begun with
    | Executed record cursor => exact fun _ _ => trivial
    | Replayed cursor recordedAt =>
      exact Prog.Keeps.mono (fun _ _ _ _ => trivial) (currentSandbox_keeps _ _)
  · exact ensurePrepared_keeps htransfer hkey hplan
  · exact keeps_throw

end Keyed

theorem provision_keeps (htransfer : Transfers may verified)
    (hplan : may runId plan.digest plan.environmentIdentity) :
    Prog.KeepsOk (provisioning may verified strict) (Provisioned may verified strict runId)
      (provision command runId plan) := by
  unfold provision
  split
  · rename_i key hkey
    refine provisionKeyed_keeps htransfer ?_ hplan
    unfold deriveSandboxKey SandboxKey.new at hkey
    split at hkey
    · cases hkey
    · split at hkey
      · rw [← Except.ok.inj hkey]
      · cases hkey
  · exact keeps_throw

/-! ## Whole runs -/

/-- The plan a Run has, as a condition. -/
def IsPlanOf (planOf : String → D × String) (runId : String) (digest : D) (environment : String) :
    Prop :=
  planOf runId = (digest, environment)

omit [DecidableEq D] [DigestScheme D] in
theorem isPlanOf_transfers (planOf : String → D × String) (verified : String → D → Prop) :
    Transfers (IsPlanOf planOf) verified := by
  intro runId digest environment digest' environment' h h' hverified
  obtain ⟨rfl, -⟩ := Prod.mk.inj (h.symm.trans h')
  exact hverified

/-- What a call must answer with. -/
def AnswersProvided (planOf : String → D × String) (verified : String → D → Prop) :
    String × SandboxPlan D × Except SandboxControllerError (SandboxRecord D) → Prop
  | (runId, plan, answer) => ∀ record, answer = .ok record →
    Provisioned (IsPlanOf planOf) verified True runId record ∧
      planOf runId = (plan.digest, plan.environmentIdentity)

theorem provisioning_rules {planOf : String → D × String} {verified : String → D → Prop}
    {admits : String → SandboxPlan D → Prop}
    (hone : ∀ runId plan, admits runId plan →
      planOf runId = (plan.digest, plan.environmentIdentity)) :
    (provisioning (IsPlanOf planOf) verified True).Rules (AnswersProvided planOf verified)
      (provisionMachine admits) (fun c e => CompletesAfresh c e ∧ InVerified verified c e)
      (fun s => Installed s.db) where
  init s hs id row hrow := by
    rw [hs.find_none (by decide)] at hrow
    cases hrow
  spawn p hp := by
    obtain ⟨command, runId, plan, hadmits, rfl⟩ := hp
    have hplan := hone runId plan hadmits
    exact Prog.Keeps.bind (provision_keeps (isPlanOf_transfers _ _) hplan)
      fun answer hanswer record hrecord => ⟨hanswer record hrecord, hplan⟩
  allow _ _ _ hc _ := hc.1
  answer _ _ _ _ hc := hc.2
  hear _ _ _ := rfl
  env s s' hs he := by
    obtain ⟨op, ambient, hop, rfl⟩ := he
    exact apply_provided hs (provides_other hop)
  crash _ hs := hs

end Invariant

namespace Sample

/-- A plan with or without a limit. -/
def sandboxPlan (limit : Option UInt32) : SandboxPlan PrefixDigest :=
  ⟨⟨[1]⟩, "e", [], .None, limit, none⟩

def provisioned (id : String) (limit : Option UInt32) :
    Act PrefixDigest (String × SandboxPlan PrefixDigest ×
      Except SandboxControllerError (SandboxRecord PrefixDigest)) :=
  provisionCall ⟨generation, id, ⟨[0]⟩, "sample"⟩ "run" (sandboxPlan limit)

/-- The first call, which takes ten actions. -/
def firstProvision (n : Nat) :=
  (provisioned "a" none).acts Engine.hear (answers .Absent 97) n ⟨installed, [], []⟩

/-- A call with another plan, after the first. -/
def secondProvision (n : Nat) :=
  (provisioned "b" (some 1)).acts Engine.hear (answers .Absent 48) n (firstProvision 10).2

/-- Completions are fresh, and what is verified is the Sandbox of the first plan. -/
def undisturbed (i : Nat) : Act PrefixDigest (String × SandboxPlan PrefixDigest ×
    Except SandboxControllerError (SandboxRecord PrefixDigest)) → Engine PrefixDigest → Bool
  | .tx (.call _ (.command identity (.completeSandboxPreparation _ _))) _ _, s =>
    (s.db.find .commands (identity.epoch, identity.id)).isNone
  | .call port _, _ => (passed port (answers .Absent 97 i _ port)).all
      (· == ("sandbox-run", (sandboxPlan none).digest))
  | _, _ => true

/-- Whether a call that answered a record answered one of its own plan. -/
def ofOwnPlan : String × SandboxPlan PrefixDigest ×
    Except SandboxControllerError (SandboxRecord PrefixDigest) → Option Bool
  | (_, plan, .ok record) => some (record.sandboxPlanDigest == plan.digest)
  | (_, _, .error _) => none

theorem provisions_run :
    ((List.range 10).all fun i => undisturbed i (firstProvision i).1 (firstProvision i).2) = true ∧
    (firstProvision 10).1.answered.bind ofOwnPlan = some true ∧
    (secondProvision 3).1.answered.bind ofOwnPlan = some false := by
  decide +kernel

/-- The only plan is the first one. -/
def firstPlan (runId : String) (plan : SandboxPlan PrefixDigest) : Prop :=
  runId = "run" ∧ plan = sandboxPlan none

def firstPlanOf (_ : String) : PrefixDigest × String :=
  ((sandboxPlan none).digest, (sandboxPlan none).environmentIdentity)

theorem firstPlan_one : ∀ runId plan, firstPlan runId plan →
    firstPlanOf runId = (plan.digest, plan.environmentIdentity) := by
  rintro runId plan ⟨-, rfl⟩
  rfl

/-- What the backend verified in the first call. -/
def FirstVerified (id : String) (digest : PrefixDigest) : Prop :=
  (id, digest) = ("sandbox-run", (sandboxPlan none).digest)

theorem undisturbed_meets {i : Nat} {p : Act PrefixDigest (String × SandboxPlan PrefixDigest ×
      Except SandboxControllerError (SandboxRecord PrefixDigest))} {c : ProvisionConfig PrefixDigest}
    {e : ProvisionEvent PrefixDigest} (h : undisturbed i p c.shared = true)
    (he : p.event (answers .Absent 97 i) [] = some e) :
    CompletesAfresh c e ∧ InVerified FirstVerified c e := by
  cases p with
  | ret a => cases he
  | tx l t k =>
    cases he
    refine ⟨?_, trivial⟩
    change l.completesAfresh c.shared
    unfold Label.completesAfresh
    split
    · exact Option.isNone_iff_eq_none.mp h
    · trivial
  | call port k =>
    cases he
    refine ⟨trivial, fun id digest hpassed => ?_⟩
    have hall : (passed port _).all _ = true := h
    rw [hpassed] at hall
    exact eq_of_beq hall

theorem first_spawned {admits : String → SandboxPlan PrefixDigest → Prop}
    {cond : ProvisionConfig PrefixDigest → ProvisionEvent PrefixDigest → Prop}
    (hadmits : admits "run" (sandboxPlan none))
    (hcond : ∀ c, cond c (.spawn (provisioned "a" none))) :
    Reach (provisionMachine admits) cond (fun s => Installed s.db)
      ⟨⟨installed, [], []⟩, [], [provisioned "a" none]⟩ :=
  .step (.start installed_installed) (.spawn _ ⟨_, _, _, hadmits, rfl⟩) (hcond _)

theorem first_reach : ∃ past, Reach (provisionMachine firstPlan)
    (fun c e => CompletesAfresh c e ∧ InVerified FirstVerified c e) (fun s => Installed s.db)
    ⟨(firstProvision 10).2, past, [(firstProvision 10).1]⟩ := by
  refine Reach.acts_among [] [] (first_spawned ⟨rfl, rfl⟩ fun _ => ⟨trivial, trivial⟩)
    (answers .Absent 97) 10 fun i hi e past he => ?_
  have hall := List.all_eq_true.mp provisions_run.1 i (List.mem_range.mpr hi)
  exact undisturbed_meets hall he

theorem second_reach : ∃ past, Reach (provisionMachine fun _ _ => True) (fun _ _ => True)
    (fun s => Installed s.db) ⟨(secondProvision 3).2, past, [(secondProvision 3).1]⟩ := by
  have hstart : Reach (provisionMachine fun _ _ => True) (fun _ _ => True)
      (fun s => Installed s.db) _ := first_spawned trivial fun _ => trivial
  obtain ⟨past, -, hfirst⟩ := hstart.does
    (.acts (answers .Absent 97) 10 _ _) (fun _ _ _ => trivial) (fun _ _ _ _ => trivial)
  change Reach _ _ _ ⟨(firstProvision 10).2, _, [(firstProvision 10).1]⟩ at hfirst
  obtain ⟨a, ha, -⟩ := Option.bind_eq_some_iff.mp provisions_run.2.1
  rw [Prog.eq_ret_of_answered ha] at hfirst
  have hspawned := (hfirst.step (.ends a) trivial).step
    (.spawn (provisioned "b" (some 1)) ⟨_, _, _, trivial, rfl⟩) trivial
  obtain ⟨past', -, hsecond⟩ := hspawned.does
    (.acts (answers .Absent 48) 3 _ _) (fun _ _ _ => trivial) (fun _ _ _ _ => trivial)
  exact ⟨past', hsecond⟩

end Sample

/-- Under every interleaving of calls of `provision`, with any commands, backend answers and
    crashes, in which all calls for a Run have one plan and no completion is answered from the
    ledger: a record that a call answers with is of its Run's Sandbox, Ready, created for the
    plan of the call, and whatever holds all passing verifications holds one of this Sandbox
    against a plan of that digest. -/
theorem provision_ready {admits : String → SandboxPlan D → Prop} (planOf : String → D × String)
    (hone : ∀ runId plan, admits runId plan →
      planOf runId = (plan.digest, plan.environmentIdentity))
    (verified : String → D → Prop) {c c' : ProvisionConfig D}
    (h : Reach (provisionMachine admits)
      (fun c e => CompletesAfresh c e ∧ InVerified verified c e) (fun s => Installed s.db) c)
    {runId : String} {plan : SandboxPlan D} {record : SandboxRecord D}
    (hs : Step (provisionMachine admits) c (.finish (runId, plan, .ok record)) c') :
    record.runId = runId ∧ record.phase = .Ready ∧ record.sandboxPlanDigest = plan.digest ∧
      record.environmentIdentity = plan.environmentIdentity ∧
      verified s!"sandbox-{runId}" plan.digest := by
  obtain ⟨hrecord, hplan⟩ := (provisioning_rules hone).finish h hs record rfl
  have hsame := hrecord.provided.plan.symm.trans hplan
  have hdigest := (Prod.mk.inj hsame).1
  exact ⟨hrecord.provided.run, hrecord.ready trivial, hdigest, (Prod.mk.inj hsame).2,
    hdigest ▸ hrecord.verified⟩

/-- One call from an installed store, whose backend starts the Sandbox and verifies it. -/
theorem provision_ready_once : ∃ (c c' : ProvisionConfig PrefixDigest) (runId : String)
    (plan : SandboxPlan PrefixDigest) (record : SandboxRecord PrefixDigest),
    Reach (provisionMachine Sample.firstPlan)
      (fun c e => CompletesAfresh c e ∧ InVerified Sample.FirstVerified c e)
      (fun s => Installed s.db) c ∧
    Step (provisionMachine Sample.firstPlan) c (.finish (runId, plan, .ok record)) c' ∧
      record.phase = .Ready ∧ record.sandboxPlanDigest = plan.digest := by
  obtain ⟨past, hreach⟩ := Sample.first_reach
  obtain ⟨⟨runId, plan, answer⟩, ha, hplan⟩ := Option.bind_eq_some_iff.mp Sample.provisions_run.2.1
  rw [Prog.eq_ret_of_answered ha] at hreach
  cases answer with
  | error e => cases hplan
  | ok record =>
    have hready := provision_ready Sample.firstPlanOf Sample.firstPlan_one Sample.FirstVerified
      hreach (.ends _)
    exact ⟨_, _, runId, plan, record, hreach, .ends _, hready.2.1, hready.2.2.1⟩

/-- A second call with another plan is answered with the Ready record of the first call's plan:
    `provision` does not compare the plan of a Sandbox it finds current with its own. -/
theorem provision_other_plan : ∃ c c' : ProvisionConfig PrefixDigest,
    Reach (provisionMachine fun _ _ => True) (fun _ _ => True) (fun s => Installed s.db) c ∧
    ∃ runId plan record,
      Step (provisionMachine fun _ _ => True) c (.finish (runId, plan, .ok record)) c' ∧
      record.sandboxPlanDigest ≠ plan.digest := by
  obtain ⟨past, hreach⟩ := Sample.second_reach
  obtain ⟨⟨runId, plan, answer⟩, ha, hother⟩ := Option.bind_eq_some_iff.mp Sample.provisions_run.2.2
  rw [Prog.eq_ret_of_answered ha] at hreach
  cases answer with
  | error e => cases hother
  | ok record =>
    refine ⟨_, _, hreach, runId, plan, record, .ends _, fun hsame => ?_⟩
    rw [Sample.ofOwnPlan, hsame, beq_self_eq_true] at hother
    cases hother

end Pantheon
