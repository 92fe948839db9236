/-
  No Attempt starts in a Sandbox that was not verified.
  Over the container backend, whatever inspection and probes meet: a Sandbox becomes Ready only
  after a verification whose recorded probes all passed, a Run gets an Attempt only after that,
  and the launcher is asked only for Attempts. `launched_only_probed` says so for every
  interleaving of passes, provided the network namespace probe passes. Without this condition
  `network_probe_ignored` is a verification that passes with a failed probe on record.
-/
import Pantheon.Engine.Passes
import Pantheon.Engine.Provision
import Pantheon.Execution.Container
import Pantheon.Store.Attempts

namespace Pantheon

open Interleave Relational RunControl

variable {D : Type} [DecidableEq D] [DigestScheme D]

/-- The calls of the store that make a Sandbox Ready or need one that is. -/
def StoreOp.readies : StoreOp D → Bool
  | .command _ (.createAttempt _) => true
  | op => op.provisions

/-- The package of a launch. -/
def Port.launched {β : Type} : Port D β → Option (LaunchPackage D)
  | .ensureExecution package => some package
  | _ => none

/-! ## The invariant -/

variable {s : Engine D} {op : StoreOp D} {α : Type} {runId : String}

section Invariant

variable (cleared : String → Prop)

/-- Every Attempt, and every launch, is of a Run whose Sandbox was cleared. -/
structure Cleared (s : Engine D) : Prop where
  attempts : ∀ id status, s.db.find .attemptStatus id = some status →
    cleared s!"sandbox-{status.runId}"
  launched : ∀ heard ∈ s.heard, ∀ package, heard.asked = .ensure package →
    cleared s!"sandbox-{package.runId}"

/-- What a pass counts on, and keeps. Plans do not matter here, only Sandboxes. -/
def readying : Custom (Engine D) (Label D) (Port D) :=
  (provisioning (fun _ _ _ => True) (fun id _ => cleared id) False).along (Cleared cleared)

variable {cleared}

omit [DecidableEq D] [DigestScheme D] in
theorem clears_transfer :
    Transfers (fun _ (_ : D) _ => True) fun id _ => cleared id := fun _ _ _ _ _ _ _ h => h

omit [DigestScheme D] in
theorem Cleared.same {s' : Engine D} (h : Cleared cleared s)
    (hdb : s'.db.table .attemptStatus = s.db.table .attemptStatus) (hheard : s'.heard = s.heard) :
    Cleared cleared s' := by
  constructor
  · intro id status hstatus
    rw [State.find_congr hdb] at hstatus
    exact h.attempts id status hstatus
  · rw [hheard]
    exact h.launched

/-- Only T4 adds an Attempt. -/
theorem Cleared.apply (h : Cleared cleared s) {ambient : Ambient}
    (hop : ∀ identity creation, op = .command identity (.createAttempt creation) →
      cleared s!"sandbox-{creation.runId}") :
    Cleared cleared { s with db := op.apply ambient s.db } := by
  refine ⟨fun id new hnew => ?_, h.launched⟩
  cases hold : s.db.find .attemptStatus id with
  | none =>
    obtain ⟨identity, creation, hcreate, rfl⟩ := apply_attemptStatus_new hnew hold
    exact hop identity creation hcreate
  | some old =>
    obtain ⟨moved, hmoved, hmove⟩ := apply_attemptStatus op ambient hold
    obtain rfl := Option.some.inj (hmoved.symm.trans hnew)
    have hrun : moved.runId = old.runId := by
      cases hmove with
      | kept => rfl
      | contacted => rfl
      | observed now update => cases update <;> rfl
    rw [hrun]
    exact h.attempts id old hold

omit [DigestScheme D] in
/-- Only asking the launcher for an Attempt is a launch. -/
theorem Cleared.hear {β : Type} (h : Cleared cleared s) (c : Port D β) (b : β)
    (hc : ∀ package, c.launched = some package → cleared s!"sandbox-{package.runId}") :
    Cleared cleared (Engine.hear c b s) := by
  cases c with
  | ensureExecution package =>
    refine ⟨h.attempts, fun heard hmem => ?_⟩
    rcases List.mem_cons.mp hmem with rfl | hmem
    · rintro other hasked
      obtain rfl := LauncherCall.ensure.inj hasked
      exact hc package rfl
    · exact h.launched heard hmem
  | inspectExecution launchKey =>
    refine ⟨h.attempts, fun heard hmem => ?_⟩
    rcases List.mem_cons.mp hmem with rfl | hmem
    · rintro other hasked
      cases hasked
    · exact h.launched heard hmem
  | _ => exact h

/-! ## What each part of a pass keeps -/

/-- Steps that neither ready a Sandbox nor need one. -/
def Unready : Conduct (Engine D) (Label D) (Port D) where
  tx
    | .call ambient op, e => op.readies = false ∧ e = fun s => { s with db := op.apply ambient s.db }
    | _, e => ∀ s, (e s).db = s.db ∧ (e s).heard = s.heard
  call c := c.launched = none

theorem apply_unready {ambient : Ambient} (hop : op.readies = false) (h : (readying cleared).inv s) :
    (readying cleared).inv { s with db := op.apply ambient s.db } := by
  refine ⟨apply_provided h.1 (provides_other ?_), h.2.apply ?_⟩
  · unfold StoreOp.readies at hop
    split at hop
    · cases hop
    · exact hop
  · rintro identity creation rfl
    cases hop

theorem hear_readying {β : Type} {c : Port D β} {b : β} (h : (readying cleared).inv s)
    (hc : ∀ package, c.launched = some package → cleared s!"sandbox-{package.runId}") :
    (readying cleared).inv (Engine.hear c b s) := by
  refine ⟨?_, h.2.hear c b hc⟩
  change AllProvided _ _ (Engine.hear c b s).db
  rw [Engine.hear_db]
  exact h.1

theorem unready_keeps {p : Act D α} (hp : p.Each Unready) :
    p.Keeps (readying cleared) fun _ => True := by
  refine hp.keeps (fun l e he s hs => ?_) (fun c b hc s hs => ?_)
  · cases l with
    | call ambient op =>
      obtain ⟨hop, rfl⟩ := he
      exact apply_unready hop hs
    | _ =>
      obtain ⟨hdb, hheard⟩ := he s
      refine ⟨?_, hs.2.same (by rw [hdb]) hheard⟩
      change AllProvided _ _ (e s).db
      rw [hdb]
      exact hs.1
  · refine hear_readying hs fun package hlaunched => ?_
    cases hlaunched.symm.trans hc

/-- Such steps where only a value is asked for. -/
theorem unready_keepsOk {ε : Type} {x : Control ε D α} (hx : x.run.Each Unready) :
    Prog.KeepsOk (readying cleared) (fun _ => True) x :=
  (unready_keeps hx).mono fun _ _ _ _ => trivial

theorem looks_unready {p : Act D α} (h : p.Each Looking) : p.Each Unready := by
  refine h.mono (fun l e he => ?_) fun c hc => ?_
  · obtain ⟨rfl, rfl⟩ := he
    exact fun s => ⟨rfl, rfl⟩
  · cases c with
    | ensureExecution package => cases hc
    | _ => rfl

section Then

variable {ε : Type} {Q : β → Prop} {x : Control ε D α} {f : α → Control ε D β}

theorem unready_then (hx : x.run.Each Unready) (hf : ∀ a, Prog.KeepsOk (readying cleared) Q (f a)) :
    Prog.KeepsOk (readying cleared) Q (x >>= f) :=
  Prog.KeepsOk.andThen (unready_keepsOk hx) fun a _ => hf a

theorem looks_then (hx : x.run.Each Looking) (hf : ∀ a, Prog.KeepsOk (readying cleared) Q (f a)) :
    Prog.KeepsOk (readying cleared) Q (x >>= f) := unready_then (looks_unready hx) hf

end Then

theorem call_unready (h : op.readies = false) : (call op).run.Each Unready :=
  each_lift (each_perform rfl fun _ => ⟨h, rfl⟩)

theorem bearerOf_unready (attemptId : String) :
    (bearerOf attemptId : RunControl D _).run.Each Unready :=
  each_step ⟨fun _ => ⟨rfl, rfl⟩, fun _ => trivial⟩

theorem keepBearer_unready (attemptId : String) (state : BearerState) :
    (keepBearer attemptId state : RunControl D _).run.Each Unready :=
  each_step ⟨fun _ => ⟨rfl, rfl⟩, fun _ => trivial⟩

theorem concludeInPreparation_unready (runId : String) (revision : Int) (gate : String) :
    (concludeInPreparation runId revision gate : RunControl D _).run.Each Unready :=
  .andThen (call_unready rfl) fun _ => trivial

theorem recordObservation_unready (attemptId : String) (update : ObservationUpdate) :
    (recordObservation attemptId update : RunControl D _).run.Each Unready :=
  .andThen (looks_unready (tryRead_looks _)) fun _ => .andThen (call_unready rfl) fun _ => trivial

theorem recorded_unready (attemptId : String) (update : ObservationUpdate) (outcome : RunOutcome) :
    (do recordObservation attemptId update; return outcome : RunControl D _).run.Each Unready :=
  .andThen (recordObservation_unready _ _) fun _ => trivial

theorem recordLaunch_unready (attemptId : String) (answer : Except String Observation) :
    (recordLaunch attemptId answer : RunControl D _).run.Each Unready := by
  unfold recordLaunch
  split <;> exact recorded_unready _ _ _

theorem decideAfterTerminal_unready (policy : MinRecoveryPolicy) (runId attemptId : String) :
    (decideAfterTerminal policy runId attemptId : RunControl D _).run.Each Unready := by
  refine .andThen (looks_unready (read_looks _)) fun used => ?_
  split
  · trivial
  · refine .andThen (each_lift ⟨fun _ => ⟨rfl, rfl⟩, fun _ => trivial⟩) fun found => ?_
    refine .andThen (each_orElse _ _) fun view => ?_
    exact .andThen (call_unready rfl) fun _ => trivial

theorem reconcileContacted_unready (policy : MinRecoveryPolicy) (lineage : AttemptLineageView) :
    (reconcileContacted policy lineage : RunControl D _).run.Each Unready := by
  refine .andThen (each_step (each_ask rfl)) fun answer => ?_
  split
  · exact recorded_unready _ _ _
  · exact recorded_unready _ _ _
  · exact recorded_unready _ _ _
  · exact .andThen (recordObservation_unready _ _) fun _ => decideAfterTerminal_unready _ _ _
  · exact .andThen (recordObservation_unready _ _) fun _ => decideAfterTerminal_unready _ _ _

theorem ensureCurrentBearer_unready (lineage : AttemptLineageView) :
    (ensureCurrentBearer lineage : RunControl D Unit).run.Each Unready := by
  refine .andThen (bearerOf_unready _) fun known => ?_
  split
  · trivial
  · refine .andThen (looks_unready random_looks) fun bytes => ?_
    exact .andThen (call_unready rfl) fun _ => keepBearer_unready _ _

theorem prepareRunContext_unready (runId : String) :
    (prepareRunContext runId : ContextControl D _).run.Each Unready := by
  refine .andThen (looks_unready (readSource_looks _)) fun _ =>
    .andThen (each_orElse _ _) fun run => ?_
  refine .andThen (looks_unready (plannedContext_looks run)) fun plan => ?_
  refine .andThen (looks_unready (readSource_looks _)) fun existing => ?_
  split
  · trivial
  · refine .andThen (each_lift (looks_unready (readStore_looks _))) fun epoch => ?_
    exact .andThen (each_lift (each_perform rfl fun _ => ⟨rfl, rfl⟩)) fun _ => trivial

/-! ## What a pass learns -/

/-- A call of `provision` answers only with a Sandbox that was cleared. -/
theorem provision_clears (command : Command D) (runId : String) (plan : SandboxPlan D) :
    Prog.KeepsOk (readying cleared) (fun _ => cleared s!"sandbox-{runId}")
      (provision command runId plan) := by
  refine Prog.Keeps.mono (fun r hr record hrecord => (hr record hrecord).verified)
    (Prog.Keeps.along (fun l e he s hs => ?_) (fun c b hc s hs => ?_)
      (provision_keeps clears_transfer trivial) (provision_prepares command runId plan))
  · have hsame := preparing_same he s
    exact hs.same hsame.1.attemptStatus hsame.2
  · change Cleared cleared (Engine.hear c b s)
    rw [Engine.hear_aside hc]
    exact hs

/-- T4 for a Run whose Sandbox was cleared. -/
theorem createAttempt_clears (hcleared : cleared s!"sandbox-{runId}") (revision : Int) :
    Prog.KeepsOk (readying cleared) (fun _ => True) (createAttempt runId revision : RunControl D _) := by
  refine looks_then (read_looks _) fun used => ?_
  refine looks_then random_looks fun key => ?_
  refine looks_then random_looks fun bytes => ?_
  refine looks_then (tryRead_looks _) fun epoch => ?_
  refine Prog.KeepsOk.andThen (R := fun _ => True) (keeps_lift (keeps_call ?_ ?_))
    fun committed _ => unready_keepsOk ?_
  · exact fun ambient s hs => hear_readying hs fun package hlaunched => by cases hlaunched
  · intro ambient s hs _
    refine ⟨⟨apply_provided hs.1 (provides_other rfl), hs.2.apply ?_⟩, fun _ _ => trivial⟩
    rintro identity creation hop
    cases hop
    exact hcleared
  · cases committed with
    | Executed created cursor => exact .andThen (keepBearer_unready _ _) fun _ => trivial
    | Replayed cursor recordedAt => trivial

theorem contextAndAttempt_clears (hcleared : cleared s!"sandbox-{runId}")
    (view : RunExecutionView D) (identity : FrozenBindingIdentity D) :
    Prog.KeepsOk (readying cleared) (fun _ => True) (contextAndAttempt runId view identity) := by
  refine unready_then (each_step (prepareRunContext_unready runId)) fun prepared => ?_
  split
  · exact keeps_throw
  · exact unready_keepsOk (concludeInPreparation_unready _ _ _)
  · exact looks_then (verifyPolicyReady_looks _ _) fun _ => createAttempt_clears hcleared _

theorem provisionSandbox_clears (runId taskId : String) (identity : FrozenBindingIdentity D)
    (profile : SandboxProfile) :
    Prog.KeepsOk (readying cleared)
      (fun r => ∀ record, r = .ok record → cleared s!"sandbox-{runId}")
      (provisionSandbox runId taskId identity profile) := by
  refine looks_then (tryRead_looks _) fun _ => ?_
  refine unready_then (each_orElse _ _) fun workspace => ?_
  refine looks_then (tryRead_looks _) fun epoch => ?_
  exact keeps_step (provision_clears _ _ _)

theorem establishAttempt_clears (runId : String) (view : RunExecutionView D) :
    Prog.KeepsOk (readying cleared) (fun _ => True) (establishAttempt runId view) := by
  refine looks_then (read_looks _) fun readiness => ?_
  split
  · exact unready_keepsOk (concludeInPreparation_unready _ _ _)
  · split
    · refine looks_then (bindingProfileIdentity_looks _) fun identity => ?_
      refine looks_then (verifyPolicyReady_looks _ _) fun profile => ?_
      refine Prog.KeepsOk.andThen (provisionSandbox_clears _ _ _ _) fun provisioned hcleared => ?_
      split
      · exact keeps_throw
      · exact unready_keepsOk (concludeInPreparation_unready _ _ _)
      · exact contextAndAttempt_clears (hcleared _ rfl) view identity
    · exact unready_keepsOk (concludeInPreparation_unready _ _ _)

/-- A launch of an Attempt of a Run whose Sandbox was cleared. -/
theorem launch_clears (incarnation : String) (hcleared : cleared s!"sandbox-{runId}")
    (lineage : AttemptLineageView) :
    Prog.KeepsOk (readying cleared) (fun _ => True)
      (launch incarnation runId lineage : RunControl D _) := by
  refine unready_then (each_step (each_ask rfl)) fun semantics => ?_
  split
  · refine looks_then (attachedPlanDigest_looks _) fun digest => ?_
    refine unready_then (bearerOf_unready _) fun held => ?_
    refine unready_then (each_orElse _ _) fun state => ?_
    refine unready_then (call_unready rfl) fun _ => ?_
    refine Prog.KeepsOk.andThen (R := fun _ => True) (keeps_step fun s hs b _ => ⟨?_, trivial⟩)
      fun answer _ => unready_keepsOk (recordLaunch_unready _ _)
    refine hear_readying hs fun package hlaunched => ?_
    obtain rfl := Option.some.inj hlaunched
    exact hcleared
  · exact unready_then (each_step (each_ask rfl)) fun _ => keeps_throw

omit [DigestScheme D] in
/-- The lineage a view shows is of a Run whose Sandbox was cleared. -/
theorem Cleared.viewed (h : Cleared cleared s) {view : RunExecutionView D}
    (hview : runExecutionView runId s.db = .ok (some view)) {lineage : AttemptLineageView}
    (hattempt : view.attempt = some lineage) : cleared s!"sandbox-{runId}" := by
  have hload := runExecutionView_lineage hview
  rw [hattempt] at hload
  have hmem : lineage ∈ lineages runId s.db := by
    rw [loadCurrentLineage_lineages hload]
    exact List.mem_singleton_self _
  obtain ⟨status, session, hlineage, rfl⟩ := mem_lineages hmem
  exact h.attempts _ _ hlineage.status_found

theorem reconcileRun_clears (incarnation : String) (policy : MinRecoveryPolicy) (runId : String) :
    Prog.KeepsOk (readying cleared) (fun _ => True)
      (reconcileRun incarnation policy runId : RunControl D _) := by
  refine Prog.KeepsOk.andThen (R := fun found => ∀ view, found = some view →
    ∀ lineage, view.attempt = some lineage → cleared s!"sandbox-{runId}")
    (keeps_lift (keeps_readStore ?_)) fun found hfound => ?_
  · rintro s hs found hread view rfl lineage hattempt
    exact hs.2.viewed hread hattempt
  split
  · exact fun _ _ => trivial
  · rename_i view
    split
    · split
      · exact establishAttempt_clears _ _
      · rename_i lineage hattempt
        have hcleared := hfound view rfl lineage hattempt
        unfold reconcileAttempt
        split
        · exact unready_keepsOk (decideAfterTerminal_unready _ _ _)
        · split
          · refine unready_then (ensureCurrentBearer_unready _) fun _ => ?_
            exact looks_then (currentLineage_looks _ _) fun refreshed => launch_clears incarnation hcleared refreshed
          · exact unready_keepsOk (reconcileContacted_unready _ _)
    · exact fun _ _ => trivial

end Invariant

/-! ## Whole runs -/

/-- Verifications are the container backend's, with outcomes that meet a condition. -/
def ContainerBacked (meets : ContainerHost → Prop) (_ : RunConfig D) : RunEvent D → Prop
  | .call (.verifySandbox key plan) answer =>
    ∃ host, meets host ∧ answer = verifySandbox host key plan
  | _ => True

/-- Every Sandbox that had a verification whose recorded probes all passed is in `probed`. -/
def InProbed (probed : String → Prop) (_ : RunConfig D) : RunEvent D → Prop
  | .call (.verifySandbox key _) (.ok verification) =>
    (∀ result ∈ verification.probeResults, result.passed = true) → probed key.text
  | _ => True

theorem readying_rules (policy : MinRecoveryPolicy) (probed : String → Prop) :
    (readying probed).Rules (fun _ => True)
      (runMachine (D := D) policy fun op => op.readies = false)
      (fun c e => ContainerBacked ContainerHost.NetworkIsolated c e ∧ InProbed probed c e)
      FreshEngine where
  init s hs := by
    obtain ⟨hinstalled, -, hheard⟩ := hs
    refine ⟨fun id row hrow => ?_, fun id status hstatus => ?_, fun heard hmem => ?_⟩
    · rw [hinstalled.find_none (by decide)] at hrow
      cases hrow
    · rw [hinstalled.find_none (by decide)] at hstatus
      cases hstatus
    · rw [hheard] at hmem
      cases hmem
  spawn p hp := by
    obtain ⟨incarnation, runId, rfl⟩ := hp
    exact (reconcileRun_clears incarnation policy runId).mono fun _ _ => trivial
  allow _ _ _ _ := False.elim
  answer c _ port answer hc id digest hpassed := by
    cases port with
    | verifySandbox key plan =>
      obtain ⟨⟨host, hnet, hanswer⟩, hprobed⟩ := hc
      cases answer with
      | error detail => cases hpassed
      | ok verification =>
        obtain ⟨hall, hsame⟩ := Option.ite_none_right_eq_some.mp hpassed
        obtain ⟨rfl, -⟩ := Prod.mk.inj (Option.some.inj hsame)
        exact hprobed (verifySandbox_probed hanswer.symm hnet hall)
    | _ => cases hpassed
  hear _ _ _ := rfl
  env s s' hs he := by
    obtain ⟨op, ambient, hop, rfl⟩ := he
    exact apply_unready hop hs
  crash s hs := ⟨hs.1, hs.2.same rfl rfl⟩

namespace Sample

/-- A Linux host whose container is as it should be, but for its network interfaces. -/
def containerHost (interfaces : String) : ContainerHost where
  runtime := "podman"
  arch := "x86_64"
  platform := "linux"
  inspectContainer _ := .ok (.ok (.arr [.obj [
    ("State", .obj [("Pid", .integer 7)]),
    ("HostConfig", .obj [("CapDrop", .arr [.str "ALL"]), ("NetworkMode", .str "none")]),
    ("Name", .str "/pantheon-sandbox-sandbox-run"),
    ("Config", .obj [("Image", .str "e")]),
    ("Platform", .str "linux/amd64")]]))
  backendVersion := .ok "podman version 5"
  file _ := .error "not asked"
  procExists _ := true
  status _ := .ok "Name:\tsleep\nSeccomp:\t2\n"
  hostNamespace _ := .ok 1
  containerNamespace _ _ := .ok 2
  nsenterNet _ arguments :=
    if arguments = ["cat", "/proc/net/dev"] then .ok ⟨some 0, interfaces, ""⟩
    else .ok ⟨some 1, "", ""⟩
  mountinfo _ _ := .ok ""

def sandboxKey : SandboxKey := ⟨"sandbox-run", by decide, by decide⟩

/-- The verification on such a host, and whether its recorded probes passed. -/
def verifiedOn (interfaces : String) : Option (Bool × Bool) :=
  (verifySandbox (containerHost interfaces) sandboxKey (sandboxPlan none)).toOption.map fun v =>
    (v.allPassed, v.probeResults.all (·.passed))

theorem verifiedOn_isolated : verifiedOn "lo: 0\n" = some (true, true) := by decide +kernel

theorem verifiedOn_connected : verifiedOn "lo: 0\neth0: 1\n" = some (true, false) := by
  decide +kernel

theorem verifiedOn_some {interfaces : String} {all probed : Bool}
    (h : verifiedOn interfaces = some (all, probed)) :
    ∃ verification, verifySandbox (containerHost interfaces) sandboxKey (sandboxPlan none) =
      .ok verification ∧ verification.allPassed = all ∧
      verification.probeResults.all (·.passed) = probed := by
  obtain ⟨verification, hok, hsame⟩ := Option.map_eq_some_iff.mp h
  refine ⟨verification, ?_, Prod.mk.inj hsame⟩
  cases hverified : verifySandbox (containerHost interfaces) sandboxKey (sandboxPlan none) with
  | error detail => rw [hverified] at hok; cases hok
  | ok other => rw [hverified] at hok; exact congrArg _ (Option.some.inj hok)

theorem isolated_host : (containerHost "lo: 0\n").NetworkIsolated := by
  intro pid result h
  obtain rfl := Except.ok.inj (h : Except.ok _ = _)
  decide +kernel

end Sample

/-- Whatever the outcomes of inspection and probes: a verification of the container backend
    passes only if every recorded probe did; and in every run of passes over that backend a
    Ready Sandbox, an Attempt and a launch are of a Sandbox that had a verification whose
    recorded probes all passed. The network namespace probe passes in all this. -/
theorem launched_only_probed :
    (∀ (host : ContainerHost) (key : SandboxKey) (plan : SandboxPlan D)
      (verification : SandboxVerification), host.NetworkIsolated →
      verifySandbox host key plan = .ok verification → verification.allPassed = true →
      ∀ result ∈ verification.probeResults, result.passed = true) ∧
    ∀ (policy : MinRecoveryPolicy) (probed : String → Prop) (c : RunConfig D),
      Reach (runMachine policy fun op => op.readies = false)
        (fun c e => ContainerBacked ContainerHost.NetworkIsolated c e ∧ InProbed probed c e)
        FreshEngine c →
      (∀ id row, c.shared.db.find .sandboxInstances id = some row → row.phase = .Ready →
        probed id) ∧
      (∀ id status, c.shared.db.find .attemptStatus id = some status →
        probed s!"sandbox-{status.runId}") ∧
      ∀ heard ∈ c.shared.heard, ∀ package, heard.asked = .ensure package →
        probed s!"sandbox-{package.runId}" := by
  refine ⟨fun host key plan verification hnet h => verifySandbox_probed h hnet, ?_⟩
  intro policy probed c hreach
  obtain ⟨hprovided, hcleared⟩ := (readying_rules policy probed).reach hreach
  exact ⟨fun id row hrow => (hprovided id row hrow).ready, hcleared.attempts, hcleared.launched⟩

theorem launched_only_probed_once :
    (∃ verification, verifySandbox (Sample.containerHost "lo: 0\n") Sample.sandboxKey
        (Sample.sandboxPlan none) = .ok verification ∧ verification.allPassed = true ∧
      ∀ result ∈ verification.probeResults, result.passed = true) ∧
    ∀ id row, Sample.installed.find .sandboxInstances id = some row → row.phase = .Ready →
      id = "sandbox-run" := by
  obtain ⟨verification, hok, hall, -⟩ := Sample.verifiedOn_some Sample.verifiedOn_isolated
  obtain ⟨hprobed, hrun⟩ := @launched_only_probed PrefixDigest _ _
  refine ⟨⟨verification, hok, hall, hprobed _ _ _ _ Sample.isolated_host hok hall⟩, ?_⟩
  exact (hrun ⟨1⟩ (· = "sandbox-run") ⟨⟨Sample.installed, [], []⟩, [], []⟩
    (.start ⟨Sample.installed_installed, rfl, rfl⟩)).1

/-- A container with a network interface besides the loopback: the network namespace probe has
    failed and is on record, and the verification passes. -/
theorem network_probe_ignored : ∃ (host : ContainerHost) (verification : SandboxVerification),
    verifySandbox host Sample.sandboxKey (Sample.sandboxPlan none) = .ok verification ∧
    verification.allPassed = true ∧ ∃ result ∈ verification.probeResults, result.passed = false := by
  obtain ⟨verification, hok, hall, hfailed⟩ := Sample.verifiedOn_some Sample.verifiedOn_connected
  refine ⟨_, verification, hok, hall, ?_⟩
  simpa [List.all_eq_false] using hfailed

end Pantheon
