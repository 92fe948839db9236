/-
  What the Run Controller's recovery decision can do to a Run, under any interleaving of its
  passes with the rest of the system.
  A pass that found its Attempt ended concludes the Run as failed once no retry is left. It
  names the revision it read just before, and it does not look at the phase it read with it.
  `committed_candidate_stays`: a Run whose Candidate has committed keeps it, as long as every
  such read still finds its Run Active. `recovery_fails_submitted_run` is the run in which a
  submission lands between the pass's first read and that one.
-/
import Pantheon.Engine.Passes
import Pantheon.Store.Frozen

namespace Pantheon

open Interleave Relational RunControl

variable {D : Type} [DecidableEq D] [DigestScheme D]

/-! ## Committed Candidates -/

/-- The call concludes a Run, which only the Run Controller does. -/
def StoreOp.concludes : StoreOp D → Bool
  | .write (.concludeRun _ _ _) => true
  | _ => false

/-- A Candidate of the Run has committed, and the Run is finishing towards Completed. -/
def HoldsCandidate (runId : String) (digest : D) (d : Db D) : Prop :=
  ∃ status, d.find .runStatus runId = some status ∧ status.phase = .Finalizing ∧
    status.terminalTarget = some .Completed ∧ status.candidateDigest = some digest

/-- Every read of the recovery decision finds its Run Active. -/
def ActiveAtRecovery (c : RunConfig D) : RunEvent D → Prop
  | .tx (.recoveryView runId) _ =>
    ∀ status, c.shared.db.find .runStatus runId = some status → status.phase = .Active
  | _ => True

/-- Statuses stay, and a status that changed has a higher revision. -/
def Moved (s s' : Engine D) : Prop :=
  ∀ id old, s.db.find .runStatus id = some old →
    ∃ new, s'.db.find .runStatus id = some new ∧ (new = old ∨ old.revision < new.revision)

def KeepsCandidates (s s' : Engine D) : Prop :=
  ∀ id digest, HoldsCandidate id digest s.db → HoldsCandidate id digest s'.db

/-- The Run was seen Active at a revision: it is there still, or the revision has passed. -/
def SeenActive (runId : String) (revision : Int) (s : Engine D) : Prop :=
  ∃ status, s.db.find .runStatus runId = some status ∧
    (revision < status.revision ∨ status.revision = revision ∧ status.phase = .Active)

omit [DigestScheme D] in
theorem Moved.refl (s : Engine D) : Moved s s := fun _ old h => ⟨old, h, .inl rfl⟩

variable {s : Engine D} {runId : String} {revision : Int} {op : StoreOp D} {α β : Type}

omit [DigestScheme D] in
theorem Moved.trans {s' s'' : Engine D} (h : Moved s s') (h' : Moved s' s'') : Moved s s'' := by
  intro id old hold
  obtain ⟨mid, hmid, hm⟩ := h id old hold
  obtain ⟨new, hnew, hn⟩ := h' id mid hmid
  refine ⟨new, hnew, ?_⟩
  rcases hm with rfl | hm
  · exact hn
  · rcases hn with rfl | hn
    · exact .inr hm
    · exact .inr (hm.trans hn)

omit [DigestScheme D] in
theorem SeenActive.moved {s' : Engine D} (h : Moved s s') (hs : SeenActive runId revision s) :
    SeenActive runId revision s' := by
  obtain ⟨old, hold, hseen⟩ := hs
  obtain ⟨new, hnew, hmove⟩ := h runId old hold
  refine ⟨new, hnew, ?_⟩
  rcases hmove with rfl | hmove
  · exact hseen
  · refine .inl ?_
    rcases hseen with hpassed | ⟨rfl, -⟩
    · exact hpassed.trans hmove
    · exact hmove

theorem apply_moved (op : StoreOp D) (ambient : Ambient) (s : Engine D) :
    Moved s { s with db := op.apply ambient s.db } := by
  intro id old hold
  obtain ⟨new, hnew, hmove⟩ := apply_runStatus op ambient hold
  refine ⟨new, hnew, ?_⟩
  cases hmove with
  | kept => exact .inl rfl
  | attempted => exact .inr (Int.lt_succ _)
  | submitted => exact .inr (Int.lt_succ _)
  | concluded => exact .inr (Int.lt_succ _)

/-- Only a conclusion at its Run's own revision could take a committed Candidate's Run out of
    Finalizing. -/
theorem apply_keepsCandidates (ambient : Ambient)
    (h : ∀ runId target revision, op = .write (.concludeRun runId target revision) →
      SeenActive runId revision s) : KeepsCandidates s { s with db := op.apply ambient s.db } := by
  rintro id digest ⟨old, hold, hphase, htarget, hdigest⟩
  obtain ⟨new, hnew, hmove⟩ := apply_runStatus op ambient hold
  cases hmove with
  | kept => exact ⟨old, hnew, hphase, htarget, hdigest⟩
  | attempted _ _ _ _ hactive =>
    rw [hphase] at hactive
    cases hactive
  | submitted _ _ hactive =>
    rw [hphase] at hactive
    cases hactive
  | concluded target hop =>
    obtain ⟨status, hstatus, hseen⟩ := h id target old.revision hop
    obtain rfl : old = status := Option.some.inj (hold.symm.trans hstatus)
    rcases hseen with hlt | ⟨-, hactive⟩
    · exact absurd hlt (lt_irrefl _)
    · rw [hphase] at hactive
      cases hactive

theorem not_concludes_keeps (h : op.concludes = false) (ambient : Ambient) (s : Engine D) :
    KeepsCandidates s { s with db := op.apply ambient s.db } := by
  refine apply_keepsCandidates ambient fun _ _ _ hop => ?_
  rw [hop] at h
  cases h

/-- What a pass relies on and grants, for committed Candidates. -/
def candidateContract {α : Type} : Contract (Engine D) (Label D) (Port D) α where
  inv _ := True
  rely _ := Moved
  allow s
    | .recoveryView runId =>
      ∀ status, s.db.find .runStatus runId = some status → status.phase = .Active
    | _ => True
  answer _ _ _ _ := True
  hear := Engine.hear
  grant _ s s' := Moved s s' ∧ KeepsCandidates s s'
  post _ _ := True

theorem candidateContract_lawful (α : Type) : (@candidateContract D _ _ α).Lawful :=
  ⟨fun _ => Moved.refl, fun _ _ _ _ => Moved.trans⟩

/-- Transactions that conclude no Run. -/
def Steady : Conduct (Engine D) (Label D) (Port D) where
  tx _ e := ∀ s, Moved s (e s) ∧ KeepsCandidates s (e s)
  call _ := True

theorem aside_steady {p : Act D α} (h : p.Each Aside) : p.Each Steady := by
  refine h.mono (fun l e he s => ?_) fun _ _ => trivial
  have hfind := State.find_congr (he s).runStatus
  refine ⟨fun id old hold => ⟨old, (hfind id).trans hold, .inl rfl⟩, ?_⟩
  rintro id digest ⟨status, hstatus, hrest⟩
  exact ⟨status, (hfind id).trans hstatus, hrest⟩

theorem prepares_steady {p : Act D α} (h : p.Each Preparing) : p.Each Steady :=
  aside_steady (prepares_aside h)

theorem looks_steady {p : Act D α} (h : p.Each Looking) : p.Each Steady :=
  prepares_steady (looks_prepares h)

theorem call_steady (h : op.concludes = false) : (call op).run.Each Steady :=
  each_lift (each_perform trivial fun ambient s =>
    ⟨apply_moved op ambient s, not_concludes_keeps h ambient s⟩)

omit [DigestScheme D] in
theorem hear_moved (c : Port D β) (b : β) (s : Engine D) : Moved s (Engine.hear c b s) :=
  fun _ old hold => ⟨old, (Engine.hear_db c b s).symm ▸ hold, .inl rfl⟩

/-- Knowledge that outlives moves outlives every steady part of a pass. -/
theorem steady_safe {ε : Type} {J : Engine D → Prop} (hJ : ∀ s s', Moved s s' → J s → J s')
    {p : Act D (Except ε α)} (hp : p.Each Steady) (hs : J s) :
    Safe ((@candidateContract D _ _ (Except ε β)).orFails fun _ => J) p s := by
  refine Safe.of_each (P := Steady) (J := J) (fun l e s' he _ hs' => ⟨trivial, he s', hJ _ _ (he s').1 hs'⟩)
    (fun s' _ c _ _ hs' b => ⟨trivial, hJ _ _ (hear_moved c b s') hs'⟩)
    (fun _ s' s'' hr _ => hJ s' s'' hr) (fun r s' hs' => ?_) hp hs
  cases r with
  | ok a => exact hs'
  | error e => trivial

theorem steady_ends {p : Act D α} (hp : p.Each Steady) (s : Engine D) :
    Safe candidateContract p s :=
  Safe.of_each (P := Steady) (J := fun _ => True) (fun _ _ s' he _ _ => ⟨trivial, he s', trivial⟩)
    (fun _ _ _ _ _ _ _ => ⟨trivial, trivial⟩) (fun _ _ _ _ _ h => h)
    (fun _ _ _ => trivial) hp trivial

/-- A steady part, and then the rest with what outlives it. -/
theorem steady_then {ε : Type} {J : Engine D → Prop} (hJ : ∀ s s', Moved s s' → J s → J s')
    {x : Control ε D α} {f : α → Control ε D β} (hx : x.run.Each Steady) (hs : J s)
    (hf : ∀ a s', J s' → Safe candidateContract (f a).run s') :
    Safe candidateContract (x >>= f).run s :=
  Safe.andThen (candidateContract_lawful _) trivial (steady_safe hJ hx hs) fun a s' _ => hf a s'

theorem seen_then {ε : Type} {x : Control ε D α} {f : α → Control ε D β} (hx : x.run.Each Steady)
    (hs : SeenActive runId revision s)
    (hf : ∀ a s', SeenActive runId revision s' → Safe candidateContract (f a).run s') :
    Safe candidateContract (x >>= f).run s := steady_then (fun _ _ h hs => hs.moved h) hx hs hf

/-- Concluding a Run at a revision at which it was seen Active is safe. -/
theorem conclude_safe {target : RunPhase} {f : Unit → Control RunControllerError D α}
    (hs : SeenActive runId revision s) (hf : ∀ u s', Safe candidateContract (f u).run s') :
    Safe candidateContract (call (.write (.concludeRun runId target revision)) >>= f).run s := by
  refine Safe.andThen (candidateContract_lawful _) (Q := fun _ _ => True) trivial ?_
    fun u s' _ _ => hf u s'
  intro s₁ h₁ _ ambient _
  refine ⟨trivial, fun s₂ h₂ _ _ => ⟨trivial, ⟨apply_moved _ ambient s₂, ?_⟩, ?_⟩⟩
  · refine apply_keepsCandidates ambient ?_
    rintro _ _ _ ⟨rfl, rfl, rfl⟩
    exact (hs.moved h₁).moved h₂
  · intro s₃ _ _
    cases (StoreOp.answer ambient s₂.db (.write (.concludeRun runId target revision))).1 <;> trivial

/-- Reading a Run ends with whatever the view says and outlives moves. -/
theorem view_safe {l : Label D} {Q : Option (RunExecutionView D) → Engine D → Prop}
    (hQ : ∀ s found, (@candidateContract D _ _ β).allow s l →
      runExecutionView runId s.db = .ok found → ∀ s', Moved s s' → Q found s') (s : Engine D) :
    Safe ((@candidateContract D _ _ (Except RunControllerError β)).orFails Q)
      (Control.lift RunControllerError.Store
        (Prog.atomically l fun s => (runExecutionView runId s.db, s))).run s := by
  intro s₁ _ _ hallow
  refine ⟨trivial, ⟨Moved.refl _, fun _ _ h => h⟩, fun s₂ h₂ _ => ?_⟩
  cases hview : runExecutionView runId s₁.db with
  | error e =>
    simp only [hview]
    trivial
  | ok found =>
    simp only [hview]
    exact hQ s₁ found hallow hview s₂ h₂

/-! ## A pass -/

theorem concludeInPreparation_safe (gate : String) (hs : SeenActive runId revision s) :
    Safe candidateContract (concludeInPreparation runId revision gate).run s :=
  conclude_safe hs fun _ _ _ _ _ => trivial

theorem createAttempt_steady (runId : String) (revision : Int) :
    (createAttempt runId revision : RunControl D _).run.Each Steady := by
  refine .andThen (looks_steady (read_looks _)) fun used => ?_
  refine .andThen (looks_steady random_looks) fun key => ?_
  refine .andThen (looks_steady random_looks) fun bytes => ?_
  refine .andThen (looks_steady (tryRead_looks _)) fun epoch => ?_
  refine .andThen (call_steady rfl) fun committed => ?_
  cases committed with
  | Executed created cursor =>
    exact .andThen (aside_steady (keepBearer_aside _ _)) fun _ => trivial
  | Replayed cursor recordedAt => trivial

theorem contextAndAttempt_safe (runId : String) (view : RunExecutionView D)
    (identity : FrozenBindingIdentity D) (hs : SeenActive runId view.revision s) :
    Safe candidateContract (contextAndAttempt runId view identity).run s := by
  refine seen_then (prepares_steady (each_step (prepareRunContext_prepares _))) hs
    fun prepared s' hs' => ?_
  split
  · exact fun _ _ _ => trivial
  · exact concludeInPreparation_safe _ hs'
  · exact steady_ends (.andThen (looks_steady (verifyPolicyReady_looks _ _)) fun _ =>
      createAttempt_steady _ _) s'

theorem establishAttempt_safe (runId : String) (view : RunExecutionView D)
    (hs : SeenActive runId view.revision s) :
    Safe candidateContract (establishAttempt runId view).run s := by
  refine seen_then (looks_steady (read_looks _)) hs fun readiness s₁ h₁ => ?_
  split
  · exact concludeInPreparation_safe _ h₁
  · split
    · refine seen_then (looks_steady (bindingProfileIdentity_looks view)) h₁ fun identity s₂ h₂ => ?_
      refine seen_then (looks_steady (verifyPolicyReady_looks _ _)) h₂ fun profile s₃ h₃ => ?_
      refine seen_then (prepares_steady (provisionSandbox_prepares _ _ _ _)) h₃
        fun provisioned s₄ h₄ => ?_
      split
      · exact fun _ _ _ => trivial
      · exact concludeInPreparation_safe _ h₄
      · exact contextAndAttempt_safe _ _ _ h₄
    · exact concludeInPreparation_safe _ h₁

theorem recordObservation_steady (attemptId : String) (update : ObservationUpdate) :
    (recordObservation attemptId update : RunControl D Unit).run.Each Steady :=
  .andThen (looks_steady (tryRead_looks _)) fun _ => .andThen (call_steady rfl) fun _ => trivial

theorem recorded_steady (attemptId : String) (update : ObservationUpdate) (outcome : RunOutcome) :
    (recordObservation attemptId update >>= fun _ => pure outcome : RunControl D _).run.Each
      Steady := .andThen (recordObservation_steady _ _) fun _ => trivial

theorem launch_steady (incarnation runId : String) (lineage : AttemptLineageView) :
    (launch incarnation runId lineage : RunControl D _).run.Each Steady := by
  refine .andThen (each_step (each_ask trivial)) fun semantics => ?_
  split
  · refine .andThen (looks_steady (attachedPlanDigest_looks _)) fun planDigest => ?_
    refine .andThen (aside_steady (bearerOf_aside _)) fun held => ?_
    refine .andThen (each_orElse _ _) fun state => .andThen (call_steady rfl) fun _ => ?_
    refine .andThen (each_step (each_ask trivial)) fun answer => ?_
    unfold recordLaunch
    split <;> exact recorded_steady _ _ _
  · exact .andThen (each_step (each_ask trivial)) fun _ => trivial

/-- The recovery decision is safe because its own read may count on finding the Run Active. -/
theorem decideAfterTerminal_safe (policy : MinRecoveryPolicy) (runId attemptId : String)
    (s : Engine D) : Safe candidateContract (decideAfterTerminal policy runId attemptId).run s := by
  refine steady_then (J := fun _ => True) (fun _ _ _ h => h) (looks_steady (read_looks _)) trivial
    fun used s₁ _ => ?_
  split
  · exact fun _ _ _ => trivial
  · refine Safe.andThen (candidateContract_lawful _) trivial
      (Q := fun found s' => ∀ view, found = some view → SeenActive runId view.revision s')
      (view_safe ?_ s₁) fun found s₂ _ h₂ => ?_
    · rintro s₂ _ hallow hview s₃ h₃ view rfl
      obtain ⟨status, hstatus, -, hrevision⟩ := runExecutionView_status hview
      exact SeenActive.moved h₃ ⟨status, hstatus, .inr ⟨hrevision.symm, hallow status hstatus⟩⟩
    · cases found with
      | none => exact fun _ _ _ => trivial
      | some view => exact conclude_safe (h₂ view rfl) fun _ _ _ _ _ => trivial

theorem reconcileContacted_safe (policy : MinRecoveryPolicy) (lineage : AttemptLineageView)
    (s : Engine D) : Safe candidateContract (reconcileContacted policy lineage).run s := by
  have hrecord : ∀ update s', Safe candidateContract (recordObservation lineage.attempt.id update >>=
      fun _ => decideAfterTerminal policy lineage.attempt.runId lineage.attempt.id :
        RunControl D _).run s' := fun update s' =>
    steady_then (J := fun _ => True) (fun _ _ _ h => h) (recordObservation_steady _ _) trivial
      fun _ s'' _ => decideAfterTerminal_safe _ _ _ s''
  refine steady_then (J := fun _ => True) (fun _ _ _ h => h) (each_step (each_ask trivial)) trivial
    fun answer s₁ _ => ?_
  split
  · exact steady_ends (recorded_steady _ _ _) s₁
  · exact steady_ends (recorded_steady _ _ _) s₁
  · exact steady_ends (recorded_steady _ _ _) s₁
  · exact hrecord _ s₁
  · exact hrecord _ s₁

theorem reconcileRun_safe (incarnation : String) (policy : MinRecoveryPolicy) (runId : String)
    (s : Engine D) : Safe candidateContract (reconcileRun incarnation policy runId).run s := by
  refine Safe.andThen (candidateContract_lawful _) trivial
    (Q := fun found s' => ∀ view, found = some view → view.phase = .Active →
      SeenActive runId view.revision s') (view_safe ?_ s) fun found s₁ _ h₁ => ?_
  · rintro s₂ _ _ hview s₃ h₃ view rfl hactive
    obtain ⟨status, hstatus, hphase, hrevision⟩ := runExecutionView_status hview
    exact SeenActive.moved h₃ ⟨status, hstatus, .inr ⟨hrevision.symm, hphase ▸ hactive⟩⟩
  · cases found with
    | none => exact fun _ _ _ => trivial
    | some view =>
      dsimp only
      split
      · rename_i hactive
        split
        · exact establishAttempt_safe _ _ (h₁ view rfl hactive)
        · unfold reconcileAttempt
          split
          · exact decideAfterTerminal_safe _ _ _ s₁
          · split
            · exact steady_ends (.andThen (aside_steady (ensureCurrentBearer_aside _)) fun _ =>
                .andThen (looks_steady (currentLineage_looks _ _)) fun _ => launch_steady _ _ _) s₁
            · exact reconcileContacted_safe _ _ s₁
      · exact fun _ _ _ => trivial

/-! ## Every run -/

theorem candidateContract_governs (policy : MinRecoveryPolicy) (others : StoreOp D → Prop)
    (init : Engine D → Prop) :
    candidateContract.Governs (runMachine policy others) ActiveAtRecovery init where
  lawful := candidateContract_lawful _
  init _ _ := trivial
  spawn := by
    rintro c _ _ ⟨incarnation, runId, rfl⟩ _
    exact reconcileRun_safe incarnation policy runId c.shared
  allow c l others h := by
    cases l with
    | recoveryView runId => exact h
    | call => trivial
    | read => trivial
    | memory => trivial
  share _ _ _ _ _ hgrant _ _ := hgrant.1
  answer _ _ _ _ _ := trivial
  hear c b s := ⟨rfl, fun _ => hear_moved c b s⟩
  env := by
    rintro c _ _ ⟨op, ambient, -, rfl⟩ _
    exact ⟨trivial, fun _ _ => apply_moved op ambient c.shared⟩
  crash s _ := ⟨trivial, fun _ => Moved.refl s⟩

/-- A committed Candidate stays: whatever the passes, the ports and the other calls do, a Run
    that was once finishing towards Completed with a Candidate still is. -/
theorem committed_candidate_stays {policy : MinRecoveryPolicy} {init : Engine D → Prop}
    {c : RunConfig D}
    (h : Reach (runMachine policy fun op => op.concludes = false) ActiveAtRecovery init c)
    {s : Engine D} (hs : s ∈ c.past) {runId : String} {digest : D}
    (hheld : HoldsCandidate runId digest s.db) : HoldsCandidate runId digest c.shared.db := by
  have hpast := reach_past (candidateContract_governs policy _ init) (T := KeepsCandidates)
    (fun _ _ _ h h' id digest hid => h' id digest (h id digest hid))
    (fun _ _ _ hgrant => hgrant.2) (fun x b s _ _ hid => (Engine.hear_db x b s).symm ▸ hid)
    (fun _ _ _ hid => hid) ?_ h
  · exact hpast s hs runId digest hheld
  · rintro s₁ _ ⟨op, ambient, hop, rfl⟩
    exact not_concludes_keeps hop ambient s₁

/-! ## A sample race -/

namespace Sample

/-- A pass over the sample's Run, without retries. -/
def pass : Act PrefixDigest (Except RunControllerError RunOutcome) :=
  (reconcileRun "i" ⟨1⟩ "run").run

/-- The pass after its first read, and after the submission that then lands. -/
def readsBefore (d d' : Store) : Engine PrefixDigest :=
  ((pass.acts Engine.hear (answers .Absent 48) 1 ⟨d, [], []⟩).1.acts Engine.hear (answers .Absent 48) 8
    ⟨d', [], []⟩).2

def holdsCandidate (d : Store) : Bool :=
  (d.find .runStatus "run").any fun r => r.phase == .Finalizing &&
    r.terminalTarget == some .Completed && r.candidateDigest == some candidate.digest

theorem holds_of_holdsCandidate {d : Store} (h : holdsCandidate d = true) :
    HoldsCandidate "run" candidate.digest d := by
  obtain ⟨r, hr, hfacts⟩ := (Option.any_eq_true _ _).mp h
  simp only [Bool.and_eq_true, beq_iff_eq] at hfacts
  exact ⟨r, hr, hfacts.1.1, hfacts.1.2, hfacts.2⟩

/-- A submission that lands after the pass has read its Run commits, and the pass still ends
    with the Run failed. -/
theorem submission_lost : ∃ d d', runAll installed contacted = some d ∧
    runAll d [submit] = some d' ∧ holdsCandidate d' = true ∧
      ∃ status, (readsBefore d d').db.find .runStatus "run" = some status ∧ status.phase = .Failed := by
  have hrun : ((runAll installed contacted).any fun d => submits none d &&
      (holdsCandidate (submitWrites false d).2 &&
        ((readsBefore d (submitWrites false d).2).db.find .runStatus "run").any fun r =>
          r.phase == .Failed)) = true := by decide +kernel
  obtain ⟨d, hd, hrest⟩ := (Option.any_eq_true _ _).mp hrun
  simp only [Bool.and_eq_true, Option.any_eq_true, beq_iff_eq] at hrest
  obtain ⟨hsubmits, hholds, hfailed⟩ := hrest
  exact ⟨d, _, hd, runAll_submit (spec_stored hd) (fun _ h => by cases h) hsubmits, hholds, hfailed⟩

theorem submit_concludes : ∀ call ∈ [submit], call.2.concludes = false := by
  simp [submit, StoreOp.concludes]

theorem contacted_concludes : ∀ call ∈ contacted, call.2.concludes = false := by
  simp [contacted, attached, dispatched, planned, materialize, call, StoreOp.concludes]

/-- The installation, a process that has just started, and the calls up to launch contact. -/
theorem reach_contacted (policy : MinRecoveryPolicy)
    (cond : RunConfig PrefixDigest → RunEvent PrefixDigest → Prop)
    (hcond : ∀ c s, cond c (.env s)) {d : Store} (hd : runAll installed contacted = some d) :
    ∃ past, Reach (runMachine policy fun op => op.concludes = false) cond FreshEngine
      ⟨⟨d, [], []⟩, past, []⟩ := by
  have hstart : Reach (runMachine policy fun op => op.concludes = false) cond FreshEngine
      ⟨⟨installed, [], []⟩, [], []⟩ := .start ⟨installed_installed, rfl, rfl⟩
  exact reach_runAll hcond contacted_concludes hd hstart

end Sample

/-- A Candidate commits, and the same submission is made once more: it is still there. -/
theorem committed_candidate_stays_sample : ∃ d' : Sample.Store,
    HoldsCandidate "run" Sample.candidate.digest (Sample.submit.2.apply (Sample.ambient 'm') d') := by
  obtain ⟨d, d', hd, hd', hholds, -⟩ := Sample.submission_lost
  have hcond : ∀ (c : RunConfig PrefixDigest) s, ActiveAtRecovery c (.env s) := fun _ _ => trivial
  obtain ⟨past, hcontacted⟩ := Sample.reach_contacted ⟨1⟩ ActiveAtRecovery hcond hd
  obtain ⟨past', hsubmitted⟩ := reach_runAll hcond Sample.submit_concludes hd' hcontacted
  have hagain := hsubmitted.step (.env _ ⟨Sample.submit.2, Sample.ambient 'm', rfl, rfl⟩) trivial
  exact ⟨d', committed_candidate_stays hagain List.mem_cons_self (Sample.holds_of_holdsCandidate hholds)⟩

/-- A submission that lands between a pass's read of the Run and its inspection is lost: the
    recovery decision reads the new revision and fails the Run under it. -/
theorem recovery_fails_submitted_run :
    ∃ (c : RunConfig PrefixDigest) (s : Engine PrefixDigest) (digest : PrefixDigest),
      Reach (runMachine ⟨1⟩ fun op => op.concludes = false) (fun _ _ => True) FreshEngine c ∧
      s ∈ c.past ∧ HoldsCandidate "run" digest s.db ∧
      ∃ status, c.shared.db.find .runStatus "run" = some status ∧ status.phase = .Failed := by
  obtain ⟨d, d', hd, hd', hholds, status, hstatus, hfailed⟩ := Sample.submission_lost
  obtain ⟨past, hcontacted⟩ :=
    Sample.reach_contacted ⟨1⟩ (fun _ _ => True) (fun _ _ => trivial) hd
  have hspawned := hcontacted.step (.spawn Sample.pass ⟨"i", "run", rfl⟩) trivial
  obtain ⟨past₁, -, hread⟩ := hspawned.does (.acts (Sample.answers .Absent 48) 1 _ _)
    (fun _ _ _ => trivial) (fun _ _ _ _ => trivial)
  obtain ⟨past₂, hsubmitted⟩ :=
    reach_runAll (fun _ _ => trivial) Sample.submit_concludes hd' hread
  obtain ⟨past₃, hpast, hended⟩ := hsubmitted.does (.acts (Sample.answers .Absent 48) 8 _ _)
    (fun _ _ _ => trivial) (fun _ _ _ _ => trivial)
  refine ⟨_, ⟨d', [], []⟩, Sample.candidate.digest, hended, ?_, Sample.holds_of_holdsCandidate hholds,
    status, hstatus, hfailed⟩
  rcases List.mem_cons.mp (hpast _ List.mem_cons_self) with hlast | hpast
  · -- the last state is not the submitted one: the Run is not finishing there
    obtain ⟨held, hheld, hphase, -⟩ := Sample.holds_of_holdsCandidate hholds
    have hsame : (Sample.readsBefore d d').db = d' := (congrArg Engine.db hlast).symm
    rw [hsame, hheld] at hstatus
    obtain rfl := Option.some.inj hstatus
    rw [hphase] at hfailed
    cases hfailed
  · exact hpast

end Pantheon
