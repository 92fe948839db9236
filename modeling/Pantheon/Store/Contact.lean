/-
  Launch contact (T4b) among the other calls on an Attempt.
  `launch_contact_current`: a call that goes through for a credential revision found the
  Attempt current under an Active Run, with its session ACTIVE, in the generation in force and
  at that revision, and the session keeps that verifier. A call that finds the marker already
  set answers without looking at any of this, so the result needs the marker to be unset or to
  be the call's own; `contact_with_stale_credential` is what happens otherwise.
-/
import Pantheon.Store.Attempts
import Pantheon.Store.Frozen

namespace Pantheon

open Relational

variable {D : Type} [DecidableEq D]

/-! ## Sessions belong to the generation in force -/

variable {d d' : Db D} {runId attemptId epoch : String} {revision expectedStatus : Int} {u : Unit}

/-- T4 opens the session in the generation in force. -/
theorem applyAttemptCreation_session {c : AttemptCreation D} {r : AttemptCreated}
    (h : (applyAttemptCreation c).Commits d r d') :
    ∃ system, d.find .systemState () = some system ∧
      ∀ id, d'.find .agentControlSessions id = if c.sessionId = id then
        some ⟨c.attemptId, system.restoreGeneration, 1, c.credentialVerifier, none, .ACTIVE,
          none, none⟩ else d.find .agentControlSessions id := by
  obtain ⟨_, -, h⟩ := Writer.guard_then h
  have h := Writer.read_then h
  obtain ⟨generation, d₀, hgeneration, h⟩ := Writer.commits_bind.mp h
  obtain ⟨system, hsystem, hanswer⟩ := fetch_then hgeneration
  obtain ⟨rfl, rfl⟩ := Writer.commits_pure.mp hanswer
  obtain ⟨d₁, hattempt, h⟩ := insert_then h
  obtain ⟨d₂, hstatus, h⟩ := insert_then h
  obtain ⟨d₃, hsession, h⟩ := insert_then h
  obtain ⟨d₄, old, hupdate, h⟩ := update_then h
  obtain ⟨-, rfl⟩ := Writer.commits_pure.mp h
  refine ⟨system, hsystem, fun id => ?_⟩
  rw [State.find_congr (hupdate.others _ (by decide)), (State.insert_ok hsession).2.2.2.2.2.1,
    State.find_congr ((State.insert_ok hstatus).2.2.2.2.2.2 _ (by decide)),
    State.find_congr ((State.insert_ok hattempt).2.2.2.2.2.2 _ (by decide))]

/-- Every session is of the generation in force. -/
def SessionsCurrent (d : Db D) : Prop :=
  ∀ id session, d.find .agentControlSessions id = some session →
    ∃ system, d.find .systemState () = some system ∧
      session.restoreGeneration = system.restoreGeneration

variable [DigestScheme D]

theorem SessionMove.restoreGeneration {op : StoreOp D} {old new : AgentControlSession D}
    (h : SessionMove op d old new) : new.restoreGeneration = old.restoreGeneration := by
  cases h <;> rfl

theorem apply_sessionsCurrent (op : StoreOp D) (ambient : Ambient) (h : SessionsCurrent d) :
    SessionsCurrent (op.apply ambient d) := by
  intro id session hsession
  cases hold : d.find .agentControlSessions id with
  | some old =>
    obtain ⟨new, hnew, hmove⟩ := apply_session op ambient hold
    obtain rfl := Option.some.inj (hnew.symm.trans hsession)
    obtain ⟨system, hsystem, hgeneration⟩ := h id old hold
    exact ⟨system, apply_frozen op ambient (by decide) hsystem,
      hmove.restoreGeneration.trans hgeneration⟩
  | none =>
    -- Only T4 opens sessions.
    obtain ⟨r, d₁, hc, hinserts, hnew, -⟩ := apply_row_new (by decide) hsession hold
    cases op with
    | command identity mutation =>
      cases mutation with
      | createAttempt creation =>
        obtain ⟨system, hsystem, hsessions⟩ := applyAttemptCreation_session hc
        refine ⟨system, apply_frozen _ ambient (by decide) hsystem, ?_⟩
        rw [hsessions, hold] at hnew
        split at hnew
        · exact congrArg AgentControlSession.restoreGeneration (Option.some.inj hnew).symm
        · cases hnew
      | _ => exact absurd hinserts (of_decide_eq_true rfl)
    | write plain => cases plain <;> exact absurd hinserts (of_decide_eq_true rfl)

theorem reachable_sessionsCurrent (h : Reachable d) : SessionsCurrent d := by
  obtain ⟨d₀, hinstalled, hrun⟩ := h
  refine hrun.invariant (P := SessionsCurrent) (fun id session hsession => ?_)
    fun _ op ambient he _ => apply_sessionsCurrent op ambient he
  rw [hinstalled.find_none (by decide)] at hsession
  cases hsession

/-! ## What T4b stands for -/

/-- The Attempt is current under an Active Run, and its session is ACTIVE in the generation in
    force with this credential. -/
structure ContactAuthority (d : Db D) (runId attemptId sessionId : String) (revision : Int)
    (verifier : D) : Prop where
  attempt : ∃ attempt, d.find .attempts attemptId = some attempt ∧ attempt.runId = runId
  run : ∃ status, d.find .runStatus runId = some status ∧ status.phase = .Active ∧
    status.currentAttemptId = some attemptId
  session : ∃ session system, d.find .agentControlSessions sessionId = some session ∧
    session.attemptId = attemptId ∧ session.state = .ACTIVE ∧
    d.find .systemState () = some system ∧
    session.restoreGeneration = system.restoreGeneration ∧
    session.credentialRevision = revision ∧ session.credentialHash = verifier

/-- The tables that speak of it. -/
def authorityTables : List TableName :=
  [.attempts, .runStatus, .agentControlSessions, .systemState]

omit [DigestScheme D] in
theorem ContactAuthority.congr {sessionId : String} {verifier : D}
    (h : ContactAuthority d runId attemptId sessionId revision verifier)
    (hsame : ∀ i ∈ authorityTables, d'.table i = d.table i) :
    ContactAuthority d' runId attemptId sessionId revision verifier := by
  obtain ⟨hattempt, hrun, hsession⟩ := h
  refine ⟨?_, ?_, ?_⟩
  · rwa [State.find_congr (hsame .attempts (by decide))]
  · rwa [State.find_congr (hsame .runStatus (by decide))]
  · rwa [State.find_congr (hsame .agentControlSessions (by decide)),
      State.find_congr (hsame .systemState (by decide))]

omit [DigestScheme D] in
theorem currentUnderActive_iff :
    currentUnderActive runId d = some (some attemptId) ↔
      ∃ status, d.find .runStatus runId = some status ∧ status.phase = .Active ∧
        status.currentAttemptId = some attemptId := by
  simp [currentUnderActive, Option.map_eq_some_iff, Option.filter_eq_some_iff, and_assoc]

omit [DigestScheme D] in
/-- The current Attempt of a Run is one of its own. -/
theorem AttemptsNumbered.current_attempt (h : AttemptsNumbered d) {status : RunStatus D}
    (hstatus : d.find .runStatus runId = some status)
    (hcurrent : status.currentAttemptId = some attemptId) :
    ∃ attempt, d.find .attempts attemptId = some attempt ∧ attempt.runId = runId := by
  have hlast := h.current runId status hstatus
  rw [hcurrent] at hlast
  obtain ⟨⟨id, attempt⟩, hmem, rfl⟩ := Option.map_eq_some_iff.mp hlast.symm
  obtain ⟨hrow, hrun⟩ := List.mem_filter.mp (List.mem_of_getLast? hmem)
  exact ⟨attempt, State.mem_rows.mp hrow, by simpa using hrun⟩

omit [DigestScheme D] in
/-- A contact that was not there before passed the guards. -/
theorem applyLaunchContact_guarded {ambient : Ambient} {status : AttemptStatus}
    (h : (applyLaunchContact ambient runId attemptId epoch expectedStatus revision).Commits d u d')
    (hstatus : d.find .attemptStatus attemptId = some status)
    (huncontacted : status.launchContactState = .NotContacted) :
    ∃ u, (launchContactGuards runId attemptId revision).Commits d u d := by
  obtain ⟨old, hold, h⟩ := fetch_then h
  obtain rfl := Option.some.inj (hold.symm.trans hstatus)
  obtain ⟨-, h⟩ := Writer.ensure_then h
  rw [if_neg (by rw [huncontacted]; exact fun hn => nomatch hn)] at h
  obtain ⟨u, hguards, -⟩ := Writer.guard_then h
  exact ⟨u, hguards⟩

omit [DigestScheme D] in
/-- The guards of T4b look at the Run and at the session. -/
theorem launchContactGuards_commits
    (h : (launchContactGuards runId attemptId revision).Commits d u d') :
    currentUnderActive runId d = some (some attemptId) ∧
      ∃ sessionId session system, d.find .agentControlSessions sessionId = some session ∧
        session.attemptId = attemptId ∧ session.state = .ACTIVE ∧
        d.find .systemState () = some system ∧
        session.restoreGeneration = system.restoreGeneration ∧
        session.credentialRevision = revision := by
  have h := Writer.read_then h
  obtain ⟨-, h⟩ := Writer.ensure_then h
  obtain ⟨hcurrent, h⟩ := Writer.ensure_then h
  have h := Writer.read_then h
  have h := find_then h
  obtain ⟨found, hfound, h⟩ := Writer.require_then h
  obtain ⟨hrevision, -⟩ := Writer.commits_ensure.mp h
  refine ⟨?_, ?_⟩
  · obtain ⟨current, hread, hid⟩ := Option.bind_eq_some_iff.mp hcurrent
    exact hread.trans (congrArg some hid)
  · obtain ⟨⟨sessionId, session⟩, hselected, rfl⟩ := Option.map_eq_some_iff.mp hfound
    obtain ⟨hsession, hlive⟩ := Option.filter_eq_some_iff.mp hselected
    obtain ⟨hrow, hattempt⟩ := sessionOf_iff.mp hsession
    simp only [Bool.and_eq_true, beq_iff_eq] at hlive
    obtain ⟨system, hsystem, hgeneration⟩ := Option.map_eq_some_iff.mp hlive.2.symm
    exact ⟨sessionId, session, system, hrow, hattempt, hlive.1, hsystem, hgeneration.symm, hrevision⟩

/-- The marker, if it is set already, was set for this credential revision and for a Run that
    is still Active for this Attempt: the call repeats one whose answer was lost. -/
def RepeatsOwnContact (d : Db D) (runId attemptId : String) (revision : Int) : Prop :=
  Contacted d attemptId →
    currentUnderActive runId d = some (some attemptId) ∧
    ∀ sessionId session, d.find .agentControlSessions sessionId = some session →
      session.attemptId = attemptId → session.credentialRevision = revision

omit [DigestScheme D] in
/-- A live Attempt's session is ACTIVE. -/
theorem LineagesSound.active (h : LineagesSound d) {attempt : Attempt} {status : AttemptStatus}
    (hattempt : d.find .attempts attemptId = some attempt)
    (hstatus : d.find .attemptStatus attemptId = some status) (hlive : status.terminal = false) :
    ∃ sessionId session, Lineage d attemptId status sessionId session ∧ session.state = .ACTIVE := by
  obtain ⟨found, sessionId, session, hlineage, -, hagree, -⟩ := h attemptId attempt hattempt
  obtain rfl := Option.some.inj (hlineage.status_found.symm.trans hstatus)
  exact ⟨sessionId, session, hlineage, hagree.mp hlive⟩

/-- What a call of T4b that goes through has found. -/
theorem applyLaunchContact_authority (h : Reachable d) {ambient : Ambient}
    (hrepeats : RepeatsOwnContact d runId attemptId revision)
    (hc : (applyLaunchContact ambient runId attemptId epoch expectedStatus revision).Commits d u d') :
    ∃ sessionId verifier, ContactAuthority d runId attemptId sessionId revision verifier := by
  obtain ⟨hnumbered, hlineages⟩ := reachable_attempts h
  obtain ⟨status, hstatus, -, hlive, ⟨hcontact, -⟩ | ⟨huncontacted, -, -⟩⟩ :=
    applyLaunchContact_commits hc
  · obtain ⟨hcurrent, hcredential⟩ := hrepeats ⟨status, hstatus, hcontact⟩
    obtain ⟨run, hrun, hphase, hpointer⟩ := currentUnderActive_iff.mp hcurrent
    obtain ⟨attempt, hattempt, howner⟩ := hnumbered.current_attempt hrun hpointer
    obtain ⟨sessionId, session, hlineage, hactive⟩ := hlineages.active hattempt hstatus hlive
    obtain ⟨system, hsystem, hgeneration⟩ :=
      reachable_sessionsCurrent h sessionId session hlineage.session_found
    exact ⟨sessionId, session.credentialHash, ⟨attempt, hattempt, howner⟩,
      ⟨run, hrun, hphase, hpointer⟩, session, system, hlineage.session_found,
      hlineage.session_attempt, hactive, hsystem, hgeneration,
      hcredential sessionId session hlineage.session_found hlineage.session_attempt, rfl⟩
  · obtain ⟨_, hguards⟩ := applyLaunchContact_guarded hc hstatus huncontacted
    obtain ⟨hcurrent, sessionId, session, system, hsession, hbound, hactive, hsystem, hgeneration,
      hrevision⟩ := launchContactGuards_commits hguards
    obtain ⟨run, hrun, hphase, hpointer⟩ := currentUnderActive_iff.mp hcurrent
    exact ⟨sessionId, session.credentialHash, hnumbered.current_attempt hrun hpointer,
      ⟨run, hrun, hphase, hpointer⟩, session, system, hsession, hbound, hactive, hsystem,
      hgeneration, hrevision, rfl⟩

omit [DigestScheme D] in
/-- After a call of T4b that went through, the Attempt is contacted. -/
theorem applyLaunchContact_contacted {ambient : Ambient}
    (h : (applyLaunchContact ambient runId attemptId epoch expectedStatus revision).Commits d u d') :
    Contacted d' attemptId := by
  obtain ⟨status, hstatus, -, -, ⟨hcontact, rfl⟩ | ⟨-, -, hstatuses⟩⟩ := applyLaunchContact_commits h
  · exact ⟨status, hstatus, hcontact⟩
  · exact ⟨_, (hstatuses attemptId).trans (if_pos rfl), rfl⟩

/-- In every reachable state, a call of T4b that goes through for a credential revision, and
    that does not find another call's contact, has the Attempt current under its Active Run
    and its session ACTIVE in the generation in force at that revision, before and after it.
    The session holds that revision and its verifier in every later state. -/
theorem launch_contact_current {d : Db D} (h : Reachable d) {ambient : Ambient}
    {runId attemptId epoch : String} {expectedStatus revision : Int}
    (hrepeats : RepeatsOwnContact d runId attemptId revision)
    (hok : (StoreOp.answer ambient d
      (.write (.markLaunchContact runId attemptId epoch expectedStatus revision))).1 = .ok ()) :
    ∃ d' sessionId verifier,
      d' = (StoreOp.write (.markLaunchContact runId attemptId epoch expectedStatus
        revision)).apply ambient d ∧
      ContactAuthority d runId attemptId sessionId revision verifier ∧
      ContactAuthority d' runId attemptId sessionId revision verifier ∧
      ∀ later, Run.Steps anyStep d' later → Sealed later attemptId sessionId revision verifier := by
  have hc : (applyLaunchContact ambient runId attemptId epoch expectedStatus revision).Commits d ()
      ((StoreOp.write (.markLaunchContact runId attemptId epoch expectedStatus
        revision)).apply ambient d) := write_commits hok
  obtain ⟨sessionId, verifier, hbefore⟩ := applyLaunchContact_authority h hrepeats hc
  have hunwritten : ∀ i ∈ authorityTables,
      i ∉ attemptEventAccess.inserts ∧ i ∉ attemptEventAccess.updates := by decide
  have hafter := hbefore.congr fun i hi =>
    hc.within.same i (hunwritten i hi).1 (hunwritten i hi).2
  refine ⟨_, sessionId, verifier, rfl, hbefore, hafter, fun later hrun => ?_⟩
  refine steps_sealed hrun ?_
  obtain ⟨status, hstatus, hcontact⟩ := applyLaunchContact_contacted hc
  obtain ⟨session, _, hsession, hbound, -, -, -, hrevision, hverifier⟩ := hafter.session
  exact ⟨status, session, ⟨hstatus, hsession, hbound⟩, hcontact, hrevision, hverifier⟩

namespace Sample

def rekey (c : Char) (verifier : PrefixDigest) (expected : Int) :
    Ambient × StoreOp PrefixDigest :=
  (ambient c, .write (.rekeyAgentControlSession "attempt" verifier expected))

def contact (c : Char) (revision : Int) : Ambient × StoreOp PrefixDigest :=
  (ambient c, .write (.markLaunchContact "run" "attempt" "i" 1 revision))

/-- The Run with an Attempt that nobody has contacted. -/
def attempted : List (Ambient × StoreOp PrefixDigest) :=
  attached ++ [call 'j' (.createAttempt attempt)]

/-- One controller rekeys the session and makes contact with the new credential; another one
    then asks for contact with the first, and goes through as well. -/
theorem contact_twice : ∃ d ∈ runAll installed (attempted ++ [rekey 'k' ⟨[2]⟩ 1]),
    (∃ s ∈ d.find .attemptStatus "attempt", s.launchContactState = .NotContacted) ∧
    ∃ d' ∈ runAll d [contact 'l' 2], ∃ d'' ∈ runAll d' [contact 'm' 1],
      ∃ s ∈ d''.find .agentControlSessions "session",
        s.attemptId = "attempt" ∧ s.credentialRevision = 2 := by
  decide +kernel

/-- A contact among the calls of a run went through. -/
theorem contact_answered {d d' : Store} {c : Char} (h : runAll d [contact c revision] = some d') :
    ((contact c revision).2.answer (contact c revision).1 d).1 = .ok () := by
  obtain ⟨_, hanswer, -⟩ := fresh_answered (runAll_cons h).1
  exact hanswer

end Sample

/-- The second controller's contact, with the rekeyed credential. -/
theorem launch_contact_current_rekeyed : ∃ (d d' : Sample.Store) (sessionId : String)
    (verifier : PrefixDigest), RepeatsOwnContact d "run" "attempt" 2 ∧
    ContactAuthority d' "run" "attempt" sessionId 2 verifier := by
  obtain ⟨d, hd, ⟨found, hfound, huncontacted⟩, d', hd', -⟩ := Sample.contact_twice
  have hrepeats : RepeatsOwnContact d "run" "attempt" 2 := by
    rintro ⟨status, hstatus, hcontact⟩
    obtain rfl := Option.some.inj (hstatus.symm.trans hfound)
    cases huncontacted.symm.trans hcontact
  obtain ⟨_, sessionId, verifier, -, -, hafter, -⟩ := launch_contact_current
    (Sample.reachable_of_runAll hd) hrepeats (Sample.contact_answered hd')
  exact ⟨d, _, sessionId, verifier, hrepeats, hafter⟩

/-- A controller is told that it may deliver credential revision 1 to an Attempt whose session
    is at revision 2: another controller rekeyed it and made contact in between. -/
theorem contact_with_stale_credential : ∃ (d : Sample.Store) (session : AgentControlSession PrefixDigest),
    Reachable d ∧ ((Sample.contact 'm' 1).2.answer (Sample.contact 'm' 1).1 d).1 = .ok () ∧
    ((Sample.contact 'm' 1).2.apply (Sample.contact 'm' 1).1 d).find .agentControlSessions "session"
      = some session ∧ session.attemptId = "attempt" ∧ session.credentialRevision = 2 := by
  obtain ⟨d, hd, -, d', hd', d'', hd'', session, hsession, hrevision⟩ := Sample.contact_twice
  obtain rfl := runAll_one hd''
  exact ⟨d', session, ⟨_, Sample.installed_installed, runAll_steps (runAll_steps .refl hd) hd'⟩,
    Sample.contact_answered hd'', hsession, hrevision⟩

end Pantheon
