/-
  What one call of the store can do to a Run and to an Attempt, whichever call it is.
  `apply_runStatus`, `apply_attempts` and `apply_attemptStatus` take a step apart once;
  everything that holds of Runs and Attempts along a run of the store follows from them.
-/
import Pantheon.Store.Machine

namespace Pantheon

open Relational

variable {D : Type} [DecidableEq D] [DigestScheme D]

/-! ## Runs -/

/-- What a step did to the status of a Run that was there. -/
inductive RunMove (op : StoreOp D) (id : String) (old : RunStatus D) : RunStatus D → Prop where
  | kept : RunMove op id old old
  | attempted (identity : Command D) (creation : AttemptCreation D)
      (hop : op = .command identity (.createAttempt creation)) (hrun : creation.runId = id)
      (hactive : old.phase = .Active) :
    RunMove op id old
      { old with currentAttemptId := some creation.attemptId, revision := old.revision + 1 }
  | submitted (submission : CandidateSubmission D) (hop : op = .write (.submitCandidate submission))
      (hactive : old.phase = .Active) :
    RunMove op id old
      { old.submitted submission.candidate.digest with revision := old.revision + 1 }
  | concluded (target : RunPhase) (hop : op = .write (.concludeRun id target old.revision))
      (htarget : target = .Failed ∨ target = .Cancelled) :
    RunMove op id old { old.concluded target with revision := old.revision + 1 }

variable {op : StoreOp D} {id : String} {old new : RunStatus D} {d : Db D} {ambient : Ambient}
  {attempt : Attempt}

omit [DecidableEq D] in
theorem RunMove.taskId (h : RunMove op id old new) : new.taskId = old.taskId := by
  cases h <;> rfl

omit [DecidableEq D] in
/-- No move brings a terminal Run back. -/
theorem RunMove.live (h : RunMove op id old new) (hlive : new.phase.isNonterminal = true) :
    old.phase.isNonterminal = true := by
  cases h with
  | kept => exact hlive
  | attempted => exact hlive
  | submitted _ _ hactive =>
    rw [hactive]
    rfl
  | concluded target _ htarget => rcases htarget with rfl | rfl <;> cases hlive

omit [DecidableEq D] in
/-- Only `concludeRun` ends a Run. -/
theorem RunMove.ended (h : RunMove op id old new) (hlive : old.phase.isNonterminal = true) :
    new.phase.isNonterminal = true ∨ ∃ target,
      op = .write (.concludeRun id target old.revision) ∧
        (target = .Failed ∨ target = .Cancelled) := by
  cases h with
  | kept => exact .inl hlive
  | attempted => exact .inl hlive
  | submitted => exact .inl rfl
  | concluded target hop htarget => exact .inr ⟨target, hop, htarget⟩

/-- A Run's status never disappears, and a step moves it in one of four ways. -/
theorem apply_runStatus (op : StoreOp D) (ambient : Ambient) (h : d.find .runStatus id = some old) :
    ∃ new, (op.apply ambient d).find .runStatus id = some new ∧ RunMove op id old new := by
  rcases apply_row op ambient (by decide) h with hkept | ⟨r, d₁, hc, hupdates, hafter⟩
  · exact ⟨old, hkept, .kept⟩
  rw [hafter]
  cases op with
  | command identity mutation =>
    cases mutation with
    | createAttempt creation =>
      obtain ⟨status, hs⟩ := applyAttemptCreation_commits hc
      exact moved_at (fun _ => .kept) h hs.status_found hs.statuses fun hid =>
        .attempted identity creation rfl hid hs.run_active
    | _ => exact absurd hupdates (of_decide_eq_true rfl)
  | write plain =>
    cases plain with
    | concludeRun runId target expected =>
      obtain ⟨htarget, row, hrow, rfl, hs⟩ := applyConcludeRun_commits hc
      exact moved_at (fun _ => .kept) h hrow hs fun hid => .concluded target (by rw [hid]) htarget
    | submitCandidate s =>
      rcases applyCandidateSubmission_commits hc with rfl | ⟨lineage, run, task, goal, hs⟩
      · exact ⟨old, h, .kept⟩
      · exact moved_at (fun _ => .kept) h hs.authorized.run_found hs.statuses fun _ =>
          .submitted s rfl hs.authorized.run_active
    | _ => exact absurd hupdates (of_decide_eq_true rfl)

/-- A new status is that of a Run that T3 committed. -/
theorem apply_runStatus_new (h : (op.apply ambient d).find .runStatus id = some new)
    (hnone : d.find .runStatus id = none) :
    d.find .runs id = none ∧ ∃ taskId, new = newRunStatus taskId := by
  obtain ⟨r, d₁, hc, hinserts, hnew, -⟩ := apply_row_new (by decide) h hnone
  cases op with
  | command identity mutation =>
    cases mutation with
    | commitRunIntent intent =>
      obtain ⟨task, goal, hi⟩ := applyRunIntent_commits hc
      rw [hi.statuses] at hnew
      split at hnew
      · rename_i hid
        exact ⟨hid ▸ hi.run_new, intent.taskId, (Option.some.inj hnew).symm⟩
      · cases hnone.symm.trans hnew
    | _ => exact absurd hinserts (of_decide_eq_true rfl)
  | write plain => cases plain <;> exact absurd hinserts (of_decide_eq_true rfl)

/-- A Run after a step was there before, or was committed for a Task under an open Goal. -/
theorem apply_run {run : Run D} (h : (op.apply ambient d).find .runs id = some run) :
    d.find .runs id = some run ∨ (d.find .runs id = none ∧ ∃ task goal,
      d.find .tasks run.taskId = some task ∧ d.find .goals task.goalId = some goal ∧
        goal.phase.isDispatchable = true) := by
  rcases apply_row_before (by decide) h with hold | ⟨r, d₁, hc, htouches, hrun⟩
  · exact .inl hold
  cases op with
  | command identity mutation =>
    cases mutation with
    | commitRunIntent intent =>
      obtain ⟨task, goal, hi⟩ := applyRunIntent_commits hc
      rw [hi.runs] at hrun
      split at hrun
      · rename_i hid
        obtain rfl := Option.some.inj hrun
        subst hid
        exact .inr ⟨hi.run_new, task, goal, hi.task_found, hi.task_goal ▸ hi.goal_found,
          hi.goal_dispatchable⟩
      · exact .inl hrun
    | _ => cases htouches
  | write plain => cases plain <;> cases htouches

/-- A Run that is Active after a step was Active before it, or is new. -/
theorem apply_run_active {status : RunStatus D}
    (h : (op.apply ambient d).find .runStatus id = some status) (hactive : status.phase = .Active) :
    (∃ before, d.find .runStatus id = some before ∧ before.phase = .Active) ∨
      d.find .runs id = none := by
  cases hold : d.find .runStatus id with
  | none => exact .inr (apply_runStatus_new h hold).1
  | some old =>
    obtain ⟨new, hnew, hmove⟩ := apply_runStatus op ambient hold
    obtain rfl : new = status := Option.some.inj (hnew.symm.trans h)
    refine .inl ⟨old, rfl, ?_⟩
    cases hmove with
    | kept => exact hactive
    | attempted _ _ _ _ ha => exact ha
    | submitted _ _ ha => exact ha
    | concluded target _ htarget => rcases htarget with rfl | rfl <;> cases hactive

/-! ## Attempts -/

/-- The Attempts after a step are those before it, and one more after T4. -/
theorem apply_attempts (op : StoreOp D) (ambient : Ambient) (d : Db D) :
    (op.apply ambient d).rows .attempts = d.rows .attempts ∨
      ∃ identity creation status, op = .command identity (.createAttempt creation) ∧
        d.find .runStatus creation.runId = some status ∧ status.phase = .Active ∧
        liveAttempt creation.runId d = none ∧
        (op.apply ambient d).rows .attempts = d.rows .attempts ++
          [(creation.attemptId, ⟨creation.runId, nextOrdinal creation.runId d,
            creation.launchKey⟩)] := by
  rcases apply_cases op ambient d with hsame | ⟨r, hran⟩
  · exact .inl (by rw [hsame])
  obtain ⟨d₁, hc, hframe⟩ := hran.commits
  have hunwritten : (op.apply ambient d).table .attempts = d.table .attempts →
      (op.apply ambient d).rows .attempts = d.rows .attempts :=
    fun hs => by rw [State.rows, hs, ← State.rows]
  cases op with
  | command identity mutation =>
    cases mutation with
    | createAttempt creation =>
      obtain ⟨status, hs⟩ := applyAttemptCreation_commits hc
      refine .inr ⟨identity, creation, status, rfl, hs.status_found, hs.run_active, hs.no_live, ?_⟩
      rw [State.rows, hframe .attempts (by decide)]
      exact hs.attempts_rows
    | _ => exact .inl (hunwritten (hran.same .attempts (by decide) rfl))
  | write plain =>
    cases plain <;> exact .inl (hunwritten (hran.same .attempts (by decide) rfl))

/-- An Attempt after a step was there before, or was created under an Active Run. -/
theorem apply_attempt (h : (op.apply ambient d).find .attempts id = some attempt) :
    d.find .attempts id = some attempt ∨
      ∃ status, d.find .runStatus attempt.runId = some status ∧ status.phase = .Active := by
  have hmem := State.mem_rows.mpr h
  rcases apply_attempts op ambient d with hsame | ⟨_, _, status, -, hstatus, hactive, -, hrows⟩
  · rw [hsame] at hmem
    exact .inl (State.mem_rows.mp hmem)
  · rw [hrows, List.mem_append, List.mem_singleton] at hmem
    rcases hmem with hold | hnew
    · exact .inl (State.mem_rows.mp hold)
    · obtain ⟨-, rfl⟩ := Prod.mk.inj hnew
      exact .inr ⟨status, hstatus, hactive⟩

/-- A new Attempt came with T4, with its status and its session. -/
theorem apply_attempt_new (h : (op.apply ambient d).find .attempts id = some attempt)
    (hnone : d.find .attempts id = none) :
    (op.apply ambient d).find .attemptStatus id = some (newAttemptStatus attempt.runId) ∧
      ∃ sessionId session, (op.apply ambient d).find .agentControlSessions sessionId =
        some session ∧ session.attemptId = id ∧ session.state = .ACTIVE := by
  obtain ⟨r, d₁, hc, hinserts, hnew, hframe⟩ := apply_row_new (by decide) h hnone
  cases op with
  | command identity mutation =>
    cases mutation with
    | createAttempt creation =>
      obtain ⟨status, hs⟩ := applyAttemptCreation_commits hc
      have hmem := State.mem_rows.mpr hnew
      rw [hs.attempts_rows, List.mem_append, List.mem_singleton] at hmem
      rcases hmem with hold | hnew
      · cases hnone.symm.trans (State.mem_rows.mp hold)
      · obtain ⟨rfl, rfl⟩ := Prod.mk.inj hnew
        obtain ⟨generation, hsessions⟩ := hs.sessions_rows
        refine ⟨?_, creation.sessionId, ⟨creation.attemptId, generation, 1,
          creation.credentialVerifier, none, .ACTIVE, none, none⟩, ?_, rfl, rfl⟩
        · rw [State.find_congr (hframe .attemptStatus (by decide))]
          exact State.mem_rows.mp (hs.attempt_statuses_rows ▸ List.mem_concat_self)
        · rw [State.find_congr (hframe .agentControlSessions (by decide))]
          exact State.mem_rows.mp (hsessions ▸ List.mem_concat_self)
    | _ => exact absurd hinserts (of_decide_eq_true rfl)
  | write plain => cases plain <;> exact absurd hinserts (of_decide_eq_true rfl)

/-- What a step did to the status of an Attempt that was there. -/
inductive AttemptMove (op : StoreOp D) (d : Db D) (id : String) (old : AttemptStatus) :
    AttemptStatus → Prop where
  | kept : AttemptMove op d id old old
  | contacted (now : Int) (epoch : String) (status : RunStatus D)
      (huncontacted : old.launchContactState = .NotContacted) (hlive : old.terminal = false)
      (hstatus : d.find .runStatus old.runId = some status) (hactive : status.phase = .Active) :
    AttemptMove op d id old { old.contacted now epoch with revision := old.revision + 1 }
  | observed (now : Int) (update : ObservationUpdate)
      (hop : op = .write (.recordExecutionObservation id old.revision update))
      (hcontact : ∀ o, update = .Terminal o → old.launchContactState = .ContactMayHaveOccurred) :
    AttemptMove op d id old (old.observed now update)

/-- An Attempt's status never disappears, and a step moves it in one of three ways. -/
theorem apply_attemptStatus (op : StoreOp D) (ambient : Ambient) {old : AttemptStatus}
    (h : d.find .attemptStatus id = some old) :
    ∃ new, (op.apply ambient d).find .attemptStatus id = some new ∧ AttemptMove op d id old new := by
  rcases apply_row op ambient (by decide) h with hkept | ⟨r, d₁, hc, hupdates, hafter⟩
  · exact ⟨old, hkept, .kept⟩
  rw [hafter]
  cases op with
  | command identity mutation => cases mutation <;> exact absurd hupdates (of_decide_eq_true rfl)
  | write plain =>
    cases plain with
    | markLaunchContact runId attemptId epoch expectedStatus expectedCredential =>
      obtain ⟨row, hrow, hrun, hlive, ⟨-, rfl⟩ | ⟨huncontacted, hcurrent, hs⟩⟩ :=
        applyLaunchContact_commits hc
      · exact ⟨old, h, .kept⟩
      · obtain ⟨status, hstatus, -⟩ := Option.map_eq_some_iff.mp hcurrent
        obtain ⟨hfound, hphase⟩ := Option.filter_eq_some_iff.mp hstatus
        exact moved_at (fun _ => .kept) h hrow hs fun _ =>
          .contacted ambient.now epoch status huncontacted hlive (hrun ▸ hfound) (by simpa using hphase)
    | recordExecutionObservation attemptId expected update =>
      obtain ⟨row, hrow, rfl, hcontact, hs⟩ := applyObservation_commits hc
      exact moved_at (fun _ => .kept) h hrow hs fun hid =>
        .observed ambient.now update (by rw [hid]) hcontact
    | _ => exact absurd hupdates (of_decide_eq_true rfl)

/-- A new Attempt status is the one T4 writes. -/
theorem apply_attemptStatus_new {new : AttemptStatus}
    (h : (op.apply ambient d).find .attemptStatus id = some new)
    (hnone : d.find .attemptStatus id = none) : ∃ identity creation,
      op = .command identity (.createAttempt creation) ∧ new = newAttemptStatus creation.runId := by
  obtain ⟨r, d₁, hc, hinserts, hnew, -⟩ := apply_row_new (by decide) h hnone
  cases op with
  | command identity mutation =>
    cases mutation with
    | createAttempt creation =>
      obtain ⟨status, hs⟩ := applyAttemptCreation_commits hc
      have hmem := State.mem_rows.mpr hnew
      rw [hs.attempt_statuses_rows, List.mem_append, List.mem_singleton] at hmem
      rcases hmem with hold | hnew
      · cases hnone.symm.trans (State.mem_rows.mp hold)
      · exact ⟨identity, creation, rfl, (Prod.mk.inj hnew).2⟩
    | _ => exact absurd hinserts (of_decide_eq_true rfl)
  | write plain => cases plain <;> exact absurd hinserts (of_decide_eq_true rfl)

/-- An Attempt contacted after a step was contacted before it, or its Run was Active. -/
theorem apply_contact {after : AttemptStatus}
    (h : (op.apply ambient d).find .attemptStatus id = some after)
    (hcontact : after.launchContactState = .ContactMayHaveOccurred) :
    (∃ before, d.find .attemptStatus id = some before ∧
      before.launchContactState = .ContactMayHaveOccurred) ∨
    ∃ status, d.find .runStatus after.runId = some status ∧ status.phase = .Active := by
  cases hold : d.find .attemptStatus id with
  | none =>
    obtain ⟨_, _, -, rfl⟩ := apply_attemptStatus_new h hold
    cases hcontact
  | some old =>
    obtain ⟨new, hnew, hmove⟩ := apply_attemptStatus op ambient hold
    obtain rfl : new = after := Option.some.inj (hnew.symm.trans h)
    cases hmove with
    | kept => exact .inl ⟨old, rfl, hcontact⟩
    | contacted now epoch status _ _ hstatus hactive => exact .inr ⟨status, hstatus, hactive⟩
    | observed now update hop _ =>
      refine .inl ⟨old, rfl, ?_⟩
      cases update <;> exact hcontact

/-! ## Sessions -/

/-- What a step did to a session that was there. -/
inductive SessionMove (op : StoreOp D) (d : Db D) (old : AgentControlSession D) :
    AgentControlSession D → Prop where
  | kept : SessionMove op d old old
  | rekeyed (verifier : D) (now : Int) (status : AttemptStatus)
      (hop : op = .write (.rekeyAgentControlSession old.attemptId verifier old.credentialRevision))
      (hstatus : d.find .attemptStatus old.attemptId = some status)
      (hlive : status.terminal = false) (huncontacted : status.launchContactState = .NotContacted) :
    SessionMove op d old (old.rekeyed verifier now)
  | revoked (now expected : Int) (observation : Observation) (hactive : old.state = .ACTIVE)
      (hop : op = .write
        (.recordExecutionObservation old.attemptId expected (.Terminal observation))) :
    SessionMove op d old (old.revoked now)

/-- A session never disappears, and a step moves it in one of three ways. -/
theorem apply_session (op : StoreOp D) (ambient : Ambient) {old : AgentControlSession D}
    (h : d.find .agentControlSessions id = some old) :
    ∃ new, (op.apply ambient d).find .agentControlSessions id = some new ∧
      SessionMove op d old new := by
  rcases apply_row op ambient (by decide) h with hkept | ⟨r, d₁, hc, hupdates, hafter⟩
  · exact ⟨old, hkept, .kept⟩
  rw [hafter]
  cases op with
  | command identity mutation => cases mutation <;> exact absurd hupdates (of_decide_eq_true rfl)
  | write plain =>
    cases plain with
    | rekeyAgentControlSession attemptId verifier expected =>
      obtain ⟨status, sessionId, session, hstatus, hlive, huncontacted, hsession, rfl, rfl, hs⟩ :=
        applyRekey_commits hc
      exact moved_at (fun _ => .kept) h hsession hs fun _ =>
        .rekeyed verifier ambient.now status rfl hstatus hlive huncontacted
    | recordExecutionObservation attemptId expected update =>
      cases update with
      | Observe observation =>
        exact ⟨old, (State.find_congr (applyObservation_observe_sessions hc) id).trans h, .kept⟩
      | Terminal observation =>
        have hs := applyObservation_terminal_sessions hc id
        rw [h] at hs
        by_cases hselected : old.attemptId = attemptId ∧ old.state = .ACTIVE
        · obtain ⟨rfl, hactive⟩ := hselected
          exact ⟨_, by rw [hs, Option.map_some, if_pos ⟨rfl, hactive⟩],
            .revoked ambient.now expected observation hactive rfl⟩
        · exact ⟨old, by rw [hs, Option.map_some, if_neg hselected], .kept⟩
    | _ => exact absurd hupdates (of_decide_eq_true rfl)

theorem SessionMove.attemptId {old new : AgentControlSession D} (h : SessionMove op d old new) :
    new.attemptId = old.attemptId := by
  cases h <;> rfl

end Pantheon
