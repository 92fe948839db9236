/-
  The session fence of Agent Control, and the request ledger behind it.
  `agent_control_fenced`: a session that was revoked, or that is not of the generation in
  force, admits no operation under any credential, in any later state; neither does a
  credential with another verifier. `agent_requests_settle` is what the ledger keeps: identity
  and hash always, a success for good, and a refusal until a Candidate submission repeats it
  under the same request and hash.
-/
import Pantheon.Store.Contact

namespace Pantheon

open Relational

variable {D : Type} [DecidableEq D]

/-! ## The fence -/

/-- The credential is that of the Attempt's ACTIVE session in the generation in force. -/
structure Authenticates (credential : AgentCredential D) (d : Db D) : Prop where
  session : ∃ sessionId session system, d.find .agentControlSessions sessionId = some session ∧
    session.attemptId = credential.attemptId ∧ d.find .systemState () = some system ∧
    session.restoreGeneration = system.restoreGeneration ∧ session.state = .ACTIVE ∧
    session.credentialHash = credential.verifier

variable {u : Unit} {d d' : Db D} {attemptId requestId : String} {s : CandidateSubmission D}
  {k : String × String} {old : AgentRequest D}

theorem authenticate_commits {credential : AgentCredential D} :
    (authenticateAgentSession credential).Commits d u d' ↔ Authenticates credential d ∧ d' = d := by
  constructor
  · intro h
    obtain rfl := h.unchanged
    have h := Writer.read_then h
    obtain ⟨⟨sessionId, session⟩, hsession, h⟩ := Writer.require_then h
    obtain ⟨system, hsystem, h⟩ := fetch_then h
    obtain ⟨hgeneration, h⟩ := Writer.ensure_then h
    obtain ⟨hactive, h⟩ := Writer.ensure_then h
    obtain ⟨hverifier, -⟩ := Writer.commits_ensure.mp h
    obtain ⟨hfound, hattempt⟩ := sessionOf_iff.mp hsession
    exact ⟨⟨sessionId, session, system, hfound, hattempt, hsystem, hgeneration, hactive,
      hverifier⟩, rfl⟩
  · rintro ⟨⟨sessionId, session, system, hfound, hattempt, hsystem, hgeneration, hactive,
      hverifier⟩, rfl⟩
    have hsession := sessionOf_iff.mpr ⟨hfound, hattempt⟩
    simp [authenticateAgentSession, Writer.commits_bind, fetch, find, hsession, hsystem,
      hgeneration, hactive, hverifier]

theorem readFence_ok {credential : AgentCredential D} (h : readFence credential d = .ok ()) :
    Authenticates credential d := by
  unfold readFence at h
  split at h
  · cases h
  · cases h
  · rename_i session system hsession hsystem
    obtain ⟨hfound, hattempt⟩ := sessionOf_iff.mp hsession
    split at h
    · cases h
    · rename_i hgeneration
      split at h
      · cases h
      · rename_i hactive
        split at h
        · cases h
        · rename_i hverifier
          exact ⟨session.1, session.2, system, hfound, hattempt, hsystem,
            Decidable.not_not.mp hgeneration, Decidable.not_not.mp hactive,
            Decidable.not_not.mp hverifier⟩

variable [DigestScheme D]

/-- The credential a worker's write presents. -/
def PlainWrite.credential : PlainWrite D → Option (AgentCredential D)
  | .openAgentRequest credential _ _ _ => some credential
  | .completeAgentRequest credential _ _ => some credential
  | .failAgentRequest credential _ _ => some credential
  | .submitCandidate submission => some submission.credential
  | _ => none

/-- Every worker operation is refused under this credential, and changes nothing. -/
structure Refused (credential : AgentCredential D) (d : Db D) : Prop where
  describe : ∃ e, describeAgentSession credential d = .error e
  context : ∃ e, agentSubmissionContext credential d = .error e
  write : ∀ (plain : PlainWrite D) ambient, plain.credential = some credential →
    ∃ e, (StoreOp.write plain).answer ambient d = (.error e, d)

omit [DigestScheme D] in
theorem guarded_refused {A : Access TableName} {α : Type} {credential : AgentCredential D}
    {hi : ∀ i ∈ ([] : List TableName), i ∈ A.inserts}
    {hu : ∀ i ∈ ([] : List TableName), i ∈ A.updates} {f : Unit → Write D A α}
    (h : ¬ Authenticates credential d) :
    ∃ e, ((authenticateAgentSession credential).widen hi hu >>= f).transact discardedFailure d =
      (.error e, d) := by
  rcases Writer.transact_cases discardedFailure
    ((authenticateAgentSession credential).widen hi hu >>= f) d with hrefused | ⟨a, d', -, hc⟩
  · exact hrefused
  · obtain ⟨_, hfence, -⟩ := Writer.guard_then hc
    exact absurd (authenticate_commits.mp hfence).1 h

omit [DigestScheme D] in
theorem readFence_refused {α : Type} {credential : AgentCredential D}
    {f : Unit → Except StoreError α} (h : ¬ Authenticates credential d) :
    ∃ e, (readFence credential d >>= f) = .error e := by
  cases hfence : readFence credential d with
  | error e => exact ⟨e, rfl⟩
  | ok u => exact absurd (readFence_ok hfence) h

theorem refused_of_not {credential : AgentCredential D} (h : ¬ Authenticates credential d) :
    Refused credential d := by
  refine ⟨readFence_refused h, readFence_refused h, fun plain ambient hplain => ?_⟩
  cases plain with
  | openAgentRequest | completeAgentRequest | failAgentRequest | submitCandidate =>
    obtain rfl := Option.some.inj hplain
    exact guarded_refused h
  | _ => cases hplain

/-! ## Fenced sessions -/

/-- The Attempt's session was revoked, or is not of the generation in force. -/
structure Fenced (attemptId : String) (d : Db D) : Prop where
  session : ∃ sessionId session, d.find .agentControlSessions sessionId = some session ∧
    session.attemptId = attemptId ∧ (session.state = .REVOKED ∨
      ∀ system, d.find .systemState () = some system →
        session.restoreGeneration ≠ system.restoreGeneration)

omit [DigestScheme D] in
theorem Fenced.not_authenticates {credential : AgentCredential D}
    (h : Fenced credential.attemptId d) : ¬ Authenticates credential d := by
  rintro ⟨id, found, system, hfound, hattempt, hsystem, hgeneration, hactive, -⟩
  obtain ⟨sessionId, session, hsession, hbound, hfence⟩ := h.session
  have hone := (sessionOf_iff.mpr ⟨hsession, hbound⟩).symm.trans
    (sessionOf_iff.mpr ⟨hfound, hattempt⟩)
  obtain ⟨rfl, rfl⟩ := Prod.mk.inj (Option.some.inj hone)
  rcases hfence with hrevoked | hstale
  · rw [hrevoked] at hactive
    cases hactive
  · exact hstale system hsystem hgeneration

/-- No operation touches the identity of the installation. -/
theorem apply_system (op : StoreOp D) (ambient : Ambient) (d : Db D) :
    (op.apply ambient d).find .systemState () = d.find .systemState () := by
  rcases apply_cases op ambient d with hsame | ⟨r, hran⟩
  · rw [hsame]
  · refine State.find_congr (hran.same .systemState (by decide) ?_) ()
    cases op with
    | command identity mutation => cases mutation <;> rfl
    | write plain => cases plain <;> rfl

theorem apply_fenced (op : StoreOp D) (ambient : Ambient) (h : Fenced attemptId d) :
    Fenced attemptId (op.apply ambient d) := by
  obtain ⟨sessionId, session, hsession, hbound, hfence⟩ := h.session
  obtain ⟨new, hnew, hmove⟩ := apply_session op ambient hsession
  refine ⟨sessionId, new, hnew, hmove.attemptId.trans hbound, ?_⟩
  rw [apply_system, hmove.restoreGeneration]
  rcases hfence with hrevoked | hstale
  · left
    cases hmove with
    | kept | rekeyed => exact hrevoked
    | revoked => rfl
  · exact .inr hstale

/-- Once an Attempt's session is fenced, no worker operation for the Attempt goes through or
    changes anything in any later state, whatever it presents; and in no state does one that
    presents another verifier than the session's. -/
theorem agent_control_fenced :
    (∀ (d : Db D) attemptId, Fenced attemptId d → ∀ d', Run.Steps anyStep d d' →
      ∀ credential : AgentCredential D, credential.attemptId = attemptId →
        Refused credential d') ∧
    ∀ (d : Db D) (credential : AgentCredential D) sessionId session,
      d.find .agentControlSessions sessionId = some session →
      session.attemptId = credential.attemptId → session.credentialHash ≠ credential.verifier →
      Refused credential d := by
  constructor
  · rintro d attemptId hfenced d' hrun credential rfl
    have hlater := hrun.invariant (P := Fenced credential.attemptId) hfenced
      fun _ op ambient he _ => apply_fenced op ambient he
    exact refused_of_not hlater.not_authenticates
  · intro d credential sessionId session hsession hbound hverifier
    refine refused_of_not ?_
    rintro ⟨id, found, system, hfound, hattempt, -, -, -, hmatches⟩
    have hone := (sessionOf_iff.mpr ⟨hsession, hbound⟩).symm.trans
      (sessionOf_iff.mpr ⟨hfound, hattempt⟩)
    obtain ⟨rfl, rfl⟩ := Prod.mk.inj (Option.some.inj hone)
    exact hverifier hmatches

/-- The session of an Attempt that has ended is fenced. -/
theorem ended_fenced (h : Reachable d) {attempt : Attempt} {status : AttemptStatus}
    (hattempt : d.find .attempts attemptId = some attempt)
    (hstatus : d.find .attemptStatus attemptId = some status) (hterminal : status.terminal = true) :
    Fenced attemptId d := by
  obtain ⟨found, sessionId, session, hlineage, -, hagree, -⟩ :=
    (reachable_attempts h).2 attemptId attempt hattempt
  obtain rfl := Option.some.inj (hlineage.status_found.symm.trans hstatus)
  refine ⟨sessionId, session, hlineage.session_found, hlineage.session_attempt, .inl ?_⟩
  cases hstate : session.state with
  | REVOKED => rfl
  | ACTIVE => simp [hagree.mpr hstate] at hterminal

/-- The Attempt has exited: its worker's own credential is refused. -/
theorem agent_control_fenced_exited : ∃ d : Sample.Store, Reachable d ∧ Fenced "attempt" d ∧
    Refused ⟨"attempt", ⟨[1]⟩⟩ d := by
  obtain ⟨d, hd, ⟨attempt, hattempt, -⟩, -, ⟨d₁, hd₁, status, hstatus, hterminal, -⟩, -⟩ :=
    Sample.ended_twice
  have hrun := runAll_steps (.refl : Run.Steps anyStep d d) hd₁
  have hreachable : Reachable d₁ := (Sample.reachable_of_runAll hd).steps hrun
  have hfenced : Fenced "attempt" d₁ :=
    ended_fenced hreachable (steps_frozen hrun (by decide) hattempt) hstatus hterminal
  exact ⟨d₁, hreachable, hfenced, agent_control_fenced.1 d₁ "attempt" hfenced d₁ .refl _ rfl⟩

/-! ## The request ledger -/

omit [DigestScheme D] in
/-- What the ledger lookup finds. -/
theorem recordedRequest_commits {requestHash : D} {recorded : Option RequestState}
    (h : (recordedRequest attemptId requestId requestHash).Commits d recorded d') :
    (recorded = none ∧ d.find .agentRequests (attemptId, requestId) = none) ∨
      ∃ row state, d.find .agentRequests (attemptId, requestId) = some row ∧
        row.requestHash = requestHash ∧ requestStateFrom row = .ok state ∧
        recorded = some state := by
  have h := find_then h
  cases hrow : d.find .agentRequests (attemptId, requestId) with
  | none =>
    rw [hrow] at h
    exact .inl ⟨(Writer.commits_pure.mp h).1, rfl⟩
  | some row =>
    rw [hrow] at h
    obtain ⟨state, hstate, h⟩ := requireOk_then h
    obtain ⟨hhash, h⟩ := Writer.ensure_then h
    exact .inr ⟨row, state, rfl, hhash, hstate, (Writer.commits_pure.mp h).1⟩

omit [DecidableEq D] [DigestScheme D] in
theorem requestStateFrom_succeeded {row : AgentRequest D} {state : RequestState}
    (h : requestStateFrom row = .ok state) :
    row.state = .Succeeded ↔ ∃ ref, state = .Succeeded ref ∧ row.resultRef = some ref := by
  unfold requestStateFrom at h
  split at h <;> simp_all <;> exact h ▸ by simp

/-- What a submission leaves in the ledger under its request. -/
def submittedRequest (s : CandidateSubmission D) (prior : Option (AgentRequest D)) : AgentRequest D :=
  match prior with
  | some row => row.succeeded (toDisplay s.candidate.digest)
  | none => ⟨s.requestHash, .TaskSubmitResult, .Succeeded, some (toDisplay s.candidate.digest), none⟩

theorem recordOutcome_commits
    (h : (recordOutcome s (d.find .agentRequests (s.credential.attemptId, s.requestId)).isSome).Commits
      d u d') :
    ∀ k, d'.find .agentRequests k = if (s.credential.attemptId, s.requestId) = k then
      some (submittedRequest s (d.find .agentRequests (s.credential.attemptId, s.requestId)))
      else d.find .agentRequests k := by
  intro k
  unfold recordOutcome at h
  cases hprior : d.find .agentRequests (s.credential.attemptId, s.requestId) with
  | none =>
    simp only [hprior, Option.isSome_none, Bool.false_eq_true, if_false] at h
    exact (State.insert_ok (Writer.commits_insert.mp h)).2.2.2.2.2.1 k
  | some row =>
    simp only [hprior, Option.isSome_some, if_true] at h
    rw [(amend_commits h).1 k, hprior]
    rfl

/-- A committed submission passed the fence. It is a replay of a recorded success, which
    changes nothing, or it found no success under its request and hash and went on. -/
theorem applyCandidateSubmission_cases {ambient : Ambient} {r : SubmissionOutcome}
    (h : (applyCandidateSubmission ambient s).Commits d r d') :
    Authenticates s.credential d ∧
      ((r.reconciled = true ∧ d' = d) ∨
        (submitFresh ambient s
          (d.find .agentRequests (s.credential.attemptId, s.requestId)).isSome).Commits d r d' ∧
        ∀ row, d.find .agentRequests (s.credential.attemptId, s.requestId) = some row →
          row.requestHash = s.requestHash ∧ row.state ≠ .Succeeded) := by
  obtain ⟨_, hfence, h⟩ := Writer.guard_then h
  refine ⟨(authenticate_commits.mp hfence).1, ?_⟩
  obtain ⟨recorded, hrecorded, h⟩ := Writer.guard_then h
  rcases recordedRequest_commits hrecorded with ⟨rfl, hnone⟩ | ⟨row, state, hrow, hhash, hstate, rfl⟩
  · exact .inr ⟨by simpa [hnone] using h, by simp [hnone]⟩
  · have hsettled := requestStateFrom_succeeded hstate
    cases state with
    | Succeeded resultRef =>
      obtain ⟨digest, -, h⟩ := Writer.require_then h
      obtain ⟨_, -, h⟩ := Writer.guard_then h
      obtain ⟨rfl, rfl⟩ := Writer.commits_pure.mp h
      exact .inl ⟨rfl, rfl⟩
    | Started | Failed _ =>
      refine .inr ⟨by simpa [hrow] using h, fun found hfound => ?_⟩
      obtain rfl := Option.some.inj (hrow.symm.trans hfound)
      exact ⟨hhash, by simpa using hsettled.not⟩

/-- What a submission that went on left in the ledger. -/
theorem submitFresh_requests {ambient : Ambient} {r : SubmissionOutcome} (h : (submitFresh ambient s
      (d.find .agentRequests (s.credential.attemptId, s.requestId)).isSome).Commits d r d') :
    ∀ k, d'.find .agentRequests k = if (s.credential.attemptId, s.requestId) = k then
      some (submittedRequest s (d.find .agentRequests (s.credential.attemptId, s.requestId)))
      else d.find .agentRequests k := by
  intro k
  obtain ⟨_, -, h⟩ := Writer.guard_then h
  obtain ⟨_, -, h⟩ := Writer.guard_then h
  obtain ⟨_, d₁, hinsert, h⟩ := Writer.widen_then h
  obtain ⟨d₂, _, hrun, h⟩ := update_then h
  obtain ⟨d₃, _, htask, h⟩ := update_then h
  obtain ⟨_, d₄, houtcome, h⟩ := Writer.widen_then h
  obtain ⟨_, d₅, hevent, h⟩ := Writer.widen_then h
  obtain ⟨-, rfl⟩ := Writer.commits_pure.mp h
  have hbefore := State.find_congr ((htask.others .agentRequests (by decide)).trans
    ((hrun.others _ (by decide)).trans (hinsert.within.same _ (by decide) (by decide))))
  rw [← hbefore] at houtcome
  rw [State.find_congr (hevent.within.same .agentRequests (by decide) (by decide)),
    recordOutcome_commits houtcome, hbefore, hbefore]

/-- What a step did to a request that was recorded. -/
inductive RequestMove (op : StoreOp D) (k : String × String) (old : AgentRequest D) :
    AgentRequest D → Prop where
  | kept : RequestMove op k old old
  | completed (credential : AgentCredential D) (resultRef : String)
      (hop : op = .write (.completeAgentRequest credential k.2 resultRef))
      (hstarted : old.state = .Started) : RequestMove op k old (old.succeeded resultRef)
  | failed (credential : AgentCredential D) (problemCode : String)
      (hop : op = .write (.failAgentRequest credential k.2 problemCode))
      (hstarted : old.state = .Started) :
    RequestMove op k old
      { old with state := .Failed, problemCode := some problemCode, resultRef := none }
  | submitted (s : CandidateSubmission D) (hop : op = .write (.submitCandidate s))
      (hkey : (s.credential.attemptId, s.requestId) = k) (hhash : old.requestHash = s.requestHash)
      (hopen : old.state ≠ .Succeeded) :
    RequestMove op k old (old.succeeded (toDisplay s.candidate.digest))

theorem completeAgentRequest_move {credential : AgentCredential D} {resultRef : String}
    (h : (completeAgentRequest credential requestId resultRef).Commits d u d')
    (hold : d.find .agentRequests k = some old) :
    ∃ new, d'.find .agentRequests k = some new ∧
      RequestMove (.write (.completeAgentRequest credential requestId resultRef)) k old new := by
  obtain ⟨_, -, h⟩ := Writer.guard_then h
  have h := find_then h
  by_cases hkey : (credential.attemptId, requestId) = k
  · subst hkey
    rw [hold] at h
    cases hstate : old.state with
    | Started =>
      simp only [Option.map_some, hstate] at h
      exact ⟨_, by rw [(amend_commits h).1, if_pos rfl, hold, Option.map_some],
        .completed credential resultRef rfl hstate⟩
    | Succeeded =>
      simp only [Option.map_some, hstate] at h
      obtain ⟨-, rfl⟩ := Writer.commits_pure.mp h
      exact ⟨old, hold, .kept⟩
    | Failed =>
      simp only [Option.map_some, hstate] at h
      exact absurd h Writer.commits_fail
  · refine ⟨old, ?_, .kept⟩
    cases hrow : (d.find .agentRequests (credential.attemptId, requestId)).map AgentRequest.state with
    | none =>
      simp only [hrow] at h
      exact absurd h Writer.commits_fail
    | some state =>
      simp only [hrow] at h
      cases state with
      | Started => rw [(amend_commits h).1, if_neg hkey, hold]
      | Succeeded =>
        obtain ⟨-, rfl⟩ := Writer.commits_pure.mp h
        exact hold
      | Failed => exact absurd h Writer.commits_fail

theorem failAgentRequest_move {credential : AgentCredential D} {problemCode : String}
    (h : (failAgentRequest credential requestId problemCode).Commits d u d')
    (hold : d.find .agentRequests k = some old) :
    ∃ new, d'.find .agentRequests k = some new ∧
      RequestMove (.write (.failAgentRequest credential requestId problemCode)) k old new := by
  obtain ⟨_, -, h⟩ := Writer.guard_then h
  by_cases hkey : (credential.attemptId, requestId) = k
  · subst hkey
    refine ⟨_, by rw [(amend_commits h).1, if_pos rfl, hold, Option.map_some], ?_⟩
    by_cases hstarted : old.state = .Started
    · rw [if_pos hstarted]
      exact .failed credential problemCode rfl hstarted
    · rw [if_neg hstarted]
      exact .kept
  · exact ⟨old, by rw [(amend_commits h).1, if_neg hkey, hold], .kept⟩

/-- A recorded request never disappears, and a step moves it in one of four ways. -/
theorem apply_request (op : StoreOp D) (ambient : Ambient) (h : d.find .agentRequests k = some old) :
    ∃ new, (op.apply ambient d).find .agentRequests k = some new ∧ RequestMove op k old new := by
  rcases apply_row op ambient (by decide) h with hkept | ⟨r, d₁, hc, hupdates, hafter⟩
  · exact ⟨old, hkept, .kept⟩
  rw [hafter]
  cases op with
  | command identity mutation => cases mutation <;> exact absurd hupdates (of_decide_eq_true rfl)
  | write plain =>
    cases plain with
    | completeAgentRequest credential requestId resultRef => exact completeAgentRequest_move hc h
    | failAgentRequest credential requestId problemCode => exact failAgentRequest_move hc h
    | submitCandidate s =>
      obtain ⟨-, ⟨-, rfl⟩ | ⟨hfresh, hprior⟩⟩ := applyCandidateSubmission_cases hc
      · exact ⟨old, h, .kept⟩
      · rw [submitFresh_requests hfresh k]
        split
        · rename_i hkey
          subst hkey
          obtain ⟨hhash, hopen⟩ := hprior old h
          rw [h]
          exact ⟨_, rfl, .submitted s rfl rfl hhash hopen⟩
        · exact ⟨old, h, .kept⟩
    | _ => exact absurd hupdates (of_decide_eq_true rfl)

variable {op : StoreOp D}

omit [DecidableEq D] in
theorem RequestMove.identity {new : AgentRequest D} (h : RequestMove op k old new) :
    new.operation = old.operation ∧ new.requestHash = old.requestHash := by
  cases h <;> exact ⟨rfl, rfl⟩

omit [DecidableEq D] in
theorem RequestMove.succeeded {new : AgentRequest D} (h : RequestMove op k old new)
    (hsucceeded : old.state = .Succeeded) : new = old := by
  cases h with
  | kept => rfl
  | completed _ _ _ hstarted | failed _ _ _ hstarted => cases hsucceeded.symm.trans hstarted
  | submitted _ _ _ _ hopen => exact absurd hsucceeded hopen

/-- The request identity and hash a worker's write presents. -/
def StoreOp.presents : StoreOp D → Option ((String × String) × D)
  | .write (.openAgentRequest credential _ requestId requestHash) =>
    some ((credential.attemptId, requestId), requestHash)
  | .write (.submitCandidate s) => some ((s.credential.attemptId, s.requestId), s.requestHash)
  | _ => none

/-- A request identity used with another hash is refused. -/
theorem reused_refused {ambient : Ambient} {d : Db D} {k : String × String} {requestHash : D}
    {row : AgentRequest D} (hrow : d.find .agentRequests k = some row)
    (hop : op.presents = some (k, requestHash)) (hhash : requestHash ≠ row.requestHash) :
    ∃ e, op.answer ambient d = (.error e, d) := by
  have hlookup : ∀ {attemptId requestId : String} {recorded : Option RequestState} {d' : Db D},
      (attemptId, requestId) = k →
      ¬ (recordedRequest attemptId requestId requestHash).Commits d recorded d' := by
    rintro attemptId requestId recorded d' rfl h
    rcases recordedRequest_commits h with ⟨-, hnone⟩ | ⟨found, _, hfound, hsame, -⟩
    · cases hrow.symm.trans hnone
    · obtain rfl := Option.some.inj (hrow.symm.trans hfound)
      exact hhash hsame.symm
  cases op with
  | command identity mutation => cases hop
  | write plain =>
    rcases Writer.transact_cases discardedFailure (plain.body.body ambient) d with
      hrefused | ⟨r, d', -, hc⟩
    · exact hrefused
    · cases plain with
      | openAgentRequest | submitCandidate =>
        obtain ⟨hkey, rfl⟩ := Prod.mk.inj (Option.some.inj hop)
        obtain ⟨_, -, hc⟩ := Writer.guard_then hc
        obtain ⟨_, hrecorded, -⟩ := Writer.guard_then hc
        exact absurd hrecorded (hlookup hkey)
      | _ => cases hop

/-- In every later state a recorded request has its operation and hash, and a success is as it
    was; its identity with another hash is refused; and a recorded refusal is left alone by
    every call but a Candidate submission under the same identity and hash, which turns it
    into the success of that submission. -/
theorem agent_requests_settle {d d' : Db D} {k : String × String} {row : AgentRequest D}
    (hrow : d.find .agentRequests k = some row) (hrun : Run.Steps anyStep d d') :
    ∃ row', d'.find .agentRequests k = some row' ∧ row'.operation = row.operation ∧
      row'.requestHash = row.requestHash ∧ (row.state = .Succeeded → row' = row) ∧
      (∀ (op : StoreOp D) ambient requestHash, op.presents = some (k, requestHash) →
        requestHash ≠ row.requestHash → ∃ e, op.answer ambient d' = (.error e, d')) ∧
      (row'.state = .Failed → ∀ (op : StoreOp D) ambient,
        (op.apply ambient d').find .agentRequests k = some row' ∨
        ∃ s, op = .write (.submitCandidate s) ∧ op.presents = some (k, row.requestHash) ∧
          (op.apply ambient d').find .agentRequests k =
            some (row'.succeeded (toDisplay s.candidate.digest))) := by
  have hkept := hrun.invariant
    (P := fun e => ∃ row', e.find .agentRequests k = some row' ∧
      row'.operation = row.operation ∧ row'.requestHash = row.requestHash ∧
      (row.state = .Succeeded → row' = row)) ⟨row, hrow, rfl, rfl, fun _ => rfl⟩ ?_
  · obtain ⟨row', hrow', hoperation, hhash, hsettled⟩ := hkept
    refine ⟨row', hrow', hoperation, hhash, hsettled, fun op ambient requestHash hop hne =>
      reused_refused hrow' hop (hhash ▸ hne), fun hfailed op ambient => ?_⟩
    obtain ⟨new, hnew, hmove⟩ := apply_request op ambient hrow'
    cases hmove with
    | kept => exact .inl hnew
    | completed _ _ _ hstarted | failed _ _ _ hstarted => cases hfailed.symm.trans hstarted
    | submitted s hop hkey hsame =>
      refine .inr ⟨s, hop, ?_, hnew⟩
      rw [hop, StoreOp.presents, hkey, ← hsame, hhash]
  · rintro e op ambient ⟨row', hrow', hoperation, hhash, hsettled⟩ -
    obtain ⟨new, hnew, hmove⟩ := apply_request op ambient hrow'
    refine ⟨new, hnew, hmove.identity.1.trans hoperation, hmove.identity.2.trans hhash,
      fun hsucceeded => ?_⟩
    obtain rfl := hsettled hsucceeded
    exact hmove.succeeded hsucceeded

namespace Sample

def credential : AgentCredential PrefixDigest := ⟨"attempt", ⟨[1]⟩⟩

/-- A seal request is opened under the identity and hash of the submission, and fails. -/
def sealFailed : List (Ambient × StoreOp PrefixDigest) := contacted ++ [
  (ambient 'x', .write (.openAgentRequest credential .ArtifactSeal "q" ⟨[2]⟩)),
  (ambient 'y', .write (.failAgentRequest credential "q" "p"))]

/-- The submission then commits over the failed seal request, and the Attempt exits. -/
theorem submission_resumes : ∃ d ∈ runAll installed sealFailed,
    (∃ a ∈ d.find .attempts "attempt", a.runId = "run") ∧
    (∃ r ∈ d.find .agentRequests ("attempt", "q"),
      r.state = .Failed ∧ r.operation = .ArtifactSeal) ∧
    ∃ d' ∈ runAll d [submit],
      (∃ r ∈ d'.find .agentRequests ("attempt", "q"), r.state = .Succeeded) ∧
      ∃ d'' ∈ runAll d' [observe 'z' 2 (.Terminal .Exited)],
        ∃ s ∈ d''.find .attemptStatus "attempt", s.terminal = true := by
  have hruns : ∃ d ∈ runAll installed sealFailed,
      (∃ a ∈ d.find .attempts "attempt", a.runId = "run") ∧
      (∃ r ∈ d.find .agentRequests ("attempt", "q"),
        r.state = .Failed ∧ r.operation = .ArtifactSeal) ∧
      submits (some (.Failed "p")) d = true ∧
      (∃ r ∈ (submitWrites true d).2.find .agentRequests ("attempt", "q"), r.state = .Succeeded) ∧
      ∃ d'' ∈ runAll (submitWrites true d).2 [observe 'z' 2 (.Terminal .Exited)],
        ∃ s ∈ d''.find .attemptStatus "attempt", s.terminal = true := by
    decide +kernel
  obtain ⟨d, hd, hattempt, hfailed, hsubmits, hlater⟩ := hruns
  exact ⟨d, hd, hattempt, hfailed, _, runAll_submit (spec_stored hd)
    (fun _ h => by cases h) hsubmits, hlater⟩

end Sample

/-- The request that failed, and the success the submission made of it. -/
theorem agent_requests_settle_resumed : ∃ (d d' : Sample.Store) (row row' : AgentRequest PrefixDigest),
    d.find .agentRequests ("attempt", "q") = some row ∧ row.state = .Failed ∧
    Run.Steps anyStep d d' ∧ d'.find .agentRequests ("attempt", "q") = some row' ∧
    row'.operation = .ArtifactSeal ∧ row'.requestHash = row.requestHash := by
  obtain ⟨d, -, -, ⟨row, hrow, hstate, hoperation⟩, d', hd', -⟩ := Sample.submission_resumes
  have hrun := runAll_steps (.refl : Run.Steps anyStep d d) hd'
  obtain ⟨row', hrow', hsame, hhash, -⟩ := agent_requests_settle hrow hrun
  exact ⟨d, d', row, row', hrow, hstate, hrun, hrow', hsame.trans hoperation, hhash⟩

/-- A failed seal request becomes a success: a Candidate submission under the same identity and
    hash is not refused for naming another operation, and overwrites it. -/
theorem failed_request_overwritten : ∃ (d d' : Sample.Store) (row row' : AgentRequest PrefixDigest),
    Reachable d ∧ runAll d [Sample.submit] = some d' ∧
    d.find .agentRequests ("attempt", "q") = some row ∧ row.state = .Failed ∧
    row.operation = .ArtifactSeal ∧
    d'.find .agentRequests ("attempt", "q") = some row' ∧ row'.state = .Succeeded := by
  obtain ⟨d, hd, -, ⟨row, hrow, hstate, hoperation⟩, d', hd', ⟨row', hrow', hstate'⟩, -⟩ :=
    Sample.submission_resumes
  exact ⟨d, d', row, row', Sample.reachable_of_runAll hd, hd', hrow, hstate, hoperation, hrow',
    hstate'⟩

end Pantheon
