/-
  Attempts over whole histories of the store.
  `attempts_sound` holds in every reachable state: a Run's Attempts are numbered 1, 2, … and
  the Run points to the last one, an Attempt is live exactly while its session is, and launch
  contact freezes the credential. `terminal_attempts_stay` needs a condition on the calls:
  `applyObservation` looks at a revision and at the launch contact, never at the terminal flag
  or at the observation it is given.
-/
import Pantheon.Store.Frozen
import Pantheon.Store.Moves

namespace Pantheon

open Relational

variable {D : Type} [DecidableEq D]

/-! ## Numbering -/

theorem foldl_max_numbered (n : Nat) : (numbered n).foldl max 0 = (n : Int) := by
  induction n with
  | zero => rfl
  | succ n ih =>
    rw [numbered_succ, List.foldl_append, ih]
    simp only [List.foldl_cons, List.foldl_nil]
    omega

variable {runId id sessionId : String} {d d' : Db D}

/-- The next ordinal of a Run whose Attempts are numbered. -/
theorem nextOrdinal_of_numbered {n : Nat}
    (h : (attemptsOf runId d).map (fun p => p.2.ordinal) = numbered n) :
    nextOrdinal runId d = (n : Int) + 1 := by
  have hfold : (attemptsOf runId d).foldl (fun top p => max top p.2.ordinal) 0 =
      ((attemptsOf runId d).map fun p => p.2.ordinal).foldl max 0 := by rw [List.foldl_map]
  rw [nextOrdinal, hfold, h, foldl_max_numbered]

/-- The Attempts of each Run are numbered in the order they were created, and the Run points
    to the last one. -/
structure AttemptsNumbered (d : Db D) : Prop where
  owner : ∀ id attempt, d.find .attempts id = some attempt →
    d.find .runStatus attempt.runId ≠ none
  ordinals : ∀ runId, (attemptsOf runId d).map (fun p => p.2.ordinal) =
    numbered (attemptsOf runId d).length
  current : ∀ runId status, d.find .runStatus runId = some status →
    status.currentAttemptId = (attemptsOf runId d).getLast?.map Prod.fst

theorem AttemptStarted.attemptsOf {c : AttemptCreation D} {status : RunStatus D}
    (h : AttemptStarted c d d' status) (runId : String) :
    attemptsOf runId d' = attemptsOf runId d ++ if c.runId = runId then
      [(c.attemptId, ⟨c.runId, nextOrdinal c.runId d, c.launchKey⟩)] else [] := by
  rw [Pantheon.attemptsOf, h.attempts_rows, List.filter_append]
  by_cases hrun : c.runId = runId
  · simp [Pantheon.attemptsOf, hrun]
  · simp [Pantheon.attemptsOf, hrun]

theorem AttemptStarted.numbered {c : AttemptCreation D} {status : RunStatus D}
    (hs : AttemptStarted c d d' status) (h : AttemptsNumbered d) : AttemptsNumbered d' := by
  have hgrown : ∀ runId, d.find .runStatus runId ≠ none → d'.find .runStatus runId ≠ none := by
    intro runId hrun
    rw [hs.statuses]
    split
    · simp
    · exact hrun
  refine ⟨fun id attempt hattempt => ?_, fun runId => ?_, fun runId status' hstatus' => ?_⟩
  · have hmem := State.mem_rows.mpr hattempt
    rw [hs.attempts_rows, List.mem_append, List.mem_singleton] at hmem
    rcases hmem with hold | hnew
    · exact hgrown _ (h.owner id attempt (State.mem_rows.mp hold))
    · obtain ⟨-, rfl⟩ := Prod.mk.inj hnew
      exact hgrown _ (by simp [hs.status_found])
  · rw [hs.attemptsOf]
    by_cases hrun : c.runId = runId
    · subst hrun
      have hnumbers := h.ordinals c.runId
      simp only [if_true, List.map_append, List.length_append, List.map_cons, List.map_nil,
        List.length_singleton, numbered_succ, hnumbers, nextOrdinal_of_numbered hnumbers]
    · simpa [hrun] using h.ordinals runId
  · rw [hs.statuses] at hstatus'
    rw [hs.attemptsOf]
    split at hstatus'
    · rename_i hrun
      obtain rfl := Option.some.inj hstatus'
      simp [hrun]
    · rename_i hrun
      simpa [hrun] using h.current runId status' hstatus'

theorem attemptsOf_congr (h : d'.table .attempts = d.table .attempts) (runId : String) :
    attemptsOf runId d' = attemptsOf runId d := by
  rw [attemptsOf, State.rows, h, ← State.rows, ← attemptsOf]

theorem AttemptsNumbered.congr (hattempts : d'.table .attempts = d.table .attempts)
    (hruns : d'.table .runStatus = d.table .runStatus) (h : AttemptsNumbered d) :
    AttemptsNumbered d' := by
  have hattempt := State.find_congr hattempts
  have hrun := State.find_congr hruns
  refine ⟨fun id attempt hfound => ?_, fun runId => ?_, fun runId status hfound => ?_⟩
  · rw [hrun]
    exact h.owner id attempt (by rwa [hattempt] at hfound)
  · rw [attemptsOf_congr hattempts]
    exact h.ordinals runId
  · rw [attemptsOf_congr hattempts]
    exact h.current runId status (by rwa [hrun] at hfound)

variable [DigestScheme D]

variable {op : StoreOp D}

/-- A step other than T4 adds no Attempt and moves no pointer. -/
theorem unattempted_numbered {ambient : Ambient} {d : Db D}
    (hop : ∀ identity creation, op ≠ .command identity (.createAttempt creation))
    (hattempts : (op.apply ambient d).table .attempts = d.table .attempts) (h : AttemptsNumbered d) :
    AttemptsNumbered (op.apply ambient d) := by
  refine ⟨fun id attempt hattempt => ?_, fun runId => ?_, fun runId status' hstatus' => ?_⟩
  · rw [State.find_congr hattempts] at hattempt
    exact apply_grown op ambient (by decide) (h.owner id attempt hattempt)
  · rw [attemptsOf_congr hattempts]
    exact h.ordinals runId
  · rw [attemptsOf_congr hattempts]
    cases hold : d.find .runStatus runId with
    | none =>
      -- A new Run has no Attempt: an Attempt's Run has a status.
      obtain ⟨-, taskId, rfl⟩ := apply_runStatus_new hstatus' hold
      have hempty : attemptsOf runId d = [] := by
        rw [attemptsOf, List.filter_eq_nil_iff]
        intro p hp hrun
        exact h.owner p.1 p.2 (State.mem_rows.mp hp) (by rw [beq_iff_eq.mp hrun, hold])
      rw [hempty]
      rfl
    | some old =>
      obtain ⟨new, hnew, hmove⟩ := apply_runStatus op ambient hold
      obtain rfl := Option.some.inj (hnew.symm.trans hstatus')
      rw [← h.current runId old hold]
      cases hmove with
      | attempted identity creation hcall => exact absurd hcall (hop identity creation)
      | _ => rfl

theorem apply_attemptsNumbered (op : StoreOp D) (ambient : Ambient) {d : Db D}
    (h : AttemptsNumbered d) : AttemptsNumbered (op.apply ambient d) := by
  rcases apply_cases op ambient d with hsame | ⟨r, hran⟩
  · rwa [hsame]
  cases op with
  | command identity mutation =>
    cases mutation with
    | createAttempt creation =>
      obtain ⟨d₁, hc, hframe⟩ := hran.commits
      obtain ⟨status, hs⟩ := applyAttemptCreation_commits hc
      exact (hs.numbered h).congr (hframe .attempts (by decide)) (hframe .runStatus (by decide))
    | _ => exact unattempted_numbered (fun _ _ => by simp) (hran.same .attempts (by decide) rfl) h
  | write plain =>
    cases plain <;>
      exact unattempted_numbered (fun _ _ => by simp) (hran.same .attempts (by decide) rfl) h

/-! ## Lineages -/

/-- An Attempt's status and its session. -/
structure Lineage (d : Db D) (id : String) (status : AttemptStatus) (sessionId : String)
    (session : AgentControlSession D) : Prop where
  status_found : d.find .attemptStatus id = some status
  session_found : d.find .agentControlSessions sessionId = some session
  session_attempt : session.attemptId = id

/-- The Attempt is live exactly while its session is. -/
def Agree (status : AttemptStatus) (session : AgentControlSession D) : Prop :=
  status.terminal = false ↔ session.state = .ACTIVE

/-- A terminal update that moved the status revoked the session. -/
theorem terminal_revokes {ambient : Ambient} {expected : Int} {observation : Observation}
    {status status' : AttemptStatus} {session session' : AgentControlSession D}
    (hbefore : Lineage d id status sessionId session)
    (hafter : Lineage ((StoreOp.write (.recordExecutionObservation id expected
      (.Terminal observation))).apply ambient d) id status' sessionId session')
    (hmoved : status' ≠ status ∨ session' ≠ session) :
    status'.terminal = true ∧ session'.state ≠ .ACTIVE := by
  rcases apply_cases (.write (.recordExecutionObservation id expected (.Terminal observation)))
    ambient d with hsame | ⟨r, hran⟩
  · have hstatus := hafter.status_found
    have hsession := hafter.session_found
    rw [hsame, hbefore.status_found] at hstatus
    rw [hsame, hbefore.session_found] at hsession
    rcases hmoved with h | h
    · exact absurd (Option.some.inj hstatus).symm h
    · exact absurd (Option.some.inj hsession).symm h
  · obtain ⟨d₁, hc, hframe⟩ := hran.commits
    have hstatus := hafter.status_found
    have hsession := hafter.session_found
    have hobserved : (applyObservation ambient id expected (.Terminal observation)).Commits d r d₁ :=
      hc
    obtain ⟨old, hold, -, -, hs⟩ := applyObservation_commits hobserved
    rw [State.find_congr (hframe .attemptStatus (by decide)), hs, if_pos rfl] at hstatus
    rw [State.find_congr (hframe .agentControlSessions (by decide)),
      applyObservation_terminal_sessions hobserved, hbefore.session_found, Option.map_some] at hsession
    obtain rfl := Option.some.inj hstatus
    obtain rfl := Option.some.inj hsession
    refine ⟨rfl, ?_⟩
    split
    · exact fun h => nomatch h
    · rename_i hunselected
      exact fun hactive => hunselected ⟨hbefore.session_attempt, hactive⟩

/-- A step moves an Attempt's status and its session together. -/
theorem apply_lineage (op : StoreOp D) (ambient : Ambient) {status : AttemptStatus}
    {session : AgentControlSession D} (h : Lineage d id status sessionId session) :
    ∃ status' session', Lineage (op.apply ambient d) id status' sessionId session' ∧
      AttemptMove op d id status status' ∧ SessionMove op d session session' ∧
      (Agree status session → Agree status' session') := by
  obtain ⟨status', hstatus', hmove⟩ := apply_attemptStatus op ambient h.status_found
  obtain ⟨session', hsession', hturn⟩ := apply_session op ambient h.session_found
  have hattempt := hturn.attemptId.trans h.session_attempt
  refine ⟨status', session', ⟨hstatus', hsession', hattempt⟩, hmove, hturn, fun hagree => ?_⟩
  -- The two move apart only under a terminal update of this Attempt, and that moves both.
  have hended : ∀ expected observation,
      op = .write (.recordExecutionObservation id expected (.Terminal observation)) →
      status' ≠ status ∨ session' ≠ session → Agree status' session' := by
    rintro expected observation rfl hmoved
    obtain ⟨hterminal, hrevoked⟩ := terminal_revokes h ⟨hstatus', hsession', hattempt⟩ hmoved
    simp [Agree, hterminal, hrevoked]
  cases hturn with
  | revoked now expected observation hactive hop =>
    rw [h.session_attempt] at hop
    exact hended expected observation hop (.inr fun heq => by
      have hstate := congrArg AgentControlSession.state heq
      rw [hactive] at hstate
      cases hstate)
  | kept | rekeyed =>
    cases hmove with
    | kept => exact hagree
    | contacted => exact hagree
    | observed now update hop =>
      cases update with
      | Observe observation => exact hagree
      | Terminal observation =>
        exact hended _ observation hop (.inl fun heq => by
          have hrevision := congrArg AttemptStatus.revision heq
          simp only [AttemptStatus.observed] at hrevision
          omega)

/-- Every Attempt has its status and its session; they agree, and only a contacted Attempt
    has ended. -/
def LineagesSound (d : Db D) : Prop :=
  ∀ id attempt, d.find .attempts id = some attempt → ∃ status sessionId session,
    Lineage d id status sessionId session ∧ status.runId = attempt.runId ∧ Agree status session ∧
      (status.terminal = true → status.launchContactState = .ContactMayHaveOccurred)

omit [DecidableEq D] [DigestScheme D] in
theorem AttemptStatus.observed_runId (now : Int) (s : AttemptStatus) (update : ObservationUpdate) :
    (s.observed now update).runId = s.runId := by
  cases update <;> rfl

theorem AttemptMove.sound {old new : AttemptStatus} (h : AttemptMove op d id old new)
    (hcontact : old.terminal = true → old.launchContactState = .ContactMayHaveOccurred) :
    new.runId = old.runId ∧
      (new.terminal = true → new.launchContactState = .ContactMayHaveOccurred) := by
  cases h with
  | kept => exact ⟨rfl, hcontact⟩
  | contacted => exact ⟨rfl, fun _ => rfl⟩
  | observed now update hop hproven =>
    refine ⟨old.observed_runId now update, ?_⟩
    cases update with
    | Observe observation => exact hcontact
    | Terminal observation => exact fun _ => hproven observation rfl

theorem apply_lineagesSound (op : StoreOp D) (ambient : Ambient) {d : Db D}
    (h : LineagesSound d) : LineagesSound (op.apply ambient d) := by
  intro id attempt hattempt
  cases hold : d.find .attempts id with
  | none =>
    obtain ⟨hstatus, sessionId, session, hsession, hid, hactive⟩ := apply_attempt_new hattempt hold
    exact ⟨_, sessionId, session, ⟨hstatus, hsession, hid⟩, rfl,
      by simp [Agree, newAttemptStatus, hactive], fun hterminal => nomatch hterminal⟩
  | some before =>
    obtain rfl := Option.some.inj ((apply_frozen op ambient (i := .attempts) (by decide) hold).symm.trans hattempt)
    obtain ⟨status, sessionId, session, hlineage, hrun, hagree, hcontact⟩ := h id _ hold
    obtain ⟨status', session', hlineage', hmove, -, hkeeps⟩ := apply_lineage op ambient hlineage
    obtain ⟨hrun', hcontact'⟩ := hmove.sound hcontact
    exact ⟨status', sessionId, session', hlineage', hrun'.trans hrun, hkeeps hagree, hcontact'⟩

/-! ## Launch contact -/

/-- The Attempt was contacted, under this credential. -/
structure Sealed (d : Db D) (id sessionId : String) (revision : Int) (verifier : D) : Prop where
  lineage : ∃ status session, Lineage d id status sessionId session ∧
    status.launchContactState = .ContactMayHaveOccurred ∧
    session.credentialRevision = revision ∧ session.credentialHash = verifier

/-- Launch contact is kept, and no credential moves after it. -/
theorem apply_sealed (op : StoreOp D) (ambient : Ambient) {revision : Int} {verifier : D}
    (h : Sealed d id sessionId revision verifier) :
    Sealed (op.apply ambient d) id sessionId revision verifier := by
  obtain ⟨status, session, hlineage, hcontact, hrevision, hverifier⟩ := h.lineage
  obtain ⟨status', session', hlineage', hmove, hturn, -⟩ := apply_lineage op ambient hlineage
  refine ⟨status', session', hlineage', ?_, ?_⟩
  · cases hmove with
    | kept => exact hcontact
    | contacted => rfl
    | observed now update => cases update <;> exact hcontact
  · cases hturn with
    | kept => exact ⟨hrevision, hverifier⟩
    | revoked => exact ⟨hrevision, hverifier⟩
    | rekeyed newVerifier now found hop hstatus hlive huncontacted =>
      rw [hlineage.session_attempt, hlineage.status_found] at hstatus
      obtain rfl := Option.some.inj hstatus
      rw [hcontact] at huncontacted
      cases huncontacted

theorem steps_sealed {revision : Int} {verifier : D} (hrun : Run.Steps anyStep d d')
    (h : Sealed d id sessionId revision verifier) : Sealed d' id sessionId revision verifier :=
  hrun.invariant (P := fun e => Sealed e id sessionId revision verifier) h
    fun _ op ambient he _ => apply_sealed op ambient he

theorem reachable_attempts (h : Reachable d) : AttemptsNumbered d ∧ LineagesSound d := by
  obtain ⟨d₀, hinstalled, hrun⟩ := h
  refine hrun.invariant (P := fun e => AttemptsNumbered e ∧ LineagesSound e) ⟨?_, ?_⟩
    fun e op ambient he _ => ⟨apply_attemptsNumbered op ambient he.1,
      apply_lineagesSound op ambient he.2⟩
  · have hempty : ∀ runId, attemptsOf runId d₀ = [] := fun runId => by
      rw [attemptsOf, State.rows, hinstalled.table_empty (by decide)]
      rfl
    refine ⟨fun id attempt hattempt => ?_, fun runId => ?_, fun runId status hstatus => ?_⟩
    · rw [hinstalled.find_none (by decide)] at hattempt
      cases hattempt
    · rw [hempty]
      rfl
    · rw [hinstalled.find_none (by decide)] at hstatus
      cases hstatus
  · intro id attempt hattempt
    rw [hinstalled.find_none (by decide)] at hattempt
    cases hattempt

/-! ## The current lineage -/

/-- The Attempt was contacted. -/
def Contacted (d : Db D) (id : String) : Prop :=
  ∃ status, d.find .attemptStatus id = some status ∧
    status.launchContactState = .ContactMayHaveOccurred

omit [DigestScheme D] in
/-- A lineage view is of the rows it was made from. -/
theorem mem_lineages {view : AttemptLineageView} (h : view ∈ lineages runId d) :
    ∃ status session, Lineage d view.attempt.id status view.session.id session ∧
      status.runId = runId := by
  obtain ⟨⟨id, status⟩, hstatus, hview⟩ := List.mem_filterMap.mp h
  obtain ⟨hrow, hselected⟩ := List.mem_filter.mp hstatus
  obtain ⟨hrun, -⟩ := Bool.and_eq_true_iff.mp hselected
  obtain ⟨attempt, -, hview⟩ := Option.bind_eq_some_iff.mp hview
  obtain ⟨⟨sessionId, session⟩, hsession, hview⟩ := Option.bind_eq_some_iff.mp hview
  obtain rfl := Option.some.inj hview
  obtain ⟨hfound, hbound⟩ := sessionOf_iff.mp hsession
  exact ⟨status, session, ⟨State.mem_rows.mp hrow, hfound, hbound⟩, by simpa using hrun⟩

omit [DigestScheme D] in
/-- A current lineage is the only one there is. -/
theorem loadCurrentLineage_lineages {view : AttemptLineageView}
    (h : loadCurrentLineage runId d = .ok (some view)) : lineages runId d = [view] := by
  unfold loadCurrentLineage at h
  split at h
  · cases h
  · rename_i hlist
    split at h
    · rw [hlist, Option.some.inj (Except.ok.inj h)]
    · cases h
  · cases h

namespace Sample

def observe (c : Char) (expected : Int) (update : ObservationUpdate) :
    Ambient × StoreOp PrefixDigest :=
  (ambient c, .write (.recordExecutionObservation "attempt" expected update))

/-- The contacted Attempt ended as exited; or ended as running, and then observed absent. -/
theorem ended_twice : ∃ d ∈ runAll installed contacted,
    (∃ a ∈ d.find .attempts "attempt", a.runId = "run") ∧
    (∃ s ∈ d.find .attemptStatus "attempt", s.terminal = false) ∧
    (∃ d₁ ∈ runAll d [observe 'l' 2 (.Terminal .Exited)],
      ∃ s ∈ d₁.find .attemptStatus "attempt", s.terminal = true ∧ s.observedExecution = .Exited) ∧
    ∃ d₂ ∈ runAll d [observe 'l' 2 (.Terminal .Running)],
      (∃ s ∈ d₂.find .attemptStatus "attempt",
        s.terminal = true ∧ s.observedExecution = .Running) ∧
      ∃ d₃ ∈ runAll d₂ [observe 'm' 3 (.Observe .Absent)],
        ∃ s ∈ d₃.find .attemptStatus "attempt", s.observedExecution = .Absent := by
  decide +kernel

end Sample

/-- In every reachable state: a Run has one live Attempt at most, its Attempts are numbered
    1, 2, … and it points to the last of them, launch keys are not shared, and every Attempt
    has a session that is ACTIVE exactly while the Attempt is live. A terminal Attempt was
    contacted, and from contact on neither the contact nor the credential changes. -/
theorem attempts_sound {d : Db D} (h : Reachable d) :
    (∀ id id' attempt attempt' status status', d.find .attempts id = some attempt →
      d.find .attempts id' = some attempt' → attempt.runId = attempt'.runId →
      d.find .attemptStatus id = some status → d.find .attemptStatus id' = some status' →
      status.terminal = false → status'.terminal = false → id = id') ∧
    (∀ runId, (attemptsOf runId d).map (fun p => p.2.ordinal) =
      numbered (attemptsOf runId d).length) ∧
    (∀ id id' attempt attempt', d.find .attempts id = some attempt →
      d.find .attempts id' = some attempt' → attempt.launchKey = attempt'.launchKey → id = id') ∧
    (∀ runId status, d.find .runStatus runId = some status →
      status.currentAttemptId = (attemptsOf runId d).getLast?.map Prod.fst) ∧
    ∀ id attempt, d.find .attempts id = some attempt → ∃ status sessionId session,
      Lineage d id status sessionId session ∧ (status.terminal = false ↔ session.state = .ACTIVE) ∧
      (status.terminal = true → status.launchContactState = .ContactMayHaveOccurred) ∧
      (status.launchContactState = .ContactMayHaveOccurred → ∀ d', Run.Steps anyStep d d' →
        ∃ status' session', Lineage d' id status' sessionId session' ∧
          status'.launchContactState = .ContactMayHaveOccurred ∧
          session'.credentialRevision = session.credentialRevision ∧
          session'.credentialHash = session.credentialHash) := by
  obtain ⟨hnumbered, hlineages⟩ := reachable_attempts h
  refine ⟨?_, hnumbered.ordinals, ?_, hnumbered.current, ?_⟩
  · intro id id' attempt attempt' status status' hattempt hattempt' hrun hstatus hstatus' hlive hlive'
    obtain ⟨_, _, _, hlineage, howner, -⟩ := hlineages id attempt hattempt
    obtain ⟨_, _, _, hlineage', howner', -⟩ := hlineages id' attempt' hattempt'
    obtain rfl := Option.some.inj (hlineage.status_found.symm.trans hstatus)
    obtain rfl := Option.some.inj (hlineage'.status_found.symm.trans hstatus')
    by_contra hne
    have hclash := State.clash_of_find hstatus hstatus' hne
    simp [clash, howner, howner', hrun, hlive, hlive'] at hclash
  · intro id id' attempt attempt' hattempt hattempt' hkey
    by_contra hne
    have hclash := State.clash_of_find hattempt hattempt' hne
    simp [clash, hkey] at hclash
  · intro id attempt hattempt
    obtain ⟨status, sessionId, session, hlineage, -, hagree, hcontact⟩ :=
      hlineages id attempt hattempt
    refine ⟨status, sessionId, session, hlineage, hagree, hcontact, fun hcontacted d' hrun => ?_⟩
    exact (steps_sealed hrun ⟨status, session, hlineage, hcontacted, rfl, rfl⟩).lineage

theorem attempts_sound_contacted : ∃ d attempt status sessionId session,
    runAll Sample.installed Sample.contacted = some d ∧
    d.find .attempts "attempt" = some attempt ∧ Lineage d "attempt" status sessionId session ∧
    (status.terminal = false ↔ session.state = .ACTIVE) := by
  obtain ⟨d, hd, ⟨attempt, hattempt, -⟩, -⟩ := Sample.ended_twice
  obtain ⟨status, sessionId, session, hlineage, hagree, -⟩ :=
    (attempts_sound (Sample.reachable_of_runAll hd)).2.2.2.2 "attempt" attempt hattempt
  exact ⟨d, attempt, status, sessionId, session, hd, hattempt, hlineage, hagree⟩

/-! ## Terminal Attempts -/

/-- A terminal Attempt is observed as what it is only, and an Attempt ends only as exited or
    absent. -/
def ObservesDefinitively (d : Db D) (op : StoreOp D) : Prop :=
  ∀ attemptId update status,
    op = .write (.recordExecutionObservation attemptId status.revision update) →
    d.find .attemptStatus attemptId = some status →
    (status.terminal = true → update = .Observe status.observedExecution) ∧
    (status.terminal = false → status.launchContactState = .ContactMayHaveOccurred →
      ∀ o, update = .Terminal o → o = .Exited ∨ o = .Absent)

/-- What a later status keeps of a terminal one. -/
structure StaysEnded (old new : AttemptStatus) : Prop where
  observed : new.observedExecution = old.observedExecution
  finished : new.finishedAt = old.finishedAt
  terminal : new.terminal = true
  contact : new.launchContactState = old.launchContactState
  contacted_at : new.launchContactInitiatedAt = old.launchContactInitiatedAt
  contacted_by : new.launchContactEpoch = old.launchContactEpoch

omit [DecidableEq D] [DigestScheme D] in
theorem StaysEnded.trans {a b c : AttemptStatus} (h : StaysEnded a b) (h' : StaysEnded b c) :
    StaysEnded a c :=
  ⟨h'.observed.trans h.observed, h'.finished.trans h.finished, h'.terminal,
    h'.contact.trans h.contact, h'.contacted_at.trans h.contacted_at,
    h'.contacted_by.trans h.contacted_by⟩

theorem AttemptMove.staysEnded {old new : AttemptStatus} (h : AttemptMove op d id old new)
    (hop : ObservesDefinitively d op) (hold : d.find .attemptStatus id = some old)
    (hterminal : old.terminal = true) : StaysEnded old new := by
  cases h with
  | kept => exact ⟨rfl, rfl, hterminal, rfl, rfl, rfl⟩
  | contacted now epoch status huncontacted hlive =>
    rw [hterminal] at hlive
    cases hlive
  | observed now update hcall =>
    obtain rfl := (hop id update old hcall hold).1 hterminal
    exact ⟨rfl, rfl, hterminal, rfl, rfl, rfl⟩

/-- Terminal Attempts are exited or absent. -/
def EndedDefinitively (d : Db D) : Prop :=
  ∀ id status, d.find .attemptStatus id = some status → status.terminal = true →
    status.observedExecution = .Exited ∨ status.observedExecution = .Absent

theorem apply_endedDefinitively {ambient : Ambient} {d : Db D} (h : EndedDefinitively d)
    (hop : ObservesDefinitively d op) : EndedDefinitively (op.apply ambient d) := by
  intro id status hstatus hterminal
  cases hold : d.find .attemptStatus id with
  | none =>
    obtain ⟨_, _, -, rfl⟩ := apply_attemptStatus_new hstatus hold
    cases hterminal
  | some old =>
    obtain ⟨new, hnew, hmove⟩ := apply_attemptStatus op ambient hold
    obtain rfl := Option.some.inj (hnew.symm.trans hstatus)
    cases hlive : old.terminal with
    | true =>
      rw [(hmove.staysEnded hop hold hlive).observed]
      exact h id old hold hlive
    | false =>
      cases hmove with
      | kept | contacted => cases hlive.symm.trans hterminal
      | observed now update hcall hcontact =>
        cases update with
        | Observe observation => cases hlive.symm.trans hterminal
        | Terminal observation =>
          exact (hop id _ old hcall hold).2 hlive (hcontact observation rfl) observation rfl

/-- In every run in which Attempts end only as exited or absent and a terminal Attempt is
    observed as nothing else: a terminal Attempt is exited or absent, and its observation,
    finish time, terminal flag and contact facts stay. -/
theorem terminal_attempts_stay {d₀ d d' : Db D} (hinstalled : Installed d₀)
    (hbefore : Run.Steps ObservesDefinitively d₀ d)
    (hafter : Run.Steps ObservesDefinitively d d') {id : String} {status : AttemptStatus}
    (hstatus : d.find .attemptStatus id = some status) (hterminal : status.terminal = true) :
    (status.observedExecution = .Exited ∨ status.observedExecution = .Absent) ∧
      ∃ status', d'.find .attemptStatus id = some status' ∧
        status'.observedExecution = status.observedExecution ∧
        status'.finishedAt = status.finishedAt ∧ status'.terminal = true ∧
        status'.launchContactState = status.launchContactState ∧
        status'.launchContactInitiatedAt = status.launchContactInitiatedAt ∧
        status'.launchContactEpoch = status.launchContactEpoch := by
  have hdefinite : EndedDefinitively d := by
    refine hbefore.invariant (P := EndedDefinitively) (fun id status hfound => ?_)
      fun e op ambient he hop => apply_endedDefinitively he hop
    rw [hinstalled.find_none (by decide)] at hfound
    cases hfound
  refine ⟨hdefinite id status hstatus hterminal, ?_⟩
  have hstays := hafter.invariant
    (P := fun e => ∃ status', e.find .attemptStatus id = some status' ∧ StaysEnded status status')
    ⟨status, hstatus, rfl, rfl, hterminal, rfl, rfl, rfl⟩ ?_
  · obtain ⟨status', hstatus', hended⟩ := hstays
    exact ⟨status', hstatus', hended.observed, hended.finished, hended.terminal, hended.contact,
      hended.contacted_at, hended.contacted_by⟩
  · rintro e op ambient ⟨old, hold, hended⟩ hop
    obtain ⟨new, hnew, hmove⟩ := apply_attemptStatus op ambient hold
    exact ⟨new, hnew, hended.trans (hmove.staysEnded hop hold hended.terminal)⟩

theorem terminal_attempts_stay_exited : ∃ (d d' : Sample.Store) (status status' : AttemptStatus),
    d.find .attemptStatus "attempt" = some status ∧ status.observedExecution = .Exited ∧
    d' = Sample.cancel.2.apply Sample.cancel.1 d ∧
    d'.find .attemptStatus "attempt" = some status' ∧ status'.observedExecution = .Exited := by
  obtain ⟨d, hd, -, ⟨before, hbefore, hlive⟩, ⟨d₁, hd₁, status, hstatus, hterminal, hobserved⟩, -⟩ :=
    Sample.ended_twice
  have hcalls : ∀ call ∈ Sample.contacted, ∀ e, ObservesDefinitively e call.2 := by
    simp [Sample.contacted, Sample.attached, Sample.dispatched, Sample.planned,
      Sample.materialize, Sample.call, ObservesDefinitively]
  have hends : ObservesDefinitively d (Sample.observe 'l' 2 (.Terminal .Exited)).2 := by
    intro attemptId update found hop hfound
    simp only [Sample.observe, StoreOp.write.injEq, PlainWrite.recordExecutionObservation.injEq]
      at hop
    obtain ⟨rfl, -, rfl⟩ := hop
    obtain rfl := Option.some.inj (hbefore.symm.trans hfound)
    refine ⟨fun hended => ?_, fun _ _ o ho => .inl (ObservationUpdate.Terminal.inj ho).symm⟩
    cases hlive.symm.trans hended
  have hrun : Run.Steps ObservesDefinitively Sample.installed d₁ := by
    rw [runAll_one hd₁]
    exact .step (runAll_admitted .refl hcalls hd) _ _ hends
  have hcancel : ObservesDefinitively d₁ Sample.cancel.2 := fun _ _ _ hop => nomatch hop
  obtain ⟨-, status', hstatus', hsame, -⟩ := terminal_attempts_stay Sample.installed_installed hrun
    (.step .refl Sample.cancel.2 Sample.cancel.1 hcancel) hstatus hterminal
  exact ⟨d₁, _, status, status', hstatus, hobserved, rfl, hstatus', hsame.trans hobserved⟩

/-- An Attempt ends as running, and once it has ended it is observed as absent. -/
theorem terminal_attempt_rewritten : ∃ (d d' : Sample.Store) (status status' : AttemptStatus),
    Reachable d ∧ Run.Steps anyStep d d' ∧ d.find .attemptStatus "attempt" = some status ∧
    status.terminal = true ∧ status.observedExecution = .Running ∧
    d'.find .attemptStatus "attempt" = some status' ∧ status'.observedExecution = .Absent := by
  obtain ⟨d, hd, -, -, -, d₂, hd₂, ⟨status, hstatus, hterminal, hobserved⟩, d₃, hd₃, status', hstatus',
    hobserved'⟩ := Sample.ended_twice
  exact ⟨d₂, d₃, status, status',
    ⟨_, Sample.installed_installed, runAll_steps (runAll_steps .refl hd) hd₂⟩,
    runAll_steps .refl hd₃, hstatus, hterminal, hobserved, hstatus', hobserved'⟩

end Pantheon
