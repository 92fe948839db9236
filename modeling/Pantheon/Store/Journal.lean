/-
  The Event Journal has no gap.
  Events are appended on two paths, by the command envelope and inside transactions of their
  own (`appendInternalEvent`); both take the next number of the current journal epoch.
  `apply_journal` says what any call of the store does to the journal and the ledger, and
  `journal_gapless` what holds in every reachable state: the current epoch's events are
  numbered 1, 2, … in the order they were committed, up to the allocator, and every ledger row
  names exactly the event that carries its command.
-/
import Pantheon.Store.Machine

namespace Pantheon

open Relational

variable {D : Type} [DecidableEq D]

/-! ## Epochs -/

variable {d d' : Db D} {ambient : Ambient} {cursor : JournalCursor} {attemptId id : String}
  {expected : Int} {event : JournalEvent}

/-- There is one current epoch at most, so being current is being found. -/
theorem currentEpoch_iff {epoch : String} {row : JournalEpoch} :
    currentEpoch d = some (epoch, row) ↔
      d.find .journalEpochs epoch = some row ∧ row.isCurrent = true := by
  refine State.search_iff (d := d) (i := .journalEpochs) (p := fun q => q.2.isCurrent)
    fun q q' hq hq' => ?_
  simp only [clash, decide_eq_true_eq]
  exact ⟨hq, hq'⟩

/-- The tables of the journal and the ledger are the same. -/
structure JournalSame (d d' : Db D) : Prop where
  epochs : d'.table .journalEpochs = d.table .journalEpochs
  events : d'.table .eventJournal = d.table .eventJournal
  ledger : d'.table .commands = d.table .commands

theorem JournalSame.refl (d : Db D) : JournalSame d d := ⟨rfl, rfl, rfl⟩

theorem JournalSame.trans {d'' : Db D} (h : JournalSame d d') (h' : JournalSame d' d'') :
    JournalSame d d'' :=
  ⟨h'.epochs.trans h.epochs, h'.events.trans h.events, h'.ledger.trans h.ledger⟩

/-- An event was appended in the slot that was next. -/
structure Appended (d d' : Db D) (id : String) (event : JournalEvent) : Prop where
  slot : Allocated ⟨event.journalEpoch, event.sequence⟩ d d'
  rows : d'.rows .eventJournal = d.rows .eventJournal ++ [(id, event)]

/-- What a call does to the journal: nothing, one event of its own, or one event with the
    ledger row of its command. -/
inductive JournalMove (d d' : Db D) : Prop
  | same (h : JournalSame d d')
  | internal (d₁ : Db D) (id : String) (event : JournalEvent) (hbefore : JournalSame d d₁)
      (happended : Appended d₁ d' id event) (hcause : event.command = none)
      (hledger : d'.table .commands = d₁.table .commands)
  | command (d₁ : Db D) (id : String) (event : JournalEvent) (k : String × String)
      (entry : CommandRow D) (hbefore : JournalSame d d₁) (happended : Appended d₁ d' id event)
      (hcause : event.command = some k) (hnew : d₁.find .commands k = none)
      (hcursor : entry.journalEpoch = event.journalEpoch ∧ entry.sequence = event.sequence)
      (hledger : ∀ k', d'.find .commands k' = if k = k' then some entry else d₁.find .commands k')

theorem appendInternalEvent_commits {eventType : String}
    (h : (appendInternalEvent ambient eventType).Commits d cursor d') :
    Appended d d' ambient.eventId
      ⟨cursor.epoch, cursor.sequence, eventType, ambient.recordedAt, none⟩ := by
  obtain ⟨c, d₁, halloc, h₁⟩ := Writer.commits_bind.mp h
  obtain ⟨d₂, hevent, h₂⟩ := insert_then h₁
  obtain ⟨rfl, rfl⟩ := Writer.commits_pure.mp h₂
  obtain ⟨⟨row, hcur, hseq, hepochs⟩, hframe⟩ := commits_allocateSequence halloc
  obtain ⟨-, -, -, -, hrows, -, hother⟩ := State.insert_ok hevent
  refine ⟨⟨row, hcur, hseq, fun k => ?_⟩, ?_⟩
  · rw [State.find_congr (hother _ (by decide)), hepochs]
  · rw [hrows, State.rows, hframe _ (by decide)]
    rfl

/-- A transaction that writes elsewhere and then appends its event. -/
theorem JournalMove.of_event {eventType : String} {d₁ : Db D} (hbefore : JournalSame d d₁)
    (h : (appendInternalEvent ambient eventType).Commits d₁ cursor d') : JournalMove d d' :=
  .internal d₁ ambient.eventId _ hbefore (appendInternalEvent_commits h) rfl
    (h.within.same .commands (by decide) (by decide))

/-! ## What every call does -/

/-- The rights leave the journal and the ledger alone. -/
def sparesJournal (A : Access TableName) : Bool :=
  ledgerTables.all fun i => !A.inserts.contains i && !A.updates.contains i

theorem journalSame_of_within {A : Access TableName} (hA : sparesJournal A = true)
    (h : Within A d d') : JournalSame d d' := by
  simp only [sparesJournal, ledgerTables, List.all_cons, List.all_nil, Bool.and_eq_true,
    Bool.not_eq_true', List.contains_eq_mem, decide_eq_false_iff_not] at hA
  exact ⟨h.same _ hA.2.2.1.1 hA.2.2.1.2, h.same _ hA.1.1 hA.1.2, h.same _ hA.2.1.1 hA.2.1.2⟩

theorem journalSame_of_others {i : TableName} (hi : i ∉ ledgerTables)
    (h : ∀ j, j ≠ i → d'.table j = d.table j) : JournalSame d d' := by
  simp only [ledgerTables, List.mem_cons, List.not_mem_nil, or_false, not_or] at hi
  exact ⟨h _ (Ne.symm hi.2.2), h _ (Ne.symm hi.1), h _ (Ne.symm hi.2.1)⟩

theorem applyRekey_journal {verifier : D} {n : Int}
    (h : (applyRekey ambient attemptId verifier expected).Commits d n d') : JournalMove d d' := by
  obtain ⟨_, -, h₁⟩ := Writer.guard_then h
  obtain ⟨_, d₁, hsession, h₂⟩ := Writer.widen_then h₁
  obtain ⟨_, d₂, hevent, h₃⟩ := Writer.widen_then h₂
  obtain ⟨-, rfl⟩ := Writer.commits_pure.mp h₃
  exact .of_event (journalSame_of_within (by decide) hsession.within) hevent

theorem applyLaunchContact_journal {runId epoch : String} {expectedStatus expectedCredential : Int}
    {u : Unit} (h : (applyLaunchContact ambient runId attemptId epoch expectedStatus
      expectedCredential).Commits d u d') : JournalMove d d' := by
  obtain ⟨status, -, h₁⟩ := fetch_then h
  obtain ⟨-, h₂⟩ := Writer.ensure_then h₁
  split at h₂
  · obtain ⟨-, rfl⟩ := Writer.commits_pure.mp h₂
    exact .same (.refl _)
  · obtain ⟨_, -, h₃⟩ := Writer.guard_then h₂
    obtain ⟨d₁, _, hupdate, h₄⟩ := update_then h₃
    obtain ⟨_, d₂, hevent, h₅⟩ := Writer.widen_then h₄
    obtain ⟨-, rfl⟩ := Writer.commits_pure.mp h₅
    exact .of_event (journalSame_of_others (by decide) hupdate.others) hevent

theorem applyObservation_journal {n : Int} {update : ObservationUpdate}
    (h : (applyObservation ambient attemptId expected update).Commits d n d') :
    JournalMove d d' := by
  cases update with
  | Observe observation =>
    obtain ⟨-, h₁⟩ := Writer.ensure_then h
    obtain ⟨d₁, _, hupdate, h₂⟩ := update_then h₁
    obtain ⟨_, d₂, hstarted, h₃⟩ := Writer.widen_then h₂
    obtain ⟨-, rfl⟩ := Writer.commits_pure.mp h₃
    exact .same ((journalSame_of_others (by decide) hupdate.others).trans
      (journalSame_of_within (by decide) hstarted.within))
  | Terminal observation =>
    have h₁ := find_then h
    obtain ⟨-, h₂⟩ := Writer.ensure_then h₁
    obtain ⟨d₁, _, hupdate, h₃⟩ := update_then h₂
    obtain ⟨_, d₂, hrevoke, h₄⟩ := Writer.widen_then h₃
    obtain ⟨_, d₃, hevent, h₅⟩ := Writer.widen_then h₄
    obtain ⟨-, rfl⟩ := Writer.commits_pure.mp h₅
    exact .of_event ((journalSame_of_others (by decide) hupdate.others).trans
      (journalSame_of_within (by decide) hrevoke.within)) hevent

theorem applyConcludeRun_journal {runId : String} {target : RunPhase} {u : Unit}
    (h : (applyConcludeRun ambient runId target expected).Commits d u d') : JournalMove d d' := by
  obtain ⟨-, h₁⟩ := Writer.ensure_then h
  obtain ⟨d₁, _, hupdate, h₂⟩ := update_then h₁
  obtain ⟨_, d₂, hevent, h₃⟩ := Writer.widen_then h₂
  obtain ⟨-, rfl⟩ := Writer.commits_pure.mp h₃
  exact .of_event (journalSame_of_others (by decide) hupdate.others) hevent

section Submission

variable [DigestScheme D]

theorem submitFresh_journal {s : CandidateSubmission D} {priorRow : Bool} {r : SubmissionOutcome}
    (h : (submitFresh ambient s priorRow).Commits d r d') : JournalMove d d' := by
  obtain ⟨lineage, -, h₁⟩ := Writer.guard_then h
  obtain ⟨_, -, h₂⟩ := Writer.guard_then h₁
  obtain ⟨_, d₁, hinsert, h₃⟩ := Writer.widen_then h₂
  obtain ⟨d₂, _, hrun, h₄⟩ := update_then h₃
  obtain ⟨d₃, _, htask, h₅⟩ := update_then h₄
  obtain ⟨_, d₄, houtcome, h₆⟩ := Writer.widen_then h₅
  obtain ⟨_, d₅, hevent, h₇⟩ := Writer.widen_then h₆
  obtain ⟨-, rfl⟩ := Writer.commits_pure.mp h₇
  have hcandidate := journalSame_of_within (by decide) hinsert.within
  have hrunStatus := journalSame_of_others (by decide) hrun.others
  have htaskRow := journalSame_of_others (by decide) htask.others
  have hrequest := journalSame_of_within (by decide) houtcome.within
  exact .of_event (((hcandidate.trans hrunStatus).trans htaskRow).trans hrequest) hevent

theorem applyCandidateSubmission_journal {s : CandidateSubmission D} {r : SubmissionOutcome}
    (h : (applyCandidateSubmission ambient s).Commits d r d') : JournalMove d d' := by
  obtain ⟨_, -, h₁⟩ := Writer.guard_then h
  obtain ⟨recorded, -, h₂⟩ := Writer.guard_then h₁
  match recorded, h₂ with
  | some (.Succeeded resultRef), h₂ =>
    obtain ⟨digest, -, h₃⟩ := Writer.require_then h₂
    obtain ⟨_, -, h₄⟩ := Writer.guard_then h₃
    obtain ⟨-, rfl⟩ := Writer.commits_pure.mp h₄
    exact .same (.refl _)
  | some .Started, h₂ => exact submitFresh_journal h₂
  | some (.Failed _), h₂ => exact submitFresh_journal h₂
  | none, h₂ => exact submitFresh_journal h₂

/-- A plain write appends one event of its own at most. -/
theorem plain_journal {plain : PlainWrite D} {r : plain.body.Result}
    (h : (plain.body.body ambient).Commits d r d') : JournalMove d d' := by
  cases plain with
  | rekeyAgentControlSession => exact applyRekey_journal h
  | markLaunchContact => exact applyLaunchContact_journal h
  | recordExecutionObservation => exact applyObservation_journal h
  | concludeRun => exact applyConcludeRun_journal h
  | submitCandidate => exact applyCandidateSubmission_journal h
  | _ => exact .same (journalSame_of_within rfl h.within)

/-- The mutations leave the journal to the envelope. -/
theorem mutation_sparesJournal (m : Mutation D) : sparesJournal m.body.access = true := by
  cases m <;> rfl

theorem apply_journal (op : StoreOp D) (ambient : Ambient) (d : Db D) :
    JournalMove d (op.apply ambient d) := by
  cases op with
  | command identity m =>
    rcases Writer.transact_cases discardedFailure
      (execute ambient identity (m.body.body ambient)) d with ⟨e, he⟩ | ⟨r, d', hr, hc⟩
    · rw [show (StoreOp.command identity m).apply ambient d = d from congrArg Prod.snd he]
      exact .same (.refl d)
    · rw [show (StoreOp.command identity m).apply ambient d = d' from congrArg Prod.snd hr]
      rcases commits_execute hc with ⟨_, -, -, -, rfl⟩ | ⟨hnone, value, cursor, d₁, -, hm, hrec⟩
      · exact .same (.refl _)
      · have hbefore := journalSame_of_within (mutation_sparesJournal m) hm.within
        have hnew := (State.find_congr hbefore.ledger (identity.epoch, identity.id)).trans hnone
        exact .command d₁ ambient.eventId _ (identity.epoch, identity.id) _ hbefore
          ⟨hrec.slot, hrec.event⟩ rfl hnew ⟨rfl, rfl⟩ hrec.ledger
  | write plain =>
    rcases Writer.transact_cases discardedFailure (plain.body.body ambient) d with
      ⟨e, he⟩ | ⟨r, d', hr, hc⟩
    · rw [show (StoreOp.write plain).apply ambient d = d from congrArg Prod.snd he]
      exact .same (.refl d)
    · rw [show (StoreOp.write plain).apply ambient d = d' from congrArg Prod.snd hr]
      exact plain_journal hc

end Submission

/-! ## The invariant -/

/-- The numbers of an epoch's events, in the order the events were committed. -/
def sequencesOf (d : Db D) (epoch : String) : List Int :=
  ((d.rows .eventJournal).filter fun p => p.2.journalEpoch == epoch).map fun p => p.2.sequence

/-- The current epoch's events are numbered without a gap up to the allocator. -/
def Gapless (d : Db D) : Prop :=
  ∃ epoch row, ∃ n : Nat, currentEpoch d = some (epoch, row) ∧ row.nextSequence = (n : Int) + 1 ∧
    sequencesOf d epoch = numbered n

/-- A ledger row and the event that carries its command name each other. -/
structure LedgerSound (d : Db D) : Prop where
  event : ∀ k entry, d.find .commands k = some entry → ∃ id event,
    d.find .eventJournal id = some event ∧ event.command = some k ∧
      event.journalEpoch = entry.journalEpoch ∧ event.sequence = entry.sequence
  entry : ∀ id event k, d.find .eventJournal id = some event → event.command = some k →
    ∃ entry, d.find .commands k = some entry ∧
      event.journalEpoch = entry.journalEpoch ∧ event.sequence = entry.sequence

theorem Gapless.congr (hsame : JournalSame d d') (h : Gapless d) : Gapless d' := by
  unfold Gapless currentEpoch sequencesOf State.rows at h ⊢
  rwa [hsame.epochs, hsame.events]

theorem LedgerSound.congr (hsame : JournalSame d d') (h : LedgerSound d) : LedgerSound d' := by
  refine ⟨fun k entry hfound => ?_, fun id event k hfound hcause => ?_⟩
  · rw [State.find_congr hsame.ledger] at hfound
    obtain ⟨id, event, hevent, hrest⟩ := h.event k entry hfound
    exact ⟨id, event, (State.find_congr hsame.events id).trans hevent, hrest⟩
  · rw [State.find_congr hsame.events] at hfound
    obtain ⟨entry, hentry, hrest⟩ := h.entry id event k hfound hcause
    exact ⟨entry, (State.find_congr hsame.ledger k).trans hentry, hrest⟩

/-- The epoch stays current when a slot of it is taken. -/
theorem Allocated.currentEpoch (h : Allocated cursor d d') :
    ∃ row, currentEpoch d = some (cursor.epoch, row) ∧
      row.nextSequence = cursor.sequence ∧
      currentEpoch d' = some (cursor.epoch, { row with nextSequence := row.nextSequence + 1 }) := by
  obtain ⟨row, hcurrent, hnext, hepochs⟩ := h
  refine ⟨row, hcurrent, hnext, currentEpoch_iff.mpr ⟨?_, (currentEpoch_found hcurrent).2⟩⟩
  rw [hepochs, if_pos rfl]

/-- The new event takes the number after the last one. -/
theorem Gapless.append (happended : Appended d d' id event) (h : Gapless d) : Gapless d' := by
  obtain ⟨epoch, row, n, hcurrent, hnext, hnumbers⟩ := h
  obtain ⟨row', hcurrent', hnext', hafter⟩ := happended.slot.currentEpoch
  obtain ⟨rfl, rfl⟩ := Prod.mk.inj (Option.some.inj (hcurrent'.symm.trans hcurrent))
  refine ⟨_, _, n + 1, hafter, by simp [hnext], ?_⟩
  have hold : sequencesOf d' event.journalEpoch =
      sequencesOf d event.journalEpoch ++ [event.sequence] := by
    simp [sequencesOf, happended.rows]
  rw [hold, hnumbers, numbered_succ, ← hnext, hnext']

theorem Appended.events (h : Appended d d' id event) {id' : String} {event' : JournalEvent} :
    d'.find .eventJournal id' = some event' ↔
      d.find .eventJournal id' = some event' ∨ (id' = id ∧ event' = event) := by
  rw [← State.mem_rows, ← State.mem_rows, h.rows, List.mem_append, List.mem_singleton,
    Prod.mk.injEq]

/-- An event without a command touches no ledger row. -/
theorem LedgerSound.internal (happended : Appended d d' id event) (hcause : event.command = none)
    (hledger : d'.table .commands = d.table .commands) (h : LedgerSound d) : LedgerSound d' := by
  refine ⟨fun k entry hfound => ?_, fun id' event' k hfound hcause' => ?_⟩
  · rw [State.find_congr hledger] at hfound
    obtain ⟨id', event', hevent, hrest⟩ := h.event k entry hfound
    exact ⟨id', event', happended.events.mpr (.inl hevent), hrest⟩
  · rw [State.find_congr hledger]
    rcases happended.events.mp hfound with hold | ⟨-, rfl⟩
    · exact h.entry id' event' k hold hcause'
    · rw [hcause] at hcause'
      cases hcause'

/-- The event of a new command is the one its ledger row names. -/
theorem LedgerSound.command {k : String × String} {entry : CommandRow D}
    (happended : Appended d d' id event) (hcause : event.command = some k)
    (hnew : d.find .commands k = none)
    (hcursor : entry.journalEpoch = event.journalEpoch ∧ entry.sequence = event.sequence)
    (hledger : ∀ k', d'.find .commands k' = if k = k' then some entry else d.find .commands k')
    (h : LedgerSound d) : LedgerSound d' := by
  refine ⟨fun k' entry' hfound => ?_, fun id' event' k' hfound hcause' => ?_⟩
  · rw [hledger] at hfound
    split at hfound
    · rename_i hk
      obtain rfl := Option.some.inj hfound
      exact ⟨id, event, happended.events.mpr (.inr ⟨rfl, rfl⟩), hk ▸ hcause, hcursor.1.symm,
        hcursor.2.symm⟩
    · obtain ⟨id', event', hevent, hrest⟩ := h.event k' entry' hfound
      exact ⟨id', event', happended.events.mpr (.inl hevent), hrest⟩
  · rcases happended.events.mp hfound with hold | ⟨-, rfl⟩
    · obtain ⟨entry', hentry, hrest⟩ := h.entry id' event' k' hold hcause'
      have hne : k ≠ k' := by
        rintro rfl
        rw [hnew] at hentry
        cases hentry
      exact ⟨entry', by rw [hledger, if_neg hne, hentry], hrest⟩
    · obtain rfl := Option.some.inj (hcause.symm.trans hcause')
      exact ⟨entry, by rw [hledger, if_pos rfl], hcursor.1.symm, hcursor.2.symm⟩

theorem JournalMove.sound (h : JournalMove d d') (hgapless : Gapless d) (hledger : LedgerSound d) :
    Gapless d' ∧ LedgerSound d' := by
  cases h with
  | same hsame => exact ⟨hgapless.congr hsame, hledger.congr hsame⟩
  | internal d₁ id event hbefore happended hcause hkept =>
    exact ⟨(hgapless.congr hbefore).append happended,
      (hledger.congr hbefore).internal happended hcause hkept⟩
  | command d₁ id event k entry hbefore happended hcause hnew hcursor hadded =>
    exact ⟨(hgapless.congr hbefore).append happended,
      (hledger.congr hbefore).command happended hcause hnew hcursor hadded⟩

/-- The journal is append-only. -/
theorem JournalMove.grows (h : JournalMove d d') :
    d.rows .eventJournal <+: d'.rows .eventJournal := by
  cases h with
  | same hsame =>
    have hrows : d'.rows .eventJournal = d.rows .eventJournal := by
      rw [State.rows, State.rows, hsame.events]
    exact hrows ▸ List.prefix_rfl
  | internal d₁ id event hbefore happended hcause hkept =>
    rw [happended.rows, State.rows, State.rows, hbefore.events]
    exact List.prefix_append _ _
  | command d₁ id event k entry hbefore happended hcause hnew hcursor hadded =>
    rw [happended.rows, State.rows, State.rows, hbefore.events]
    exact List.prefix_append _ _

theorem installed_sound (h : Installed d) : Gapless d ∧ LedgerSound d := by
  have hevents := h.find_none (i := .eventJournal) (by decide)
  have hcommands := h.find_none (i := .commands) (by decide)
  refine ⟨?_, fun k entry hfound => ?_, fun id event k hfound => ?_⟩
  · have hrows := h.table_empty (i := .eventJournal) (by decide)
    obtain ⟨generation, epoch, hc⟩ := h
    obtain ⟨d₁, -, h₁⟩ := insert_then hc
    obtain ⟨d₂, hepoch, h₂⟩ := insert_then h₁
    obtain ⟨d₃, hconfiguration, h₃⟩ := insert_then h₂
    have hscheduler := Writer.commits_insert.mp h₃
    have hfound : d.find .journalEpochs epoch = some ⟨1, true⟩ := by
      obtain ⟨-, -, -, -, -, hfind, -⟩ := State.insert_ok hepoch
      obtain ⟨-, -, -, -, -, -, hother₃⟩ := State.insert_ok hconfiguration
      obtain ⟨-, -, -, -, -, -, hother₄⟩ := State.insert_ok hscheduler
      rw [State.find_congr (hother₄ _ (by decide)), State.find_congr (hother₃ _ (by decide)),
        hfind, if_pos rfl]
    refine ⟨epoch, ⟨1, true⟩, 0, currentEpoch_iff.mpr ⟨hfound, rfl⟩, rfl, ?_⟩
    rw [sequencesOf, State.rows, hrows]
    rfl
  · rw [hcommands] at hfound
    cases hfound
  · rw [hevents] at hfound
    cases hfound

variable [DigestScheme D]

theorem journal_sound (h : Reachable d) : Gapless d ∧ LedgerSound d := by
  obtain ⟨d₀, hinstalled, hrun⟩ := h
  exact hrun.invariant (P := fun e => Gapless e ∧ LedgerSound e) (installed_sound hinstalled)
    fun e op ambient he _ => (apply_journal op ambient e).sound he.1 he.2

theorem journal_grows (h : Run.Steps anyStep d d') :
    d.rows .eventJournal <+: d'.rows .eventJournal :=
  h.invariant (P := fun e => d.rows .eventJournal <+: e.rows .eventJournal) List.prefix_rfl
    fun e op ambient he _ => he.trans (apply_journal op ambient e).grows

/-- In every reachable state the current epoch's events, in the order they were committed, are
    numbered 1, 2, …, `nextSequence - 1`; later calls only append events; and each row of the
    ledger names exactly the event that carries its command. -/
theorem journal_gapless {d : Db D} (h : Reachable d) :
    (∃ epoch row, currentEpoch d = some (epoch, row) ∧ 1 ≤ row.nextSequence ∧
      sequencesOf d epoch = numbered (row.nextSequence - 1).toNat) ∧
    (∀ d', Run.Steps anyStep d d' → d.rows .eventJournal <+: d'.rows .eventJournal) ∧
    ∀ k entry, d.find .commands k = some entry → ∃ id event,
      d.find .eventJournal id = some event ∧ event.command = some k ∧
      event.journalEpoch = entry.journalEpoch ∧ event.sequence = entry.sequence ∧
      ∀ id' event', d.find .eventJournal id' = some event' →
        (event'.command = some k ∨
          event'.journalEpoch = entry.journalEpoch ∧ event'.sequence = entry.sequence) →
        id' = id := by
  obtain ⟨⟨epoch, row, n, hcurrent, hnext, hnumbers⟩, hledger⟩ := journal_sound h
  refine ⟨⟨epoch, row, hcurrent, by omega, ?_⟩, fun d' hrun => journal_grows hrun, ?_⟩
  · rw [hnumbers, hnext]
    simp
  · intro k entry hentry
    obtain ⟨id, event, hevent, hcause, hepoch, hsequence⟩ := hledger.event k entry hentry
    refine ⟨id, event, hevent, hcause, hepoch, hsequence, fun id' event' hevent' hnames => ?_⟩
    -- Either way the other event has the same slot, and the slots are unique.
    have hslot : event'.journalEpoch = entry.journalEpoch ∧ event'.sequence = entry.sequence := by
      rcases hnames with hcause' | hslot
      · obtain ⟨entry', hentry', hslot⟩ := hledger.entry id' event' k hevent' hcause'
        obtain rfl := Option.some.inj (hentry'.symm.trans hentry)
        exact hslot
      · exact hslot
    by_contra hne
    have hclash := State.clash_of_find hevent' hevent hne
    simp [clash, hslot.1, hslot.2, hepoch, hsequence] at hclash

theorem journal_gapless_planned : ∃ d, runAll Sample.installed Sample.planned = some d ∧
    ∃ epoch row, currentEpoch d = some (epoch, row) ∧ 1 ≤ row.nextSequence ∧
      sequencesOf d epoch = numbered (row.nextSequence - 1).toNat := by
  have hruns : (runAll Sample.installed Sample.planned).isSome = true := by decide +kernel
  obtain ⟨d, hd⟩ := Option.isSome_iff_exists.mp hruns
  exact ⟨d, hd, (journal_gapless (Sample.reachable_of_runAll hd)).1⟩

end Pantheon
