/-
  Listing Goals and watching Events (`pantheon-engine/src/operator/`, the `events` and `goals`
  handlers of `pantheon-operator-api`).
  A client lists the Goals and then reads pages of Events after the last cursor it holds, while
  any calls of the store happen in between. `watch_delivers_exactly`: what it has been given is
  always a prefix of the Events committed since the list, and the next page continues it.
  The event stream of the daemon is such a client (`Streaming.watching`).
-/
import Pantheon.Store.Operator

namespace Pantheon

open Relational

variable {D : Type} [DecidableEq D]

/-! ## The service -/

/-- The refusals of the operator surface that reads can meet. -/
inductive OperatorError where
  | StaleCommandEpoch (supplied current : String)
  | CommandConflict (commandId : String)
  | Conflict (detail : String)
  | CursorGone (detail : String)
  | Internal (detail : String)
  deriving Repr, DecidableEq

namespace OperatorError

/-- `From<StoreError>`. -/
def ofStore : StoreError → OperatorError
  | .StaleCommandEpoch supplied current => .StaleCommandEpoch supplied current
  | .CommandConflict commandId => .CommandConflict commandId
  | .GoalNotCancellable goalId phase target =>
    .Conflict (StoreError.GoalNotCancellable goalId phase target).display
  | .RevisionConflict table id expected actual =>
    .Conflict (StoreError.RevisionConflict table id expected actual).display
  | other => .Internal other.display

/-- `From<CursorError>`. -/
def ofCursor (e : CursorError) : OperatorError := .CursorGone e.display

end OperatorError

/-- One durable Event, as an operator sees it. -/
structure EventView where
  eventId : String
  cursor : Cursor
  eventType : String
  recordedAt : Int
  commandEpoch : Option String
  commandId : Option String
  deriving Repr, DecidableEq

structure EventPage where
  events : List EventView
  next : Cursor
  deriving Repr, DecidableEq

structure GoalSummary where
  id : String
  phase : GoalPhase
  goalRevision : Int
  revision : Int
  deriving Repr, DecidableEq

structure GoalsPage where
  goals : List GoalSummary
  snapshotCursor : Cursor
  deriving Repr, DecidableEq

/-- The largest page of Events one read returns. -/
def maxEvents : Int := 256

/-- `Ord::clamp` between 1 and the largest page. -/
def clampLimit (limit : Int) : Int :=
  if limit < 1 then 1 else if maxEvents < limit then maxEvents else limit

def EventRecord.view (e : EventRecord) : EventView :=
  ⟨e.eventId, e.cursor, e.eventType, e.recordedAt, e.commandEpoch, e.commandId⟩

def GoalRecord.summary (g : GoalRecord) : GoalSummary :=
  ⟨g.id, g.phase, g.currentRevision, g.revision⟩

namespace OperatorService

/-- `OperatorService::goals`. -/
def goals (d : Db D) : Except OperatorError GoalsPage :=
  match goalSnapshot d with
  | .error e => .error (.ofStore e)
  | .ok snapshot => .ok ⟨snapshot.goals.map GoalRecord.summary, snapshot.cursor⟩

/-- `OperatorService::events_after`. -/
def eventsAfter (cursor : Cursor) (limit : Int) (d : Db D) : Except OperatorError EventPage :=
  match Pantheon.eventsAfter cursor (clampLimit limit) d with
  | .error e => .error (.ofStore e)
  | .ok (.error e) => .error (.ofCursor e)
  | .ok (.ok events) =>
    .ok ⟨events.map EventRecord.view, (events.getLast?.map EventRecord.cursor).getD cursor⟩

end OperatorService

/-! ## A client between writers -/

variable [DigestScheme D]

/-- A client that listed the Goals in `d₀`: the store now, the cursor it holds and the Events
    it has been given. Any call of the store and any read may come next. -/
inductive Watching (d₀ : Db D) (list : GoalsPage) : Db D → Cursor → List EventView → Prop where
  | listed (h : OperatorService.goals d₀ = .ok list) :
    Watching d₀ list d₀ list.snapshotCursor []
  | wrote {d : Db D} {cursor : Cursor} {delivered : List EventView}
      (before : Watching d₀ list d cursor delivered) (op : StoreOp D) (ambient : Ambient) :
    Watching d₀ list (op.apply ambient d) cursor delivered
  | read {d : Db D} {cursor : Cursor} {delivered : List EventView}
      (before : Watching d₀ list d cursor delivered) (limit : Int) (page : EventPage)
      (h : OperatorService.eventsAfter cursor limit d = .ok page) :
    Watching d₀ list d page.next (delivered ++ page.events)

/-- An Event as it is delivered. -/
def eventView (p : String × JournalEvent) : EventView := (eventRecord p).view

/-! ## What is committed after a list -/

/-- The journal of `d` is that of `d₀` with these events appended, all of the same epoch. -/
structure Follows (epoch : String) (n : Nat) (d₀ d : Db D)
    (committed : List (String × JournalEvent)) : Prop where
  rows : d.rows .eventJournal = d₀.rows .eventJournal ++ committed
  epochs : ∀ p ∈ committed, p.2.journalEpoch = epoch
  current : ∃ row, currentEpoch d = some (epoch, row) ∧
    row.nextSequence = ((n + committed.length : Nat) : Int) + 1

variable {epoch : String} {n : Nat} {d₀ d : Db D} {committed : List (String × JournalEvent)}
  {list : GoalsPage} {cursor : Cursor} {delivered : List EventView}

omit [DigestScheme D] in
theorem Follows.append {id : String} {d₁ d' : Db D} {event : JournalEvent}
    (hbefore : JournalSame d d₁) (happended : Appended d₁ d' id event)
    (h : Follows epoch n d₀ d committed) : Follows epoch n d₀ d' (committed ++ [(id, event)]) := by
  obtain ⟨row, hcurrent, hnext⟩ := h.current
  obtain ⟨row', hcurrent', -, hafter⟩ := happended.slot.currentEpoch
  rw [currentEpoch, State.rows, hbefore.epochs, ← State.rows, ← currentEpoch, hcurrent] at hcurrent'
  obtain ⟨rfl, rfl⟩ := Prod.mk.inj (Option.some.inj hcurrent')
  refine ⟨?_, fun p hp => ?_, _, hafter, ?_⟩
  · rw [happended.rows, State.rows, hbefore.events, ← State.rows, h.rows, List.append_assoc]
  · rcases List.mem_append.mp hp with hold | hnew
    · exact h.epochs p hold
    · rw [List.mem_singleton.mp hnew]
  · simp [hnext]
    omega

omit [DigestScheme D] in
theorem Follows.move {d' : Db D} (hmove : JournalMove d d') (h : Follows epoch n d₀ d committed) :
    ∃ committed', Follows epoch n d₀ d' committed' ∧
      committed <+: committed' := by
  cases hmove with
  | same hsame =>
    refine ⟨committed, ⟨?_, h.epochs, ?_⟩, List.prefix_rfl⟩
    · rw [State.rows, hsame.events, ← State.rows, h.rows]
    · obtain ⟨row, hcurrent, hnext⟩ := h.current
      exact ⟨row, by rw [currentEpoch, State.rows, hsame.epochs]; exact hcurrent, hnext⟩
  | internal d₁ id event hbefore happended =>
    exact ⟨_, h.append hbefore happended, List.prefix_append _ _⟩
  | command d₁ id event k entry hbefore happended =>
    exact ⟨_, h.append hbefore happended, List.prefix_append _ _⟩

omit [DigestScheme D] in
theorem Follows.whole (h : Follows epoch n d₀ d committed) :
    epochRows epoch d = epochRows epoch d₀ ++ committed := by
  rw [epochRows, h.rows, List.filter_append, ← epochRows]
  congr 1
  exact List.filter_eq_self.mpr fun p hp => beq_iff_eq.mpr (h.epochs p hp)

/-- The whole epoch is numbered, up to what has been committed since. -/
theorem Follows.numbers (h : Follows epoch n d₀ d committed) (hreachable : Reachable d) :
    sequencesOf d epoch = numbered (n + committed.length) := by
  obtain ⟨row, hcurrent, hnext⟩ := h.current
  obtain ⟨epoch', row', m, hcurrent', hnext', hnumbers⟩ := (journal_sound hreachable).1
  obtain ⟨rfl, rfl⟩ := Prod.mk.inj (Option.some.inj (hcurrent.symm.trans hcurrent'))
  have hm : m = n + committed.length := by omega
  rw [hnumbers, hm]

theorem clampLimit_pos (limit : Int) : 1 ≤ (clampLimit limit).toNat := by
  unfold clampLimit maxEvents
  split
  · simp
  · split
    · simp
    · omega

theorem limited_clampLimit {α : Type} (limit : Int) (rows : List α) :
    limited (clampLimit limit) rows = rows.take (clampLimit limit).toNat := by
  have hpos := clampLimit_pos limit
  exact if_neg (by omega)

/-- The page read after the first `k` Events committed since the list. -/
def pageRows (limit : Int) (k : Nat) (committed : List (String × JournalEvent)) :
    List (String × JournalEvent) :=
  (committed.drop k).take (clampLimit limit).toNat

/-- The last Event of a page has the number at which the page ends. -/
theorem Follows.page_next {k : Nat} (h : Follows epoch n d₀ d committed) (hreachable : Reachable d)
    (hstart : sequencesOf d₀ epoch = numbered n) (limit : Int) :
    ((((pageRows limit k committed).map eventRecord).getLast?.map EventRecord.cursor).getD
      ⟨epoch, (n + k : Nat)⟩) = ⟨epoch, (n + k + (pageRows limit k committed).length : Nat)⟩ := by
  rw [List.getLast?_map]
  cases hlast : (pageRows limit k committed).getLast? with
  | none =>
    rw [List.getLast?_eq_none_iff] at hlast
    simp [hlast]
  | some p =>
    have hnonempty : 0 < (pageRows limit k committed).length := by
      rw [List.length_pos_iff]
      intro hnil
      simp [hnil] at hlast
    have hplace := hlast
    rw [List.getLast?_eq_getElem?, pageRows, List.getElem?_take] at hplace
    have hlength : (pageRows limit k committed).length ≤ (clampLimit limit).toNat := by
      simp [pageRows]
    rw [← pageRows, if_pos (by omega), List.getElem?_drop] at hplace
    have hmem : p ∈ committed := List.mem_of_getElem? hplace
    -- Its place in the whole epoch is behind the `n` Events of the list.
    have hfirst := length_epochRows hstart
    have hwhole : (epochRows epoch d)[n + (k + ((pageRows limit k committed).length - 1))]? =
        some p := by
      rw [h.whole, List.getElem?_append_right (by omega), hfirst, Nat.add_sub_cancel_left]
      exact hplace
    have hnumbers : (epochRows epoch d).map (fun q => q.2.sequence) =
        numbered (n + committed.length) := h.numbers hreachable
    have hnumber := number_at hnumbers hwhole
    simp only [Option.map_some, Option.getD_some, EventRecord.cursor, eventRecord, h.epochs p hmem,
      hnumber, Cursor.mk.injEq, true_and]
    omega

/-- A read from the cursor of a client gives the next page of what was committed. -/
theorem Follows.page {k : Nat} (h : Follows epoch n d₀ d committed) (hreachable : Reachable d)
    (hstart : sequencesOf d₀ epoch = numbered n) (hk : k ≤ committed.length) (limit : Int) :
    OperatorService.eventsAfter ⟨epoch, (n + k : Nat)⟩ limit d =
      .ok ⟨(pageRows limit k committed).map eventView,
        ⟨epoch, (n + k + (pageRows limit k committed).length : Nat)⟩⟩ := by
  obtain ⟨row, hcurrent, hnext⟩ := h.current
  have hfirst := length_epochRows hstart
  have hrows : (epochRows epoch d).drop (n + k) = committed.drop k := by
    rw [h.whole, List.drop_append, hfirst, Nat.add_sub_cancel_left,
      List.drop_eq_nil_of_le (by omega), List.nil_append]
  have hread := eventsAfter_of_gapless hcurrent hnext (h.numbers hreachable)
    (Nat.add_le_add_left hk n) (clampLimit limit)
  rw [hrows, limited_clampLimit, ← pageRows] at hread
  rw [OperatorService.eventsAfter, hread]
  simp only [List.map_map, h.page_next hreachable hstart limit]
  rfl

/-! ## What a client has been given -/

theorem Watching.steps (h : Watching d₀ list d cursor delivered) : Run.Steps anyStep d₀ d := by
  induction h with
  | listed => exact .refl
  | wrote before op ambient ih => exact .step ih op ambient trivial
  | read before limit page h ih => exact ih

theorem Watching.started (h : Watching d₀ list d cursor delivered) :
    OperatorService.goals d₀ = .ok list := by
  induction h with
  | listed h => exact h
  | wrote before op ambient ih => exact ih
  | read before limit page h ih => exact ih

/-- The list was made at the head of a numbered journal. -/
structure ListedAt (d₀ : Db D) (list : GoalsPage) (epoch : String) (n : Nat) : Prop where
  cursor : list.snapshotCursor = ⟨epoch, n⟩
  goals : list.goals = (goalRecords d₀).map GoalRecord.summary
  numbers : sequencesOf d₀ epoch = numbered n
  follows : Follows epoch n d₀ d₀ []

theorem listedAt (h₀ : Reachable d₀) (h : OperatorService.goals d₀ = .ok list) :
    ∃ epoch n, ListedAt d₀ list epoch n := by
  obtain ⟨⟨epoch, row, n, hcurrent, hnext, hnumbers⟩, -⟩ := journal_sound h₀
  rw [OperatorService.goals, goalSnapshot, readHead_of_current hcurrent] at h
  obtain rfl := Except.ok.inj h
  refine ⟨epoch, n, ?_, rfl, hnumbers, (List.append_nil _).symm, (fun _ hp => nomatch hp), row,
    hcurrent, hnext⟩
  simp [hnext]

theorem Watching.follows (h₀ : Reachable d₀) (hlisted : ListedAt d₀ list epoch n)
    (h : Watching d₀ list d cursor delivered) :
    ∃ committed, Follows epoch n d₀ d committed ∧ delivered.length ≤ committed.length ∧
      cursor = ⟨epoch, (n + delivered.length : Nat)⟩ ∧
      delivered = (committed.take delivered.length).map eventView := by
  induction h with
  | listed => exact ⟨[], hlisted.follows, le_refl _, hlisted.cursor, rfl⟩
  | @wrote d cursor delivered before op ambient ih =>
    obtain ⟨committed, hfollows, hlength, hcursor, hdelivered⟩ := ih
    obtain ⟨committed', hfollows', more, rfl⟩ := hfollows.move (apply_journal op ambient d)
    refine ⟨_, hfollows', hlength.trans (by simp), hcursor, ?_⟩
    rwa [List.take_append_of_le_length hlength]
  | @read d cursor delivered before limit page hpage ih =>
    obtain ⟨committed, hfollows, hlength, rfl, hdelivered⟩ := ih
    have hreachable := h₀.steps before.steps
    rw [hfollows.page hreachable hlisted.numbers hlength limit] at hpage
    obtain rfl := Except.ok.inj hpage
    refine ⟨committed, hfollows, ?_, by simp [Nat.add_assoc], ?_⟩
    · simp [pageRows]
      omega
    · have htake : committed.take (delivered.length + (pageRows limit delivered.length
          committed).length) = committed.take delivered.length ++
            pageRows limit delivered.length committed := by
        rw [List.take_add, pageRows, List.length_take, ← List.take_eq_take_min]
      simp only [List.length_append, List.length_map]
      rw [htake, List.map_append, ← hdelivered]

/-! ## The Goals of the list -/

/-- Whatever writes a Goal appends an Event. -/
theorem apply_goals (op : StoreOp D) (ambient : Ambient) (d : Db D) :
    (op.apply ambient d).table .goals = d.table .goals ∨
      (op.apply ambient d).rows .eventJournal ≠ d.rows .eventJournal := by
  cases op with
  | command identity m =>
    rcases Writer.transact_cases discardedFailure
      (execute ambient identity (m.body.body ambient)) d with ⟨e, he⟩ | ⟨r, d', hr, hc⟩
    · exact .inl (congrArg (·.table .goals) (congrArg Prod.snd he))
    · rw [show (StoreOp.command identity m).apply ambient d = d' from congrArg Prod.snd hr]
      rcases commits_execute hc with ⟨_, -, -, -, rfl⟩ | ⟨-, value, cursor, d₁, -, hm, hrec⟩
      · exact .inl rfl
      · have hbefore := journalSame_of_within (mutation_sparesJournal m) hm.within
        right
        rw [hrec.event, State.rows, State.rows, hbefore.events]
        simp
  | write plain =>
    rcases apply_cases (.write plain) ambient d with hsame | ⟨r, hran⟩
    · exact .inl (by rw [hsame])
    · cases plain <;> exact .inl (hran.same .goals (by decide) rfl)

/-- While nothing is committed after the list, the Goals are those of the list. -/
theorem steps_goals (hfirst : Follows epoch n d₀ d₀ []) (hrun : Run.Steps anyStep d₀ d) :
    ∃ committed, Follows epoch n d₀ d committed ∧
      (committed = [] → d.table .goals = d₀.table .goals) := by
  refine hrun.invariant (P := fun e => ∃ committed, Follows epoch n d₀ e committed ∧
    (committed = [] → e.table .goals = d₀.table .goals)) ⟨[], hfirst, fun _ => rfl⟩ ?_
  rintro e op ambient ⟨committed, hfollows, hgoals⟩ -
  obtain ⟨committed', hfollows', hprefix⟩ := hfollows.move (apply_journal op ambient e)
  refine ⟨committed', hfollows', ?_⟩
  rintro rfl
  obtain rfl := List.prefix_nil.mp hprefix
  rcases apply_goals op ambient e with hsame | happended
  · exact hsame.trans (hgoals rfl)
  · exact absurd (hfollows'.rows.trans hfollows.rows.symm) happended

theorem goals_at_cursor (hlisted : ListedAt d₀ list epoch n) (hrun : Run.Steps anyStep d₀ d)
    (hhead : readHead d = .ok list.snapshotCursor) : OperatorService.goals d = .ok list := by
  obtain ⟨committed, hfollows, hgoals⟩ := steps_goals hlisted.follows hrun
  obtain ⟨row, hcurrent, hnext⟩ := hfollows.current
  have hsequence := congrArg Cursor.sequence
    (Except.ok.inj ((readHead_of_current hcurrent).symm.trans hhead))
  have hnone : committed = [] := by
    rw [← List.length_eq_zero_iff]
    simp only [hlisted.cursor, hnext] at hsequence
    omega
  have hrecords : goalRecords d = goalRecords d₀ := by
    rw [goalRecords, goalRecords, State.rows, State.rows, hgoals hnone]
  rw [OperatorService.goals, goalSnapshot, hhead]
  simp only [bind, Except.bind, pure, Except.pure, hrecords, ← hlisted.goals]

omit [DigestScheme D] in
/-- What a read answers when the cursor cannot be resumed from. -/
theorem eventsAfter_refused {c head : Cursor} (hhead : readHead d = .ok head) (limit : Int) :
    (c.journalEpoch ≠ head.journalEpoch → OperatorService.eventsAfter c limit d =
      .error (.CursorGone (CursorError.UnknownEpoch c.journalEpoch head.journalEpoch).display)) ∧
    (c.journalEpoch = head.journalEpoch → head.sequence < c.sequence →
      OperatorService.eventsAfter c limit d =
        .error (.CursorGone (CursorError.AheadOfJournal c.sequence head.sequence).display)) := by
  constructor
  · intro hepoch
    rw [OperatorService.eventsAfter, Pantheon.eventsAfter, hhead]
    simp only [bind, Except.bind, if_pos hepoch]
    rfl
  · intro hepoch hahead
    rw [OperatorService.eventsAfter, Pantheon.eventsAfter, hhead]
    simp only [bind, Except.bind, hepoch, ne_eq, not_true_eq_false, if_false, if_pos hahead]
    rfl

/-- For any client that listed the Goals and reads pages while any calls of the store happen:
    the Events it has been given, followed by those still pending, are exactly the Events
    committed since the list, each once and in the order they were committed, and the next page
    continues with the pending ones. The list shows the Goals as every state at its cursor has
    them, and a cursor of another epoch or ahead of the head is refused. -/
theorem watch_delivers_exactly {d₀ d : Db D} {list : GoalsPage} {cursor : Cursor}
    {delivered : List EventView} (h₀ : Reachable d₀) (h : Watching d₀ list d cursor delivered) :
    (∃ committed pending,
      d.rows .eventJournal = d₀.rows .eventJournal ++ committed ∧
      committed.map eventView = delivered ++ pending ∧
      (∀ p ∈ committed, p.2.journalEpoch = list.snapshotCursor.journalEpoch ∧
        list.snapshotCursor.sequence < p.2.sequence) ∧
      (∀ p ∈ d₀.rows .eventJournal, p.2.journalEpoch = list.snapshotCursor.journalEpoch →
        p.2.sequence ≤ list.snapshotCursor.sequence) ∧
      ∀ limit, ∃ page, OperatorService.eventsAfter cursor limit d = .ok page ∧
        page.events = pending.take (clampLimit limit).toNat ∧
        (page.events = [] ↔ pending = [])) ∧
    (list.goals = (goalRecords d₀).map GoalRecord.summary ∧
      ∀ d', Run.Steps anyStep d₀ d' → readHead d' = .ok list.snapshotCursor →
        OperatorService.goals d' = .ok list) ∧
    ∃ head, readHead d = .ok head ∧ head.journalEpoch = list.snapshotCursor.journalEpoch ∧
      ∀ c limit,
        (c.journalEpoch ≠ head.journalEpoch → OperatorService.eventsAfter c limit d = .error
          (.CursorGone (CursorError.UnknownEpoch c.journalEpoch head.journalEpoch).display)) ∧
        (c.journalEpoch = head.journalEpoch → head.sequence < c.sequence →
          OperatorService.eventsAfter c limit d = .error
            (.CursorGone (CursorError.AheadOfJournal c.sequence head.sequence).display)) := by
  obtain ⟨epoch, n, hlisted⟩ := listedAt h₀ h.started
  obtain ⟨committed, hfollows, hlength, rfl, hdelivered⟩ := h.follows h₀ hlisted
  have hreachable := h₀.steps h.steps
  obtain ⟨row, hcurrent, hnext⟩ := hfollows.current
  refine ⟨⟨committed, (committed.drop delivered.length).map eventView, hfollows.rows, ?_, ?_, ?_,
    fun limit => ⟨_, hfollows.page hreachable hlisted.numbers hlength limit, ?_, ?_⟩⟩,
    ⟨hlisted.goals, fun d' => goals_at_cursor hlisted⟩,
    ⟨_, readHead_of_current hcurrent, by rw [hlisted.cursor],
      fun c limit => eventsAfter_refused (readHead_of_current hcurrent) limit⟩⟩
  · calc committed.map eventView
      _ = (committed.take delivered.length ++ committed.drop delivered.length).map eventView := by
        rw [List.take_append_drop]
      _ = delivered ++ (committed.drop delivered.length).map eventView := by
        rw [List.map_append, ← hdelivered]
  · intro p hp
    refine ⟨by rw [hfollows.epochs p hp, hlisted.cursor], ?_⟩
    obtain ⟨i, hi⟩ := List.mem_iff_getElem?.mp hp
    have hnumbers : (epochRows epoch d).map (fun q => q.2.sequence) =
        numbered (n + committed.length) := hfollows.numbers hreachable
    have hplace : (epochRows epoch d)[n + i]? = some p := by
      rw [hfollows.whole, List.getElem?_append_right (by
        rw [length_epochRows hlisted.numbers]; omega), length_epochRows hlisted.numbers,
        Nat.add_sub_cancel_left, hi]
    rw [number_at hnumbers hplace, hlisted.cursor]
    simp only
    omega
  · intro p hp hepoch
    rw [hlisted.cursor] at hepoch ⊢
    have hmem : p ∈ epochRows epoch d₀ := List.mem_filter.mpr ⟨hp, beq_iff_eq.mpr hepoch⟩
    obtain ⟨i, hi⟩ := List.mem_iff_getElem?.mp hmem
    have hnumbers : (epochRows epoch d₀).map (fun q => q.2.sequence) = numbered n :=
      hlisted.numbers
    have hbound := (List.getElem?_eq_some_iff.mp hi).1
    rw [length_epochRows hlisted.numbers] at hbound
    rw [number_at hnumbers hi]
    simp only
    omega
  · simp [pageRows, List.map_take]
  · have hpos := clampLimit_pos limit
    simp [pageRows]
    omega

/-- A Goal is created after the list and the next page has its Event. -/
theorem watch_delivers_exactly_created : ∃ d cursor event,
    Watching Sample.installed ⟨[], ⟨Sample.journalEpoch, 0⟩⟩ d cursor [event] ∧
      ∃ committed, d.rows .eventJournal = Sample.installed.rows .eventJournal ++ committed ∧
        committed.map eventView = [event] ∧
        OperatorService.eventsAfter cursor 1 d = .ok ⟨[], cursor⟩ := by
  let create := Sample.call 'a' (.createGoal "goal" Sample.goal)
  let event : EventView := ⟨"aaaaaaaaaaaaaaaaaaaaaaaaaaaaaaaa", ⟨Sample.journalEpoch, 1⟩, "sample",
    10, some Sample.generation, some "a"⟩
  have hlist : OperatorService.goals Sample.installed = .ok ⟨[], ⟨Sample.journalEpoch, 0⟩⟩ := by
    decide +kernel
  have hpage : OperatorService.eventsAfter ⟨Sample.journalEpoch, 0⟩ 1
      (create.2.apply create.1 Sample.installed) = .ok ⟨[event], ⟨Sample.journalEpoch, 1⟩⟩ := by
    decide +kernel
  have hend : OperatorService.eventsAfter ⟨Sample.journalEpoch, 1⟩ 1
      (create.2.apply create.1 Sample.installed) = .ok ⟨[], ⟨Sample.journalEpoch, 1⟩⟩ := by
    decide +kernel
  have hwatching : Watching Sample.installed ⟨[], ⟨Sample.journalEpoch, 0⟩⟩ _
      ⟨Sample.journalEpoch, 1⟩ [event] := .read (.wrote (.listed hlist) create.2 create.1) 1 _ hpage
  have hreachable : Reachable Sample.installed := ⟨_, Sample.installed_installed, .refl⟩
  obtain ⟨⟨committed, pending, hrows, hviews, -, -, hpages⟩, -⟩ :=
    watch_delivers_exactly hreachable hwatching
  obtain ⟨page, hread, -, hnone⟩ := hpages 1
  obtain rfl := Except.ok.inj (hend.symm.trans hread)
  obtain rfl := hnone.mp rfl
  exact ⟨_, _, event, hwatching, committed, hrows, by simpa using hviews, hend⟩

end Pantheon
