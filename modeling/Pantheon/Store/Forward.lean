/-
  When a call executes.
  The lemmas on committed transactions say what must have been the case; here are the converse
  facts, for results that need a call to go through. A commanded call executes if its identity
  is `Usable` in the state it meets and its mutation commits there: the journal is gapless in
  every reachable state, so the slot the event takes is free (`command_executes`). A `Supply` of
  identities carries a list of commanded calls through, one identity each.
-/
import Pantheon.Store.Frozen
import Pantheon.Store.Journal

namespace Pantheon

open Relational

variable {D : Type} [DecidableEq D] {A : Access TableName} {α : Type}

/-! ## Writes -/

variable {d : Db D} {command : Command D}

/-- A revisioned update goes through where the new row meets the constraints. -/
theorem updateRevisioned_of {i : TableName} [Revisioned D i] {k : Key D i} {expected : Int}
    {assign : Row D i → Row D i} (hi : i ∈ A.updates) {old : Row D i} (hold : d.find i k = some old)
    (hrevision : Revisioned.revision old = expected)
    (hcheck : check i k (Revisioned.setRevision (expected + 1) (assign old)) = true)
    (hclash : ∀ q ∈ d.rows i, k ≠ q.1 →
      clash i (k, Revisioned.setRevision (expected + 1) (assign old)) q = false)
    (hrefers : refers i d.table k (Revisioned.setRevision (expected + 1) (assign old)) = true) :
    ∃ d', (updateRevisioned i k expected assign hi : Write D A Int).Commits d (expected + 1) d' := by
  obtain ⟨d', hreplaced⟩ := State.replace_of hcheck hclash hrefers
  refine ⟨d', Writer.then_of (Writer.read_of hold) ?_⟩
  refine Writer.then_of (Writer.ensure_of hrevision) ?_
  exact Writer.then_of (a := ()) (Writer.commits_replace.mpr hreplaced) rfl

/-! ## The command envelope -/

/-- An identity under which a command can be executed: of the current generation, not in the
    ledger, and with an event identity the journal does not hold. -/
structure Usable (ambient : Ambient) (command : Command D) (d : Db D) : Prop where
  epoch : ∃ system, d.find .systemState () = some system ∧
    command.epoch = system.restoreGeneration
  unspent : d.find .commands (command.epoch, command.id) = none
  idLength : lengthBetween command.id 1 128
  event : d.find .eventJournal ambient.eventId = none
  eventLength : ambient.eventId.length = 32
  typeLength : lengthBetween command.eventType 1 128

theorem Usable.congr {ambient : Ambient} {d' : Db D} (h : Usable ambient command d)
    (hsystem : ∀ system, d.find .systemState () = some system →
      d'.find .systemState () = some system)
    (hledger : d'.find .commands (command.epoch, command.id) =
      d.find .commands (command.epoch, command.id))
    (hevents : d'.find .eventJournal ambient.eventId = d.find .eventJournal ambient.eventId) :
    Usable ambient command d' := by
  obtain ⟨system, hfound, hepoch⟩ := h.epoch
  exact ⟨⟨system, hsystem system hfound, hepoch⟩, hledger.trans h.unspent, h.idLength,
    hevents.trans h.event, h.eventLength, h.typeLength⟩

/-- The generation of an installation has the length the ledger asks for. -/
theorem Usable.epochLength {ambient : Ambient} (h : Usable ambient command d) :
    command.epoch.length = 32 := by
  obtain ⟨system, hsystem, hepoch⟩ := h.epoch
  rw [hepoch]
  exact of_decide_eq_true (State.check_of_find hsystem)

theorem mem_numbered {n : Nat} {m : Int} (h : m ∈ numbered n) : m ≤ n := by
  obtain ⟨i, hi, rfl⟩ := List.mem_map.mp h
  have hlt := List.mem_range.mp hi
  omega

/-- The journal always has a next slot, and no event is in it. -/
theorem allocateSequence_of (hu : .journalEpochs ∈ A.updates) (h : Gapless d) :
    ∃ cursor d', (allocateSequence hu : Write D A JournalCursor).Commits d cursor d' ∧
      1 ≤ cursor.sequence ∧ ∀ id event, d.find .eventJournal id = some event →
        ¬(cursor.epoch = event.journalEpoch ∧ cursor.sequence = event.sequence) := by
  obtain ⟨epoch, row, n, hcurrent, hnext, hnumbers⟩ := h
  obtain ⟨hfound, hflag⟩ := currentEpoch_found hcurrent
  have hcheck := of_decide_eq_true (State.check_of_find hfound)
  have hadvance : check (D := D) .journalEpochs epoch
      { row with nextSequence := row.nextSequence + 1 } = true := by
    refine decide_eq_true ⟨hcheck.1, ?_⟩
    have hpositive := hcheck.2
    change 1 ≤ row.nextSequence + 1
    omega
  have hclash : ∀ q ∈ d.rows .journalEpochs, epoch ≠ q.1 → clash (D := D) .journalEpochs
      (epoch, { row with nextSequence := row.nextSequence + 1 }) q = false :=
    State.clash_of_clash hfound fun _ h => h
  obtain ⟨d', hreplaced⟩ := State.replace_of hadvance hclash rfl
  refine ⟨⟨epoch, row.nextSequence⟩, d', ?_, hcheck.2, fun id event hevent hslot => ?_⟩
  · refine Writer.then_of (Writer.read_of hcurrent) (Writer.then_of rfl ?_)
    exact Writer.then_of (a := ()) (Writer.commits_replace.mpr hreplaced) rfl
  · -- the numbers handed out so far stop below the slot
    have hmem : event.sequence ∈ sequencesOf d epoch :=
      List.mem_map.mpr ⟨(id, event), List.mem_filter.mpr
        ⟨State.mem_rows.mpr hevent, beq_iff_eq.mpr hslot.1.symm⟩, rfl⟩
    rw [hnumbers] at hmem
    have hle := mem_numbered hmem
    have hsame := hslot.2
    simp only at hsame
    omega

/-- The trace of a command can be left under a usable identity. -/
theorem record_of {ambient : Ambient} (hgapless : Gapless d) (h : Usable ambient command d) :
    ∃ cursor d', (record ambient command).Commits d cursor d' := by
  obtain ⟨cursor, d₁, halloc, hpositive, hslot⟩ :=
    allocateSequence_of (A := journalAccess) (by decide) hgapless
  obtain ⟨⟨row, hcurrent, -, hepochs⟩, hframe⟩ := commits_allocateSequence halloc
  have hevents : d₁.table .eventJournal = d.table .eventJournal := hframe _ (by decide)
  obtain ⟨d₂, hevent⟩ : ∃ d₂, d₁.insert .eventJournal ambient.eventId
      ⟨cursor.epoch, cursor.sequence, command.eventType, ambient.recordedAt,
        some (command.epoch, command.id)⟩ = .ok d₂ := by
    refine State.insert_of ((State.find_congr hevents _).trans h.event)
      (decide_eq_true ⟨h.eventLength, hpositive, h.typeLength⟩) (fun q hq _ => ?_) ?_
    · have hfound := (State.find_congr hevents q.1).symm.trans (State.mem_rows.mp hq)
      exact decide_eq_false (hslot q.1 q.2 hfound)
    · have hepoch : d₁.find .journalEpochs cursor.epoch ≠ none := by
        rw [hepochs, if_pos rfl]
        simp
      exact Option.isSome_iff_ne_none.mpr hepoch
  obtain ⟨-, -, -, -, -, -, hother⟩ := State.insert_ok hevent
  have hledger : d₂.table .commands = d.table .commands :=
    (hother _ (by decide)).trans (hframe _ (by decide))
  obtain ⟨d₃, hcommand⟩ : ∃ d₃, d₂.insert .commands (command.epoch, command.id)
      ⟨command.requestHash, cursor.epoch, cursor.sequence, ambient.recordedAt⟩ = .ok d₃ :=
    State.insert_of ((State.find_congr hledger _).trans h.unspent)
      (decide_eq_true ⟨h.epochLength, h.idLength⟩) (fun _ _ _ => rfl) rfl
  refine ⟨cursor, d₃, Writer.then_of halloc ?_⟩
  refine Writer.then_of (a := ()) (Writer.commits_insert.mpr hevent) ?_
  exact Writer.then_of (a := ()) (commits_insert.mpr hcommand) rfl

/-- An executed command: the generation is current, the identity was unused, and the mutation
    and its trace commit. -/
theorem execute_iff {ambient : Ambient} {mutation : Write D A α} {value : α}
    {cursor : JournalCursor} {d' : Db D} :
    (execute ambient command mutation).Commits d (.Executed value cursor) d' ↔
      (∃ system, d.find .systemState () = some system ∧
        command.epoch = system.restoreGeneration) ∧
      d.find .commands (command.epoch, command.id) = none ∧
      ∃ d₁, mutation.Commits d value d₁ ∧ (record ambient command).Commits d₁ cursor d' := by
  constructor
  · intro h
    obtain ⟨_, d₁, hfence, hrest⟩ := Writer.commits_bind.mp h
    obtain ⟨system, hsystem, hensure⟩ := fetch_then hfence
    obtain ⟨hepoch, rfl⟩ := Writer.commits_ensure.mp hensure
    replace h := find_then hrest
    cases hentry : d₁.find .commands (command.epoch, command.id) with
    | some row =>
      rw [hentry] at h
      obtain ⟨-, h⟩ := Writer.ensure_then h
      cases (Writer.commits_pure.mp h).1
    | none =>
      rw [hentry] at h
      obtain ⟨found, d₂, hm, h⟩ := Writer.widen_then h
      obtain ⟨slot, d₃, hrecord, h⟩ := Writer.widen_then h
      obtain ⟨hsame, rfl⟩ := Writer.commits_pure.mp h
      obtain ⟨rfl, rfl⟩ := Committed.Executed.inj hsame
      exact ⟨⟨system, hsystem, hepoch⟩, rfl, d₂, hm, hrecord⟩
  · rintro ⟨⟨system, hsystem, hepoch⟩, hunspent, d₁, hm, hrecord⟩
    refine Writer.then_of (Writer.then_of (fetch_of hsystem) (Writer.ensure_of hepoch)) ?_
    refine Writer.then_of (Writer.read_of hunspent) ?_
    exact Writer.then_of hm (Writer.then_of hrecord rfl)

/-- Under a usable identity a command executes whatever mutation commits. -/
theorem execute_of {ambient : Ambient} {mutation : Write D A α} {value : α} {d₁ : Db D}
    (hgapless : Gapless d) (h : Usable ambient command d) (hm : mutation.Commits d value d₁)
    (hspares : sparesJournal A = true) (hsystem : .systemState ∉ A.updates) :
    ∃ cursor d', (execute ambient command mutation).Commits d (.Executed value cursor) d' := by
  have hsame : JournalSame d d₁ := journalSame_of_within hspares hm.within
  have hafter : Usable ambient command d₁ := h.congr (hm.within.kept _ hsystem ())
    (State.find_congr hsame.ledger _) (State.find_congr hsame.events _)
  obtain ⟨cursor, d', hrecord⟩ := record_of (hgapless.congr hsame) hafter
  exact ⟨cursor, d', execute_iff.mpr ⟨h.epoch, h.unspent, d₁, hm, hrecord⟩⟩

/-- Identities for calls to come: usable now, and apart from each other. -/
structure Supply (d : Db D) (ids : List (Ambient × Command D)) : Prop where
  usable : ∀ p ∈ ids, Usable p.1 p.2 d
  apart : ids.Pairwise fun p q => p.2.id ≠ q.2.id ∧ p.1.eventId ≠ q.1.eventId

variable [DigestScheme D]

theorem runAll_command {mutation : Mutation D} {ambient : Ambient} {command : Command D}
    {value : mutation.body.Result} {cursor : JournalCursor} {d d' : Db D}
    (hc : (execute ambient command (mutation.body.body ambient)).Commits d
      (.Executed value cursor) d') :
    runAll d [(ambient, .command command mutation)] = some d' := by
  have hanswer : StoreOp.answer ambient d (.command command mutation) =
      (.ok (.Executed value cursor), d') := Writer.transact_ok.mpr hc
  have hexec : (StoreOp.command command mutation).exec ambient d = (.ok true, d') := by
    unfold StoreOp.exec
    rw [hanswer]
    rfl
  unfold runAll
  rw [hexec]
  rfl

/-- A call can be followed through a body that does the same to the state it meets. -/
theorem runAll_as {B : Access TableName} {mutation : Mutation D} {ambient : Ambient}
    {command : Command D} {m : Write D B mutation.body.Result} {value : mutation.body.Result}
    {cursor : JournalCursor} {d d' : Db D}
    (hc : (execute ambient command m).Commits d (.Executed value cursor) d')
    (hsame : ∀ d₁, m.Commits d value d₁ → (mutation.body.body ambient).Commits d value d₁) :
    runAll d [(ambient, .command command mutation)] = some d' := by
  obtain ⟨hfence, hunspent, d₁, hm, hrecord⟩ := execute_iff.mp hc
  exact runAll_command (execute_iff.mpr ⟨hfence, hunspent, d₁, hsame d₁ hm, hrecord⟩)

/-- A commanded call with the first identity of a supply executes where its mutation commits,
    and the rest of the supply stays usable. -/
theorem command_executes {mutation : Mutation D} {ambient : Ambient} {command : Command D}
    {ids : List (Ambient × Command D)} {value : mutation.body.Result} {d d₁ : Db D}
    (hd : Reachable d) (hids : Supply d ((ambient, command) :: ids))
    (hm : (mutation.body.body ambient).Commits d value d₁) :
    ∃ d', runAll d [(ambient, .command command mutation)] = some d' ∧ Supply d' ids ∧
      ∀ i, i ∉ ledgerTables → d'.table i = d₁.table i := by
  obtain ⟨hfirst, hrest⟩ := List.pairwise_cons.mp hids.apart
  have husable := hids.usable (ambient, command) List.mem_cons_self
  have hsystem : .systemState ∉ mutation.body.access.updates :=
    updates_no_frozen (.command command mutation) (by decide)
  obtain ⟨cursor, d', hc⟩ := execute_of (journal_sound hd).1 husable hm
    (mutation_sparesJournal mutation) hsystem
  have hrun := runAll_command hc
  rcases commits_execute hc with ⟨row, hrow, -⟩ | ⟨-, value', cursor', d₂, hvalue, hm', hrecorded⟩
  · cases husable.unspent.symm.trans hrow
  obtain ⟨rfl, rfl⟩ := hm.unique hm'
  have hframe : ∀ i, i ∉ ledgerTables → d'.table i = d₁.table i := by
    obtain ⟨d₂, hm₂, hframe⟩ := (recorded_ran hm hrecorded).commits
    obtain ⟨-, rfl⟩ := hm.unique hm₂
    exact hframe
  have hsame : JournalSame d d₁ := journalSame_of_within (mutation_sparesJournal mutation) hm.within
  refine ⟨d', hrun, ⟨fun p hp => ?_, hrest⟩, hframe⟩
  obtain ⟨hid, hevent⟩ := hfirst p hp
  refine (hids.usable p (List.mem_cons_of_mem _ hp)).congr (fun system hfound => ?_) ?_ ?_
  · rw [State.find_congr (hframe .systemState (by decide))]
    exact hm.within.kept _ hsystem () system hfound
  · rw [hrecorded.ledger, if_neg fun h => hid (Prod.mk.inj h).2, State.find_congr hsame.ledger]
  · rw [← State.find_congr hsame.events]
    refine Option.ext fun event => ?_
    have happended : Appended d₁ d' ambient.eventId _ := ⟨hrecorded.slot, hrecorded.event⟩
    rw [happended.events]
    exact or_iff_left fun h => hevent h.1.symm

/-! ## Sample calls -/

namespace Sample

/-- An identity for a commanded call, told apart by a character. -/
def identity (c : Char) : Ambient × Command PrefixDigest :=
  (ambient c, ⟨generation, String.ofList [c], ⟨[0]⟩, "sample"⟩)

/-- A boolean form of `Usable` for the sample's identities. -/
def spendable (d : Store) (c : Char) : Bool :=
  ((d.find .systemState ()).any fun system => system.restoreGeneration == generation) &&
    (d.find .commands (generation, String.ofList [c])).isNone &&
    (d.find .eventJournal (ambient c).eventId).isNone

theorem usable_of_spendable {d : Store} {c : Char} (h : spendable d c = true)
    (hid : lengthBetween (String.ofList [c]) 1 128) (hevent : (ambient c).eventId.length = 32) :
    Usable (identity c).1 (identity c).2 d := by
  simp only [spendable, Bool.and_eq_true, Option.any_eq_true, beq_iff_eq,
    Option.isNone_iff_eq_none] at h
  obtain ⟨⟨⟨system, hsystem, hgeneration⟩, hcommand⟩, hjournal⟩ := h
  have htype : lengthBetween "sample" 1 128 := by decide
  exact ⟨⟨system, hsystem, hgeneration.symm⟩, hcommand, hid, hjournal, hevent, htype⟩

/-- A body run as the command of that identity. -/
def runs {α : Type} (c : Char) (m : Write PrefixDigest A α) (d : Store) :
    Except StoreError (Committed α) × Store :=
  (execute (identity c).1 (identity c).2 m).transact discardedFailure d

def executed {α : Type} : Except StoreError (Committed α) → Bool
  | .ok (.Executed _ _) => true
  | _ => false

/-- A call evaluated through a body that does the same to the state it meets. -/
theorem runAll_runs {mutation : Mutation PrefixDigest} {c : Char}
    {m : Write PrefixDigest A mutation.body.Result} {d : Store}
    (h : executed (runs c m d).1 = true)
    (hsame : ∀ value d₁, m.Commits d value d₁ →
      (mutation.body.body (ambient c)).Commits d value d₁) :
    runAll d [call c mutation] = some (runs c m d).2 := by
  cases hanswer : (runs c m d).1 with
  | error e =>
    rw [hanswer] at h
    cases h
  | ok committed =>
    cases committed with
    | Replayed =>
      rw [hanswer] at h
      cases h
    | Executed value cursor => exact runAll_as (answer_ok hanswer) (hsame value)

end Sample

end Pantheon
