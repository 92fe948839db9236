/-
  Reads of the Operator Control surface (`pantheon-store/src/operator.rs`).
  A list of Goals carries the journal head of the same snapshot, and events are read strictly
  after a cursor, oldest first. A read is a function of the state its transaction sees.
  `eventsAfter_of_gapless` says what a page holds when the journal has no gap.
-/
import Pantheon.Store.Journal
import Mathlib.Data.List.Sort
import Mathlib.Data.List.TakeDrop

namespace Pantheon

open Relational

variable {D : Type} [DecidableEq D]

/-! ## Cursors -/

/-- A durable position in the Event Journal: the last sequence already seen. -/
structure Cursor where
  journalEpoch : String
  sequence : Int
  deriving Repr, DecidableEq

/-! ## Reads -/

/-- One durable event, as history. -/
structure EventRecord where
  eventId : String
  journalEpoch : String
  sequence : Int
  eventType : String
  recordedAt : Int
  commandEpoch : Option String
  commandId : Option String
  deriving Repr, DecidableEq

def EventRecord.cursor (e : EventRecord) : Cursor := ⟨e.journalEpoch, e.sequence⟩

/-- Goals with the journal position they correspond to. -/
structure GoalSnapshot where
  goals : List GoalRecord
  cursor : Cursor
  deriving Repr, DecidableEq

/-- Why a cursor cannot be resumed from. -/
inductive CursorError where
  | UnknownEpoch (supplied current : String)
  | AheadOfJournal (supplied head : Int)
  deriving Repr, DecidableEq

def CursorError.display : CursorError → String
  | .UnknownEpoch supplied current =>
    s!"cursor names journal epoch {supplied}, but this installation is on {current}"
  | .AheadOfJournal supplied head =>
    s!"cursor sequence {supplied} is ahead of the journal head {head}"

/-- `read_head`: the current epoch and the last committed sequence. -/
def readHead (d : Db D) : Except StoreError Cursor :=
  match currentEpoch d with
  | some (epoch, row) => .ok ⟨epoch, row.nextSequence - 1⟩
  | none => .error .SqliteNoRow

/-- The Goals, `ORDER BY id`. -/
def goalRecords (d : Db D) : List GoalRecord :=
  ((d.rows .goals).map fun p => (⟨p.1, p.2.phase, p.2.currentRevision, p.2.revision⟩ : GoalRecord))
    |>.insertionSort fun a b => a.id ≤ b.id

/-- `Store::goal_snapshot`. -/
def goalSnapshot (d : Db D) : Except StoreError GoalSnapshot := do
  let cursor ← readHead d
  return ⟨goalRecords d, cursor⟩

def eventRecord (p : String × JournalEvent) : EventRecord where
  eventId := p.1
  journalEpoch := p.2.journalEpoch
  sequence := p.2.sequence
  eventType := p.2.eventType
  recordedAt := p.2.recordedAt
  commandEpoch := p.2.command.map Prod.fst
  commandId := p.2.command.map Prod.snd

/-- `LIMIT`: a negative bound is none. -/
def limited {α : Type} (limit : Int) (rows : List α) : List α :=
  if limit < 0 then rows else rows.take limit.toNat

/-- The rows `WHERE journal_epoch = ?1 AND sequence > ?2 ORDER BY sequence`. -/
def eventRowsAfter (cursor : Cursor) (d : Db D) : List (String × JournalEvent) :=
  ((d.rows .eventJournal).filter fun p =>
    p.2.journalEpoch == cursor.journalEpoch && decide (cursor.sequence < p.2.sequence))
    |>.insertionSort fun p q => p.2.sequence ≤ q.2.sequence

/-- `Store::events_after`. -/
def eventsAfter (cursor : Cursor) (limit : Int) (d : Db D) :
    Except StoreError (Except CursorError (List EventRecord)) := do
  let head ← readHead d
  if cursor.journalEpoch ≠ head.journalEpoch then
    return .error (.UnknownEpoch cursor.journalEpoch head.journalEpoch)
  else if head.sequence < cursor.sequence then
    return .error (.AheadOfJournal cursor.sequence head.sequence)
  else return .ok ((limited limit (eventRowsAfter cursor d)).map eventRecord)

/-! ## Pages of a journal without gaps -/

theorem numbered_getElem? (n i : Nat) :
    (numbered n)[i]? = if i < n then some ((i : Int) + 1) else none := by
  rw [numbered, List.getElem?_map]
  by_cases h : i < n
  · rw [List.getElem?_range h, if_pos h, Option.map_some]
  · rw [if_neg h, List.getElem?_eq_none (by simpa using h), Option.map_none]

section

variable {α : Type} {l : List α} {f : α → Int} {n : Nat}

/-- The element at each place of a list that is numbered. -/
theorem number_at (h : l.map f = numbered n) {i : Nat} {x : α} (hx : l[i]? = some x) :
    f x = (i : Int) + 1 := by
  have hplace := congrArg (·[i]?) h
  simp only [List.getElem?_map, hx, Option.map_some, numbered_getElem?] at hplace
  split at hplace
  · exact Option.some.inj hplace
  · cases hplace

/-- What is numbered above `m` is what follows the first `m`. -/
theorem filter_above (h : l.map f = numbered n) (m : Nat) :
    (l.filter fun x => decide ((m : Int) < f x)) = l.drop m := by
  have hsplit : l.filter (fun x => decide ((m : Int) < f x)) =
      (l.take m).filter (fun x => decide ((m : Int) < f x)) ++
        (l.drop m).filter (fun x => decide ((m : Int) < f x)) := by
    rw [← List.filter_append, List.take_append_drop]
  rw [hsplit, List.filter_eq_nil_iff.mpr, List.filter_eq_self.mpr, List.nil_append]
  · intro x hx
    obtain ⟨i, hi⟩ := List.mem_iff_getElem?.mp hx
    rw [List.getElem?_drop] at hi
    rw [number_at h hi, decide_eq_true_eq]
    omega
  · intro x hx
    obtain ⟨i, hi⟩ := List.mem_iff_getElem?.mp hx
    rw [List.getElem?_take] at hi
    split at hi
    · rw [number_at h hi, decide_eq_true_eq]
      omega
    · cases hi

/-- A list that is numbered is in order. -/
theorem numbered_ordered (h : l.map f = numbered n) : l.Pairwise fun x y => f x ≤ f y := by
  rw [List.pairwise_iff_getElem]
  intro i j hi hj hij
  rw [number_at h (List.getElem?_eq_getElem hi), number_at h (List.getElem?_eq_getElem hj)]
  omega

end

/-- The events of an epoch, in the order they were committed. -/
def epochRows (epoch : String) (d : Db D) : List (String × JournalEvent) :=
  (d.rows .eventJournal).filter fun p => p.2.journalEpoch == epoch

variable {epoch : String} {d : Db D}

theorem length_epochRows {n : Nat} (h : sequencesOf d epoch = numbered n) :
    (epochRows epoch d).length = n := by
  simpa [sequencesOf, numbered, epochRows] using congrArg List.length h

theorem eventRowsAfter_of_numbered {n : Nat} (h : sequencesOf d epoch = numbered n) (m : Nat) :
    eventRowsAfter ⟨epoch, m⟩ d = (epochRows epoch d).drop m := by
  have hnumbers : (epochRows epoch d).map (fun p => p.2.sequence) = numbered n := h
  have hfilter : (d.rows .eventJournal).filter (fun p =>
      p.2.journalEpoch == epoch && decide ((m : Int) < p.2.sequence)) =
        (epochRows epoch d).drop m := by
    rw [← filter_above hnumbers m, epochRows, List.filter_filter]
    exact List.filter_congr fun p _ => Bool.and_comm _ _
  rw [eventRowsAfter, hfilter]
  exact ((numbered_ordered hnumbers).sublist (List.drop_sublist _ _)).insertionSort_eq

theorem readHead_of_current {row : JournalEpoch} (h : currentEpoch d = some (epoch, row)) :
    readHead d = .ok ⟨epoch, row.nextSequence - 1⟩ := by
  rw [readHead, h]

/-- From a cursor that is not ahead of the head, a page is what follows it in the epoch. -/
theorem eventsAfter_of_gapless {row : JournalEpoch} {n m : Nat}
    (hcurrent : currentEpoch d = some (epoch, row)) (hnext : row.nextSequence = (n : Int) + 1)
    (hnumbers : sequencesOf d epoch = numbered n) (hm : m ≤ n) (limit : Int) :
    eventsAfter ⟨epoch, m⟩ limit d =
      .ok (.ok ((limited limit ((epochRows epoch d).drop m)).map eventRecord)) := by
  have hreach : ¬ row.nextSequence - 1 < (m : Int) := by omega
  rw [eventsAfter, readHead_of_current hcurrent, ← eventRowsAfter_of_numbered hnumbers m]
  simp only [bind, Except.bind, ne_eq, not_true_eq_false, if_false, if_neg hreach]
  rfl

end Pantheon
