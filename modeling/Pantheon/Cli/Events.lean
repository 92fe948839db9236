/-
  Following the event stream (`pantheon-cli/src/commands/events.rs`).
  The daemon's Server-Sent Events arrive in frames that are cut anywhere. `watch` appends each to
  a buffer and takes messages off it with `findSeparator`. Of the two separators the shorter never
  begins inside the longer, so a split once made stays (`findSeparator_append`), and the messages,
  the cursor and the rest do not depend on the frames (`watch_however_cut`). The lossy decoding of
  bytes and the JSON reader come from libraries and are parameters.
-/
import Pantheon.Base.Framing
import Pantheon.Execution.Container

namespace Pantheon

open Framing

/-! ## The separators -/

def carriageReturn : UInt8 := 13

def lineFeed : UInt8 := 10

/-- The separator that begins a buffer, by its length. -/
def separatorAt (buffer : List UInt8) : Option Nat :=
  if [carriageReturn, lineFeed, carriageReturn, lineFeed].isPrefixOf buffer then some 4
  else if [lineFeed, lineFeed].isPrefixOf buffer then some 2
  else none

/-- `find_separator`: the first position at which one begins. -/
def findSeparator : List UInt8 → Option (Nat × Nat)
  | [] => none
  | byte :: rest =>
    match separatorAt (byte :: rest) with
    | some length => some (0, length)
    | none => (findSeparator rest).map fun found => (found.1 + 1, found.2)

theorem separatorAt_cases {buffer : List UInt8} {length : Nat} (h : separatorAt buffer = some length) :
    ([carriageReturn, lineFeed, carriageReturn, lineFeed] <+: buffer ∧ length = 4) ∨
      [lineFeed, lineFeed] <+: buffer ∧ length = 2 := by
  unfold separatorAt at h
  split_ifs at h with hlong hshort
  · exact .inl ⟨List.isPrefixOf_iff_prefix.mp hlong, (Option.some.inj h).symm⟩
  · exact .inr ⟨List.isPrefixOf_iff_prefix.mp hshort, (Option.some.inj h).symm⟩

theorem separatorAt_append {buffer : List UInt8} {length : Nat}
    (h : separatorAt buffer = some length) (more : List UInt8) :
    separatorAt (buffer ++ more) = some length := by
  obtain ⟨⟨rest, rfl⟩, rfl⟩ | ⟨⟨rest, rfl⟩, rfl⟩ := separatorAt_cases h
  · rfl
  · rfl

/-- Where a separator only shows with more bytes, the bytes after its first one hold none yet. -/
theorem findSeparator_cut {byte : UInt8} {rest more : List UInt8} {length : Nat}
    (hnone : separatorAt (byte :: rest) = none)
    (h : separatorAt (byte :: rest ++ more) = some length) : findSeparator rest = none := by
  have hbegun : ∀ separator, separator <+: byte :: rest ++ more →
      ¬separator <+: byte :: rest → byte :: rest ∈ separator.inits := fun separator h hnot =>
    (List.mem_inits _ _).mpr
      ((List.prefix_or_prefix_of_prefix h (List.prefix_append _ _)).resolve_left hnot)
  unfold separatorAt at hnone
  split_ifs at hnone with hlong hshort
  rw [List.isPrefixOf_iff_prefix] at hlong hshort
  obtain ⟨hstarts, -⟩ | ⟨hstarts, -⟩ := separatorAt_cases h
  · have hcut := hbegun _ hstarts hlong
    simp only [List.inits, List.map_cons, List.map_nil, List.mem_cons, List.cons.injEq, reduceCtorEq,
      List.not_mem_nil, or_false, false_or] at hcut
    rcases hcut with ⟨-, rfl⟩ | ⟨-, rfl⟩ | ⟨-, rfl⟩ | ⟨rfl, rfl⟩
    · rfl
    · rfl
    · rfl
    · exact absurd (List.prefix_refl _) hlong
  · have hcut := hbegun _ hstarts hshort
    simp only [List.inits, List.map_cons, List.map_nil, List.mem_cons, List.cons.injEq, reduceCtorEq,
      List.not_mem_nil, or_false, false_or] at hcut
    rcases hcut with ⟨-, rfl⟩ | ⟨rfl, rfl⟩
    · rfl
    · exact absurd (List.prefix_refl _) hshort

theorem findSeparator_append {buffer : List UInt8} {found : Nat × Nat}
    (h : findSeparator buffer = some found) (more : List UInt8) :
    findSeparator (buffer ++ more) = some found := by
  induction buffer generalizing found with
  | nil => cases h
  | cons byte rest ih =>
    unfold findSeparator at h
    cases hat : separatorAt (byte :: rest) with
    | some length =>
      rw [hat] at h
      rw [List.cons_append, findSeparator, ← List.cons_append, separatorAt_append hat]
      exact h
    | none =>
      rw [hat] at h
      obtain ⟨inner, hinner, rfl⟩ := Option.map_eq_some_iff.mp h
      rw [List.cons_append, findSeparator, ← List.cons_append]
      cases hmore : separatorAt (byte :: rest ++ more) with
      | some length => cases (findSeparator_cut hat hmore).symm.trans hinner
      | none => rw [ih hinner]; rfl

theorem findSeparator_inside {buffer : List UInt8} {n s : Nat}
    (h : findSeparator buffer = some (n, s)) : 0 < s ∧ n + s ≤ buffer.length := by
  induction buffer generalizing n s with
  | nil => cases h
  | cons byte rest ih =>
    unfold findSeparator at h
    cases hat : separatorAt (byte :: rest) with
    | some length =>
      rw [hat] at h
      obtain ⟨rfl, rfl⟩ := Prod.mk.inj (Option.some.inj h)
      rcases separatorAt_cases hat with ⟨hstarts, rfl⟩ | ⟨hstarts, rfl⟩
      · exact ⟨by decide, by simpa using hstarts.length_le⟩
      · exact ⟨by decide, by simpa using hstarts.length_le⟩
    | none =>
      rw [hat] at h
      obtain ⟨⟨n', s'⟩, hinner, heq⟩ := Option.map_eq_some_iff.mp h
      obtain ⟨rfl, rfl⟩ := Prod.mk.inj heq
      obtain ⟨hpos, hle⟩ := ih hinner
      exact ⟨hpos, by simp only [List.length_cons]; omega⟩

/-- Messages end at the first separator. -/
def messageSplitter : Splitter UInt8 where
  find := findSeparator
  inside := findSeparator_inside
  stable := findSeparator_append

/-! ## The watch -/

/-- What the watch takes from libraries: `String::from_utf8_lossy`, and `serde_json::from_str` at
    `EventResponse`, of which it uses the cursor. -/
structure EventReader (E : Type) where
  fromUtf8Lossy : List UInt8 → String
  fromStr : String → Except String E
  cursor : E → String

/-- What a message prints: the event, or a line that says it cannot be read. -/
inductive Printed (E : Type) where
  | event (e : E)
  | unreadable (detail : String)

/-- A frame of the response's body. -/
inductive Frame where
  | data (chunk : List UInt8)
  | trailers

def Frame.bytes : Frame → List UInt8
  | .data chunk => chunk
  | .trailers => []

structure Watched (E : Type) where
  messages : List (List UInt8)
  pending : List UInt8
  printed : List (Printed E)
  lastCursor : Option String

section Watch

variable {E : Type} (reader : EventReader E)

/-- The value of a field, on a line that begins with its name. -/
def fieldValue (name line : String) : Option String :=
  if Text.startsWith line name then
    some (Text.trim (String.ofList (line.toList.drop name.length)))
  else none

/-- The last `id` of a message, and its `data` lines joined. -/
def messageFields (text : String) : Option String × String :=
  (Text.lines text).foldl (fun fields line =>
    match fieldValue "id:" line, fieldValue "data:" line with
    | some id, _ => (some id, fields.2)
    | none, some data => (fields.1, fields.2 ++ data)
    | none, none => fields) (none, "")

/-- `emit_message`: what it prints, and the cursor. -/
def emitMessage (message : List UInt8) : List (Printed E) × Option String :=
  let (id, data) := messageFields (reader.fromUtf8Lossy message)
  if data = "" then ([], id)
  else
    match reader.fromStr data with
    | .ok event => ([.event event], some (reader.cursor event))
    | .error detail => ([.unreadable s!"pantheon: skipped an unreadable event: {detail}"], id)

/-- One message of the loop over the buffer. -/
def Watched.emit (w : Watched E) (message : List UInt8) : Watched E :=
  let (printed, cursor) := emitMessage reader message
  { w with
    messages := w.messages ++ [message]
    printed := w.printed ++ printed
    lastCursor := cursor.or w.lastCursor }

/-- One frame: the bytes are buffered, and each complete message is emitted. -/
def Watched.receive (w : Watched E) : Frame → Watched E
  | .trailers => w
  | .data chunk =>
    let (messages, pending) := messageSplitter.drain (w.pending ++ chunk)
    { messages.foldl (Watched.emit reader) w with pending }

/-- `report_resume`. -/
def reportResume (cursor : Option String) : Option String :=
  cursor.map fun cursor => s!"pantheon: resume with --after {cursor}"

/-- `watch`: the frames until the daemon closes the stream, or until the stream fails. The last
    line says how to resume. -/
def watch (frames : List Frame) (failure : Option String) :
    Watched E × Option String × Except String Unit :=
  let w := frames.foldl (Watched.receive reader) ⟨[], [], [], none⟩
  (w, reportResume w.lastCursor,
    failure.elim (.ok ()) fun err => .error s!"the event stream failed: {err}")

/-- The state after these messages, with this rest in the buffer. -/
def Watched.after (state : List (List UInt8) × List UInt8) : Watched E :=
  { state.1.foldl (Watched.emit reader) ⟨[], [], [], none⟩ with pending := state.2 }

/-- The buffer plays no part in emitting. -/
theorem foldl_emit_pending (messages : List (List UInt8)) (w : Watched E) (pending rest : List UInt8) :
    { messages.foldl (Watched.emit reader) { w with pending } with pending := rest } =
      { messages.foldl (Watched.emit reader) w with pending := rest } := by
  induction messages generalizing w with
  | nil => rfl
  | cons message messages ih => exact ih (w.emit reader message)

theorem receive_after {state : List (List UInt8) × List UInt8}
    (h : messageSplitter.find state.2 = none) (frame : Frame) :
    (Watched.after reader state).receive reader frame =
      .after reader (messageSplitter.feed state frame.bytes) := by
  cases frame with
  | trailers =>
    have hrest : messageSplitter.feed state [] = state := by
      rw [Splitter.feed, List.append_nil, Splitter.drain_none _ h, List.append_nil]
    rw [Frame.bytes, hrest]
    rfl
  | data chunk =>
    unfold Watched.after Watched.receive Splitter.feed
    rw [List.foldl_append]
    exact foldl_emit_pending reader _ _ _ _

theorem foldl_receive {state : List (List UInt8) × List UInt8}
    (h : messageSplitter.find state.2 = none) (frames : List Frame) :
    frames.foldl (Watched.receive reader) (.after reader state) =
      .after reader ((frames.map Frame.bytes).foldl messageSplitter.feed state) := by
  induction frames generalizing state with
  | nil => rfl
  | cons frame frames ih =>
    rw [List.foldl_cons, receive_after reader h, List.map_cons, List.foldl_cons]
    exact ih (messageSplitter.find_drain _)

/-- However the stream is cut into frames, the watch finds the same messages, prints the same, and
    ends with the same cursor and the same unfinished rest as with the stream in one piece. -/
theorem watch_however_cut (frames : List Frame) (failure : Option String) :
    watch reader frames failure = watch reader [.data (frames.flatMap Frame.bytes)] failure := by
  have hcut : ∀ frames : List Frame, frames.foldl (Watched.receive reader) ⟨[], [], [], none⟩ =
      .after reader (messageSplitter.feed ([], []) (frames.flatMap Frame.bytes)) := by
    intro frames
    have hfold : frames.foldl (Watched.receive reader) (.after reader ([], [])) = _ :=
      foldl_receive reader rfl frames
    rwa [messageSplitter.foldl_feed rfl, ← List.flatMap_def] at hfold
  unfold watch
  rw [hcut frames, hcut [.data _], List.flatMap_singleton]
  rfl

end Watch

end Pantheon
