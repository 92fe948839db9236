/-
  Cutting a stream into messages.
  A reader appends what arrives to a buffer and takes complete messages off its front. When a
  found message is never found differently after more has arrived (`stable`), how the stream was
  cut on its way does not matter (`foldl_feed`).
-/
import Mathlib.Data.List.Basic

namespace Framing

/-- A search for the first complete message of a buffer: the length of the message, and of the
    separator after it. -/
structure Splitter (β : Type) where
  find : List β → Option (Nat × Nat)
  inside : ∀ {buffer n s}, find buffer = some (n, s) → 0 < s ∧ n + s ≤ buffer.length
  stable : ∀ {buffer found}, find buffer = some found → ∀ more, find (buffer ++ more) = some found

namespace Splitter

variable {β : Type} (S : Splitter β)

theorem drop_shorter {buffer : List β} {n s : Nat} (h : S.find buffer = some (n, s)) :
    (buffer.drop (n + s)).length < buffer.length := by
  have := S.inside h
  rw [List.length_drop]
  omega

/-- Takes the complete messages off a buffer; the rest stays. -/
def drain (buffer : List β) : List (List β) × List β :=
  match _h : S.find buffer with
  | some (n, s) => ((buffer.take n :: (drain (buffer.drop (n + s))).1), (drain (buffer.drop (n + s))).2)
  | none => ([], buffer)
termination_by buffer.length
decreasing_by all_goals exact S.drop_shorter _h

theorem drain_some {buffer : List β} {n s : Nat} (h : S.find buffer = some (n, s)) :
    S.drain buffer = (buffer.take n :: (S.drain (buffer.drop (n + s))).1,
      (S.drain (buffer.drop (n + s))).2) := by
  rw [drain]
  split
  · rename_i n' s' h'
    obtain ⟨rfl, rfl⟩ := Prod.mk.inj (Option.some.inj (h.symm.trans h'))
    rfl
  · rename_i h'
    cases h.symm.trans h'

theorem drain_none {buffer : List β} (h : S.find buffer = none) : S.drain buffer = ([], buffer) := by
  rw [drain]
  split
  · rename_i h'
    cases h.symm.trans h'
  · rfl

/-- What stays in the buffer holds no complete message. -/
theorem find_drain (buffer : List β) : S.find (S.drain buffer).2 = none := by
  fun_induction drain S buffer with
  | case1 buffer n s h ih => exact ih
  | case2 buffer h => exact h

/-- Messages taken off before more arrives are the ones taken off afterwards. -/
theorem drain_append (buffer more : List β) :
    S.drain (buffer ++ more) = ((S.drain buffer).1 ++ (S.drain ((S.drain buffer).2 ++ more)).1,
      (S.drain ((S.drain buffer).2 ++ more)).2) := by
  fun_induction drain S buffer with
  | case1 buffer n s h ih =>
    have hinside := (S.inside h).2
    rw [S.drain_some (S.stable h more), List.drop_append_of_le_length hinside,
      List.take_append_of_le_length (by omega), ih]
    rfl
  | case2 buffer h => rfl

/-- One more piece has arrived. -/
def feed (state : List (List β) × List β) (piece : List β) : List (List β) × List β :=
  (state.1 ++ (S.drain (state.2 ++ piece)).1, (S.drain (state.2 ++ piece)).2)

/-- A stream gives the same messages and the same rest however it was cut. -/
theorem foldl_feed {buffer : List β} (h : S.find buffer = none) (messages : List (List β))
    (pieces : List (List β)) :
    pieces.foldl S.feed (messages, buffer) = S.feed (messages, buffer) pieces.flatten := by
  induction pieces generalizing messages buffer with
  | nil => simp [feed, S.drain_none h]
  | cons piece pieces ih =>
    rw [List.foldl_cons, List.flatten_cons]
    change pieces.foldl S.feed (messages ++ (S.drain (buffer ++ piece)).1, (S.drain (buffer ++ piece)).2) = _
    rw [ih (S.find_drain _), feed, feed, ← List.append_assoc buffer, S.drain_append (buffer ++ piece)]
    simp only [List.append_assoc]

end Splitter

end Framing
