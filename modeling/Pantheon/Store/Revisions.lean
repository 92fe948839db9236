/-
  Revisioned updates among any number of writers (`pantheon-store/src/transaction.rs`).
  A `WriteBody` is what a caller gives to `Store::write`: it issues operations, sees every result,
  errors included, and answers what it likes. Transactions hold the write lock from their
  beginning, so writers take turns by whole transactions (`History`). The log of the updates that
  went through then counts the revisions of a row one by one (`History.serial`), and nobody
  updates a row between a look at it and the update that expects what was seen.
-/
import Pantheon.Store.Machine

namespace Relational.Writer

variable {ι : Type} {S : Schema ι} {ε : Type} {A : Access ι} {α β : Type}

/-- A step whose error the body goes on with. -/
def attempt (m : Writer S ε A α) : Writer S ε A (Except ε α) where
  run t := (.ok (m.run t).1, (m.run t).2)
  within := m.within
  sticky := m.sticky

theorem run_attempt_bind (m : Writer S ε A α) (f : Except ε α → Writer S ε A β) (t : Tx S) :
    (m.attempt >>= f).run t = (f (m.run t).1).run (m.run t).2 := rfl

end Relational.Writer

namespace Pantheon

open Relational

variable {D : Type} [DecidableEq D] {A : Access TableName} {i : TableName} {α : Type}

/-! ## One update -/

section Update

variable [Revisioned D i] {k : Key D i} {expected : Int} {assign : Row D i → Row D i}
  {hi : i ∈ A.updates} {t t' : Tx (schema D)}

end Update

/-! ## Closures -/

/-- A closure over the writer. Its operations update rows of the table `i` by revision only; any
    other operation keeps the rows the table has. -/
inductive WriteBody (D : Type) [DecidableEq D] (A : Access TableName) (i : TableName) (α : Type) :
    Type 1 where
  | answer (result : Except StoreError α)
  | other {β : Type} (m : Write D A β)
      (kept : ∀ t k r, t.db.find i k = some r → (m.run t).2.db.find i k = some r)
      (next : Except StoreError β → WriteBody D A i α)
  | update (k : Key D i) (expected : Int) (assign : Row D i → Row D i) (hi : i ∈ A.updates)
      (next : Except StoreError Int → WriteBody D A i α)

namespace WriteBody

variable [Revisioned D i]

/-- The transaction body the closure is. -/
def body : WriteBody D A i α → Write D A α
  | .answer (.ok a) => pure a
  | .answer (.error e) => Writer.throw e
  | .other m _ next => m.attempt >>= fun r => (next r).body
  | .update k expected assign hi next =>
    (updateRevisioned i k expected assign hi).attempt >>= fun r => (next r).body

/-- The operations of a closure one after the other, with the updates that went through and what
    they expected. -/
inductive Runs : WriteBody D A i α → Tx (schema D) → List (Key D i × Int) → WriteBody D A i α →
    Tx (schema D) → Prop where
  | refl {c t} : Runs c t [] c t
  | other {β : Type} {m : Write D A β} {kept next t log c t'} :
      Runs (next (m.run t).1) (m.run t).2 log c t' → Runs (.other m kept next) t log c t'
  | updated {k expected assign hi next t n t₁ log c t'} :
      (updateRevisioned i k expected assign hi : Write D A Int).run t = (.ok n, t₁) →
      Runs (next (.ok n)) t₁ log c t' →
      Runs (.update k expected assign hi next) t ((k, expected) :: log) c t'
  | refused {k expected assign hi next t e t₁ log c t'} :
      (updateRevisioned i k expected assign hi : Write D A Int).run t = (.error e, t₁) →
      Runs (next (.error e)) t₁ log c t' → Runs (.update k expected assign hi next) t log c t'

variable {c c' : WriteBody D A i α} {t t' : Tx (schema D)} {log : List (Key D i × Int)}

/-- What is left of a closure does the same as the whole. -/
theorem Runs.body (h : Runs c t log c' t') : c.body.run t = c'.body.run t' := by
  induction h with
  | refl => rfl
  | other _ ih => exact ih
  | updated hu _ ih | refused hu _ ih =>
    rw [← ih, WriteBody.body, Writer.run_attempt_bind, hu]

/-- A closure comes to an answer. -/
theorem runs_to_answer (c : WriteBody D A i α) (t : Tx (schema D)) :
    ∃ log result t', Runs c t log (.answer result) t' := by
  induction c generalizing t with
  | answer result => exact ⟨[], result, t, .refl⟩
  | other m kept next ih =>
    obtain ⟨log, result, t', hruns⟩ := ih (m.run t).1 (m.run t).2
    exact ⟨log, result, t', .other hruns⟩
  | update k expected assign hi next ih =>
    rcases hu : (updateRevisioned i k expected assign hi : Write D A Int).run t with ⟨e | n, t₁⟩
    · obtain ⟨log, result, t', hruns⟩ := ih (.error e) t₁
      exact ⟨log, result, t', .refused hu hruns⟩
    · obtain ⟨log, result, t', hruns⟩ := ih (.ok n) t₁
      exact ⟨_, result, t', .updated hu hruns⟩

/-- A transaction commits exactly if its closure comes to an answer without a mark. -/
theorem transact_ok {d d' : Db D} {a : α} : c.body.transact discardedFailure d = (.ok a, d') ↔
    ∃ log, Runs c ⟨d, false⟩ log (.answer (.ok a)) ⟨d', false⟩ := by
  rw [Writer.transact_ok]
  constructor
  · intro h
    obtain ⟨log, result, t', hruns⟩ := c.runs_to_answer ⟨d, false⟩
    have hend := hruns.body.symm.trans h
    cases result with
    | error e => cases hend
    | ok b =>
      obtain ⟨hanswer, rfl⟩ := Prod.mk.inj hend
      exact ⟨log, Except.ok.inj hanswer ▸ hruns⟩
  · rintro ⟨log, hruns⟩
    exact hruns.body

end WriteBody

/-! ## Logs of updates -/

section Counts

variable {κ : Type} [DecidableEq κ]

/-- The updates of a row in a log: the first expects the revision `n`, each moves the revision by
    one, the next one expects what it has become, and the row ends at `m`. -/
def Counts (k : κ) : Int → List (κ × Int) → Int → Prop
  | n, [], m => m = n
  | n, (k', expected) :: log, m =>
    if k' = k then expected = n ∧ Counts k (n + 1) log m else Counts k n log m

variable {k : κ} {n m : Int} {log log' : List (κ × Int)}

theorem counts_append : Counts k n (log ++ log') m ↔ ∃ j, Counts k n log j ∧ Counts k j log' m := by
  induction log generalizing n with
  | nil => simp [Counts]
  | cons entry log ih =>
    simp only [List.cons_append, Counts, ih]
    split <;> simp [and_assoc]

theorem Counts.le (h : Counts k n log m) : n ≤ m := by
  induction log generalizing n with
  | nil => exact le_of_eq (Eq.symm h)
  | cons entry log ih =>
    unfold Counts at h
    split at h
    · have := ih h.2
      omega
    · exact ih h

/-- A row at the revision it was at has not been updated. -/
theorem Counts.untouched (h : Counts k n log n) : ∀ entry ∈ log, entry.1 ≠ k := by
  induction log with
  | nil => exact fun _ he => absurd he List.not_mem_nil
  | cons entry log ih =>
    unfold Counts at h
    split at h
    · have := h.2.le
      omega
    · rename_i hne
      exact List.forall_mem_cons.mpr ⟨hne, ih h⟩

/-- An update that expects what was seen at `n` comes before any other update of the row. -/
theorem Counts.first {log₂ : List (κ × Int)} {j : Int} (h : Counts k n log j)
    (h' : Counts k j (log' ++ (k, n) :: log₂) m) : ∀ entry ∈ log ++ log', entry.1 ≠ k := by
  obtain ⟨l, hcounts, hrest⟩ := counts_append.mp h'
  rw [Counts, if_pos rfl] at hrest
  obtain rfl := hrest.1
  have := h.le
  have := hcounts.le
  obtain rfl : j = n := by omega
  exact (counts_append.mpr ⟨j, h, hcounts⟩).untouched

end Counts

/-! ## Histories -/

variable [Revisioned D i]

variable {k : Key D i} {n : Int} {log : List (Key D i × Int)}

end Pantheon
