/-
  Transactions over a relational state.
  A `Writer A α` is what runs inside one transaction: it reads and writes the state, may fail,
  and may mark the transaction as failed. The tables it may insert into and the tables it may
  update are part of its type (`Access`), so what it leaves alone is a field (`within`) and
  never a proof obligation of a caller; the failed mark is `sticky`.
  `transact` commits only when the body answered and nothing was marked failed.
  `Commits m d a d'` is the one way a transaction changes a state; `commits_bind` takes a body
  apart step by step, and the `simp` lemmas say what each primitive step contributes.
-/
import Pantheon.Base.Table

namespace Relational

/-- The tables a transaction body may insert into, and those whose rows it may update. -/
structure Access (ι : Type) where
  inserts : List ι
  updates : List ι

variable {ι : Type} {S : Schema ι} {ε : Type} {A : Access ι} {α β : Type}

/-- What access rights say about the change of a state: other tables are the same, rows of
    tables without updates are kept, rows never disappear, and tables without inserts get
    no new keys. -/
structure Within (A : Access ι) (d d' : State S) : Prop where
  same : ∀ i, i ∉ A.inserts → i ∉ A.updates → d'.table i = d.table i
  kept : ∀ i, i ∉ A.updates → ∀ k r, d.find i k = some r → d'.find i k = some r
  grown : ∀ i k, d.find i k ≠ none → d'.find i k ≠ none
  closed : ∀ i, i ∉ A.inserts → ∀ k, d.find i k = none → d'.find i k = none

variable {d₁ : State S} {u : Unit}

namespace Within

theorem find_same {A : Access ι} {d d' : State S} (h : Within A d d') {i : ι} (hi : i ∉ A.inserts)
    (hu : i ∉ A.updates) (k : S.Key i) : d'.find i k = d.find i k := State.find_congr (h.same i hi hu) k

theorem refl (A : Access ι) (d : State S) : Within A d d where
  same _ _ _ := rfl
  kept _ _ _ _ h := h
  grown _ _ h := h
  closed _ _ _ h := h

theorem trans {d₂ d₃ : State S} (h₁ : Within A d₁ d₂) (h₂ : Within A d₂ d₃) :
    Within A d₁ d₃ where
  same i hi hu := (h₂.same i hi hu).trans (h₁.same i hi hu)
  kept i hu k r h := h₂.kept i hu k r (h₁.kept i hu k r h)
  grown i k h := h₂.grown i k (h₁.grown i k h)
  closed i hi k h := h₂.closed i hi k (h₁.closed i hi k h)

theorem mono {B : Access ι} {d d' : State S} (hi : ∀ i ∈ A.inserts, i ∈ B.inserts)
    (hu : ∀ i ∈ A.updates, i ∈ B.updates) (h : Within A d d') : Within B d d' where
  same i hi' hu' := h.same i (fun hm => hi' (hi i hm)) fun hm => hu' (hu i hm)
  kept i hu' := h.kept i fun hm => hu' (hu i hm)
  grown := h.grown
  closed i hi' := h.closed i fun hm => hi' (hi i hm)

variable [DecidableEq ι]

theorem of_insert {d d' : State S} {i : ι} {k : S.Key i} {r : S.Row i} (hi : i ∈ A.inserts)
    (h : d.insert i k r = .ok d') : Within A d d' := by
  obtain ⟨hnone, -, -, -, -, hfind, hother⟩ := State.insert_ok h
  refine ⟨fun j hj _ => hother j (by rintro rfl; exact hj hi), ?_, ?_, ?_⟩
  · intro j _ k' r' hk'
    by_cases hj : j = i
    · subst hj
      rw [hfind, if_neg]
      · exact hk'
      · rintro rfl
        rw [hnone] at hk'
        cases hk'
    · simpa only [State.find, hother j hj] using hk'
  · intro j k' hk'
    by_cases hj : j = i
    · subst hj
      rw [hfind]
      split
      · simp
      · exact hk'
    · simpa only [State.find, hother j hj] using hk'
  · intro j hj k' hk'
    have hne : j ≠ i := by
      rintro rfl
      exact hj hi
    simpa only [State.find, hother j hne] using hk'

theorem of_replace {d d' : State S} {i : ι} {k : S.Key i} {r : S.Row i} (hi : i ∈ A.updates)
    (h : d.replace i k r = .ok d') : Within A d d' := by
  have hother := State.replace_frame h
  have hkeys := State.replace_find_none h
  refine ⟨fun j _ hj => hother j (by rintro rfl; exact hj hi), ?_, ?_, ?_⟩
  · intro j hj k' r' hk'
    have hne : j ≠ i := by
      rintro rfl
      exact hj hi
    simpa only [State.find, hother j hne] using hk'
  · intro j k' hk' hn
    by_cases hj : j = i
    · subst hj
      exact hk' ((hkeys k').mp hn)
    · exact hk' (by simpa only [State.find, hother j hj] using hn)
  · intro j _ k' hk'
    by_cases hj : j = i
    · subst hj
      exact (hkeys k').mpr hk'
    · simpa only [State.find, hother j hj] using hk'

end Within

/-- A state inside a transaction, with the failed mark. -/
structure Tx (S : Schema ι) where
  db : State S
  failed : Bool

/-- A transaction body with access rights `A`. -/
structure Writer (S : Schema ι) (ε : Type) (A : Access ι) (α : Type) where
  run : Tx S → Except ε α × Tx S
  within : ∀ t, Within A t.db (run t).2.db
  sticky : ∀ t, t.failed = true → (run t).2.failed = true

namespace Writer

/-- Answers without touching anything. -/
protected def pure (a : α) : Writer S ε A α where
  run t := (.ok a, t)
  within _ := .refl A _
  sticky _ h := h

/-- The continuation of a step: an error ends the body. -/
def next (f : α → Writer S ε A β) : Except ε α × Tx S → Except ε β × Tx S
  | (.ok a, t) => (f a).run t
  | (.error e, t) => (.error e, t)

protected def bind (m : Writer S ε A α) (f : α → Writer S ε A β) : Writer S ε A β where
  run t := next f (m.run t)
  within t := by
    have h := m.within t
    rcases hm : m.run t with ⟨a | a, t'⟩
    · rw [hm] at h
      exact h
    · rw [hm] at h
      exact h.trans ((f a).within t')
  sticky t ht := by
    have h := m.sticky t ht
    rcases hm : m.run t with ⟨a | a, t'⟩
    · rw [hm] at h
      exact h
    · rw [hm] at h
      exact (f a).sticky t' h

instance : Monad (Writer S ε A) where
  pure := Writer.pure
  bind := Writer.bind

/-- Reads the state. -/
def read (f : State S → α) : Writer S ε A α where
  run t := (.ok (f t.db), t)
  within _ := .refl A _
  sticky _ h := h

/-- Returns an error. -/
def throw (e : ε) : Writer S ε A α where
  run t := (.error e, t)
  within _ := .refl A _
  sticky _ h := h

/-- Returns an error and marks the transaction failed. -/
def fail (e : ε) : Writer S ε A α where
  run t := (.error e, ⟨t.db, true⟩)
  within _ := .refl A _
  sticky _ _ := rfl

/-- Goes on only where the condition holds; otherwise the transaction is marked failed. -/
def ensure (c : Prop) [Decidable c] (e : ε) : Writer S ε A Unit := if c then pure () else fail e

/-- Goes on only with a value. -/
def require (o : Option α) (e : ε) : Writer S ε A α :=
  match o with
  | some a => pure a
  | none => throw e

/-- The state after a write, or the refusal, which marks the transaction failed. -/
def outcome (t : Tx S) (e : Violation → ε) : Except Violation (State S) → Except ε Unit × Tx S
  | .ok d => (.ok (), ⟨d, t.failed⟩)
  | .error v => (.error (e v), ⟨t.db, true⟩)

/-- Inserts a row. -/
def insert [DecidableEq ι] (e : Violation → ε) (i : ι) (k : S.Key i) (r : S.Row i) (hi : i ∈ A.inserts) :
    Writer S ε A Unit where
  run t := outcome t e (t.db.insert i k r)
  within t := by
    rcases h : t.db.insert i k r with v | d
    · exact .refl A _
    · exact .of_insert hi h
  sticky t ht := by
    rcases h : t.db.insert i k r with v | d
    · rfl
    · exact ht

/-- Replaces a row. -/
def replace [DecidableEq ι] (e : Violation → ε) (i : ι) (k : S.Key i) (r : S.Row i) (hi : i ∈ A.updates) :
    Writer S ε A Unit where
  run t := outcome t e (t.db.replace i k r)
  within t := by
    rcases h : t.db.replace i k r with v | d
    · exact .refl A _
    · exact .of_replace hi h
  sticky t ht := by
    rcases h : t.db.replace i k r with v | d
    · rfl
    · exact ht

/-- A body with fewer access rights. -/
def widen {B : Access ι} (hi : ∀ i ∈ A.inserts, i ∈ B.inserts)
    (hu : ∀ i ∈ A.updates, i ∈ B.updates) (m : Writer S ε A α) : Writer S ε B α where
  run := m.run
  within t := (m.within t).mono hi hu
  sticky := m.sticky

/-- One body for each element, in order. -/
def forEach (f : α → Writer S ε A Unit) : List α → Writer S ε A Unit
  | [] => pure ()
  | a :: as => do
    f a
    forEach f as

/-! ## Committing -/

/-- The body answers `a` from `d` with nothing marked failed, and leaves `d'`. -/
def Commits (m : Writer S ε A α) (d : State S) (a : α) (d' : State S) : Prop :=
  m.run ⟨d, false⟩ = (.ok a, ⟨d', false⟩)

/-- Opens the transaction, runs the body, and commits only if it answered and nothing was
    marked failed. `discarded` is the error of a body that hid a failure. -/
def transact (discarded : ε) (m : Writer S ε A α) (d : State S) : Except ε α × State S :=
  match m.run ⟨d, false⟩ with
  | (.ok a, t) => if t.failed then (.error discarded, d) else (.ok a, t.db)
  | (.error e, _) => (.error e, d)

theorem transact_ok {discarded : ε} {m : Writer S ε A α} {d d' : State S} {a : α} :
    m.transact discarded d = (.ok a, d') ↔ m.Commits d a d' := by
  unfold transact Commits
  rcases h : m.run ⟨d, false⟩ with ⟨e | b, ⟨db, failed⟩⟩
  · simp
  · cases failed <;> simp

/-- A transaction that does not commit leaves the state as it was. -/
theorem transact_cases (discarded : ε) (m : Writer S ε A α) (d : State S) :
    (∃ e, m.transact discarded d = (.error e, d)) ∨
      ∃ a d', m.transact discarded d = (.ok a, d') ∧ m.Commits d a d' := by
  rcases h : m.transact discarded d with ⟨e | a, d'⟩
  · left
    refine ⟨e, ?_⟩
    unfold transact at h
    split at h
    · split at h
      · simp_all
      · simp at h
    · simp_all
  · exact Or.inr ⟨a, d', rfl, transact_ok.mp h⟩

/-- A committed body stays within its access rights. -/
theorem Commits.within {m : Writer S ε A α} {d d' : State S} {a : α} (h : m.Commits d a d') :
    Within A d d' := by
  have hw := m.within ⟨d, false⟩
  rw [show m.run ⟨d, false⟩ = (.ok a, ⟨d', false⟩) from h] at hw
  exact hw

/-- A body commits in one way. -/
theorem Commits.unique {m : Writer S ε A α} {d d₂ : State S} {a b : α} (h : m.Commits d a d₁)
    (h' : m.Commits d b d₂) : a = b ∧ d₁ = d₂ := by
  have hsame := Eq.trans (Eq.symm h) h'
  simp only [Prod.mk.injEq, Except.ok.injEq, Tx.mk.injEq, and_true] at hsame
  exact hsame

/-- A body without rights leaves the state as it was. -/
theorem Commits.unchanged {m : Writer S ε ⟨[], []⟩ α} {d d' : State S} {a : α}
    (h : m.Commits d a d') : d' = d :=
  State.ext_table fun i => h.within.same i List.not_mem_nil List.not_mem_nil

theorem commits_bind {m : Writer S ε A α} {f : α → Writer S ε A β} {d d' : State S} {b : β} :
    (m >>= f).Commits d b d' ↔ ∃ a d₁, m.Commits d a d₁ ∧ (f a).Commits d₁ b d' := by
  change next f (m.run ⟨d, false⟩) = _ ↔ _
  constructor
  · intro h
    rcases hm : m.run ⟨d, false⟩ with ⟨e | a, ⟨d₁, failed⟩⟩
    · rw [hm] at h
      simp [next] at h
    · rw [hm] at h
      cases failed with
      | false => exact ⟨a, d₁, hm, h⟩
      | true =>
        have hs := (f a).sticky ⟨d₁, true⟩ rfl
        rw [show (f a).run ⟨d₁, true⟩ = (.ok b, ⟨d', false⟩) from h] at hs
        cases hs
  · rintro ⟨a, d₁, hm, hf⟩
    rw [show m.run ⟨d, false⟩ = (.ok a, ⟨d₁, false⟩) from hm]
    exact hf

@[simp] theorem commits_pure {a b : α} {d d' : State S} :
    (pure a : Writer S ε A α).Commits d b d' ↔ b = a ∧ d' = d := by
  change ((Except.ok a, (⟨d, false⟩ : Tx S)) : Except ε α × Tx S) = (.ok b, ⟨d', false⟩) ↔ _
  simp only [Prod.mk.injEq, Except.ok.injEq, Tx.mk.injEq, and_true]
  exact and_congr eq_comm eq_comm

@[simp] theorem commits_read {f : State S → α} {b : α} {d d' : State S} :
    (read f : Writer S ε A α).Commits d b d' ↔ b = f d ∧ d' = d := by
  change ((Except.ok (f d), (⟨d, false⟩ : Tx S)) : Except ε α × Tx S) = (.ok b, ⟨d', false⟩) ↔ _
  simp only [Prod.mk.injEq, Except.ok.injEq, Tx.mk.injEq, and_true]
  exact and_congr eq_comm eq_comm

@[simp] theorem commits_throw {e : ε} {b : α} {d d' : State S} :
    ¬(throw e : Writer S ε A α).Commits d b d' := by
  simp [Commits, throw]

@[simp] theorem commits_fail {e : ε} {b : α} {d d' : State S} :
    ¬(fail e : Writer S ε A α).Commits d b d' := by
  simp [Commits, fail]

@[simp] theorem commits_ensure {c : Prop} [Decidable c] {e : ε} {d d' : State S} :
    (ensure c e : Writer S ε A Unit).Commits d u d' ↔ c ∧ d' = d := by
  unfold ensure
  split
  · rename_i h
    simp [h]
  · rename_i h
    simp [h]

@[simp] theorem commits_require {o : Option α} {e : ε} {b : α} {d d' : State S} :
    (require o e : Writer S ε A α).Commits d b d' ↔ o = some b ∧ d' = d := by
  cases o with
  | none => simp [require]
  | some a => simp [require, eq_comm]

@[simp] theorem commits_insert [DecidableEq ι] {e : Violation → ε} {i : ι} {k : S.Key i}
    {r : S.Row i} {hi : i ∈ A.inserts} {d d' : State S} :
    (insert e i k r hi : Writer S ε A Unit).Commits d u d' ↔ d.insert i k r = .ok d' := by
  change outcome ⟨d, false⟩ e (d.insert i k r) = _ ↔ _
  rcases d.insert i k r with v | d₁
  · simp [outcome]
  · simp [outcome]

@[simp] theorem commits_replace [DecidableEq ι] {e : Violation → ε} {i : ι} {k : S.Key i}
    {r : S.Row i} {hi : i ∈ A.updates} {d d' : State S} :
    (replace e i k r hi : Writer S ε A Unit).Commits d u d' ↔ d.replace i k r = .ok d' := by
  change outcome ⟨d, false⟩ e (d.replace i k r) = _ ↔ _
  rcases d.replace i k r with v | d₁
  · simp [outcome]
  · simp [outcome]

/-! ## Running a body step by step -/

theorem then_of {m : Writer S ε A α} {f : α → Writer S ε A β} {d d' : State S} {a : α} {b : β}
    (hm : m.Commits d a d₁) (hf : (f a).Commits d₁ b d') : (m >>= f).Commits d b d' :=
  commits_bind.mpr ⟨a, d₁, hm, hf⟩

theorem read_of {f : State S → α} {a : α} {d : State S} (h : f d = a) :
    (read f : Writer S ε A α).Commits d a d := commits_read.mpr ⟨h.symm, rfl⟩

theorem ensure_of {c : Prop} [Decidable c] {e : ε} {d : State S} (h : c) :
    (ensure c e : Writer S ε A Unit).Commits d () d := commits_ensure.mpr ⟨h, rfl⟩

/-! ## Reading a body step by step -/

section Steps

variable {γ : Type} {f : α → Writer S ε A γ} {g : Unit → Writer S ε A γ} {d d' : State S} {c : γ}

theorem read_then {q : State S → α} (h : (read q >>= f).Commits d c d') :
    (f (q d)).Commits d c d' := by
  obtain ⟨_, d₁, hq, hf⟩ := commits_bind.mp h
  obtain ⟨rfl, rfl⟩ := commits_read.mp hq
  exact hf

theorem require_then {o : Option α} {e : ε} (h : (require o e >>= f).Commits d c d') :
    ∃ a, o = some a ∧ (f a).Commits d c d' := by
  obtain ⟨a, d₁, hq, hf⟩ := commits_bind.mp h
  obtain ⟨ho, rfl⟩ := commits_require.mp hq
  exact ⟨a, ho, hf⟩

theorem ensure_then {p : Prop} [Decidable p] {e : ε} (h : (ensure p e >>= g).Commits d c d') :
    p ∧ (g ()).Commits d c d' := by
  obtain ⟨_, d₁, hq, hg⟩ := commits_bind.mp h
  obtain ⟨hp, rfl⟩ := commits_ensure.mp hq
  exact ⟨hp, hg⟩

theorem insert_then [DecidableEq ι] {e : Violation → ε} {i : ι} {k : S.Key i} {r : S.Row i}
    {hi : i ∈ A.inserts} (h : (insert e i k r hi >>= g).Commits d c d') :
    ∃ d₁, d.insert i k r = .ok d₁ ∧ (g ()).Commits d₁ c d' := by
  obtain ⟨_, d₁, hd, h⟩ := commits_bind.mp h
  exact ⟨d₁, commits_insert.mp hd, h⟩

theorem widen_then {B : Access ι} {hi : ∀ i ∈ B.inserts, i ∈ A.inserts}
    {hu : ∀ i ∈ B.updates, i ∈ A.updates} {m : Writer S ε B α}
    (h : (m.widen hi hu >>= f).Commits d c d') :
    ∃ a d₁, m.Commits d a d₁ ∧ (f a).Commits d₁ c d' := commits_bind.mp h

/-- A guard: a body without rights, run first. -/
theorem guard_then {hi : ∀ i ∈ ([] : List ι), i ∈ A.inserts}
    {hu : ∀ i ∈ ([] : List ι), i ∈ A.updates} {m : Writer S ε ⟨[], []⟩ α}
    (h : (m.widen hi hu >>= f).Commits d c d') : ∃ a, m.Commits d a d ∧ (f a).Commits d c d' := by
  obtain ⟨a, d₁, hm, hf⟩ := widen_then h
  obtain rfl := hm.unchanged
  exact ⟨a, hm, hf⟩

end Steps

/-! ## Failing -/

/-- The body ends with an error. -/
def Fails (m : Writer S ε A α) (d : State S) (e : ε) : Prop := (m.run ⟨d, false⟩).1 = .error e

theorem Fails.transact {m : Writer S ε A α} {d : State S} {e : ε} (h : m.Fails d e)
    (discarded : ε) : m.transact discarded d = (.error e, d) := by
  unfold Writer.transact
  unfold Fails at h
  rcases hrun : m.run ⟨d, false⟩ with ⟨r, t⟩
  rw [hrun] at h
  obtain rfl : r = .error e := h
  rfl

theorem fails_fail {e : ε} {d : State S} : (fail e : Writer S ε A α).Fails d e := rfl

theorem fails_ensure {c : Prop} [Decidable c] {e : ε} {d : State S} (h : ¬c) :
    (ensure c e : Writer S ε A Unit).Fails d e := by
  unfold ensure
  rw [if_neg h]
  exact fails_fail

/-- An error ends the body. -/
theorem Fails.bind {m : Writer S ε A α} {f : α → Writer S ε A β} {d : State S} {e : ε}
    (h : m.Fails d e) : (m >>= f).Fails d e := by
  change (next f (m.run ⟨d, false⟩)).1 = _
  unfold Fails at h
  rcases hrun : m.run ⟨d, false⟩ with ⟨r, t⟩
  rw [hrun] at h
  obtain rfl : r = .error e := h
  rfl

/-- A step that went through leaves the error to the rest. -/
theorem Commits.bind_fails {m : Writer S ε A α} {f : α → Writer S ε A β} {d : State S} {a : α}
    {e : ε} (hm : m.Commits d a d₁) (hf : (f a).Fails d₁ e) : (m >>= f).Fails d e := by
  change (next f (m.run ⟨d, false⟩)).1 = _
  rw [show m.run ⟨d, false⟩ = (.ok a, ⟨d₁, false⟩) from hm]
  exact hf

/-- A loop of guards passed every one of them. -/
theorem commits_forEach_guard {f : α → Writer S ε ⟨[], []⟩ Unit} {as : List α} {d d' : State S}
    (h : (forEach f as).Commits d u d') : ∀ a ∈ as, ∃ v, (f a).Commits d v d := by
  induction as with
  | nil => exact fun _ ha => absurd ha List.not_mem_nil
  | cons a as ih =>
    obtain ⟨v, d₁, ha, hrest⟩ := commits_bind.mp h
    obtain rfl := ha.unchanged
    intro b hb
    rcases List.mem_cons.mp hb with rfl | hb
    · exact ⟨v, ha⟩
    · exact ih hrest b hb

/-- Every body of a loop ran, in a state the loop had made of the first one. -/
theorem commits_forEach_each {f : α → Writer S ε A Unit} {as : List α} {d d' : State S}
    (h : (forEach f as).Commits d u d') : ∀ a ∈ as, ∃ v d₁ d₂, Within A d d₁ ∧
      (f a).Commits d₁ v d₂ ∧ Within A d₂ d' := by
  induction as generalizing d with
  | nil => exact fun _ ha => absurd ha List.not_mem_nil
  | cons a as ih =>
    obtain ⟨v, d₁, ha, hrest⟩ := commits_bind.mp h
    intro b hb
    rcases List.mem_cons.mp hb with rfl | hb
    · exact ⟨v, d, d₁, .refl A d, ha, hrest.within⟩
    · obtain ⟨w, d₂, d₃, hbefore, hcommits, hafter⟩ := ih hrest b hb
      exact ⟨w, d₂, d₃, ha.within.trans hbefore, hcommits, hafter⟩

/-- A loop whose bodies change nothing commits where each of them does. -/
theorem forEach_of {f : α → Writer S ε A Unit} {as : List α} {d : State S}
    (h : ∀ a ∈ as, (f a).Commits d () d) : (forEach f as).Commits d () d := by
  induction as with
  | nil => exact commits_pure.mpr ⟨rfl, rfl⟩
  | cons a as ih =>
    exact commits_bind.mpr ⟨(), d, h a List.mem_cons_self,
      ih fun b hb => h b (List.mem_cons_of_mem _ hb)⟩

end Writer

end Relational
