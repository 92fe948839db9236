/-
  Relational states with enforced constraints.
  A `Table` is a list of keyed rows without repeated keys. A `Schema` names the tables of a
  database, their keys and rows, and the constraints a row must meet: its own check, its
  unique indexes (`clash`) and its references (`refers`). A `State` carries its constraints as
  fields, so a state that breaks a check or a unique index cannot be built; `State.insert` and
  `State.replace` are the two writes, each of which refuses a row that would break one.
  References are verified when a row is written. Rows are never removed.
-/
import Mathlib.Data.List.Nodup
import Mathlib.Logic.Function.Basic

namespace Relational

/-- Keyed rows, oldest first. -/
structure Table (κ ρ : Type) where
  rows : List (κ × ρ)
  nodup : (rows.map Prod.fst).Nodup

namespace Table

variable {κ ρ : Type}

def empty : Table κ ρ := ⟨[], List.nodup_nil⟩

variable [DecidableEq κ]

def find (t : Table κ ρ) (k : κ) : Option ρ := t.rows.lookup k

/-- Puts `r` in place of the row under `k`. -/
def overwrite (k : κ) (r : ρ) : List (κ × ρ) → List (κ × ρ)
  | [] => []
  | (k', r') :: rows => if k' = k then (k, r) :: rows else (k', r') :: overwrite k r rows

theorem lookup_cons_ite (k : κ) (p : κ × ρ) (rows : List (κ × ρ)) :
    (p :: rows).lookup k = if p.1 = k then some p.2 else rows.lookup k := by
  rw [List.lookup_cons]
  by_cases h : p.1 = k
  · simp [h]
  · rw [if_neg h, beq_false_of_ne (Ne.symm h)]

theorem mem_of_lookup {k : κ} {r : ρ} {rows : List (κ × ρ)} (h : rows.lookup k = some r) :
    (k, r) ∈ rows := by
  obtain ⟨l, l', rfl, _⟩ := List.lookup_eq_some_iff.mp h
  simp

theorem lookup_of_mem {k : κ} {r : ρ} {rows : List (κ × ρ)} (hn : (rows.map Prod.fst).Nodup)
    (h : (k, r) ∈ rows) : rows.lookup k = some r := by
  induction rows with
  | nil => simp at h
  | cons p rows ih =>
    rw [List.map_cons, List.nodup_cons] at hn
    rw [lookup_cons_ite]
    rcases List.mem_cons.mp h with rfl | h
    · simp
    · have hne : p.1 ≠ k := by
        rintro rfl
        exact hn.1 (List.mem_map.mpr ⟨_, h, rfl⟩)
      rw [if_neg hne]
      exact ih hn.2 h

theorem overwrite_keys (k : κ) (r : ρ) (rows : List (κ × ρ)) :
    (overwrite k r rows).map Prod.fst = rows.map Prod.fst := by
  induction rows with
  | nil => rfl
  | cons p rows ih =>
    unfold overwrite
    split
    · rename_i heq
      simp [heq]
    · simp [ih]

theorem mem_overwrite {k : κ} {r : ρ} {rows : List (κ × ρ)} {p : κ × ρ}
    (hn : (rows.map Prod.fst).Nodup) (h : p ∈ overwrite k r rows) :
    p = (k, r) ∨ (p ∈ rows ∧ p.1 ≠ k) := by
  induction rows with
  | nil => simp [overwrite] at h
  | cons q rows ih =>
    rw [List.map_cons, List.nodup_cons] at hn
    obtain ⟨hq, hnd⟩ := hn
    unfold overwrite at h
    split at h
    · rename_i heq
      rcases List.mem_cons.mp h with h | h
      · exact Or.inl h
      · refine Or.inr ⟨List.mem_cons_of_mem _ h, ?_⟩
        intro hk
        exact hq (List.mem_map.mpr ⟨p, h, hk.trans heq.symm⟩)
    · rename_i hne
      rcases List.mem_cons.mp h with rfl | h
      · exact Or.inr ⟨List.mem_cons_self .., hne⟩
      · rcases ih hnd h with h | h
        · exact Or.inl h
        · exact Or.inr ⟨List.mem_cons_of_mem _ h.1, h.2⟩

theorem lookup_overwrite_of_ne {k k' : κ} (h : k' ≠ k) (r : ρ) (rows : List (κ × ρ)) :
    (overwrite k r rows).lookup k' = rows.lookup k' := by
  induction rows with
  | nil => rfl
  | cons p rows ih =>
    unfold overwrite
    split
    · rename_i heq
      simp only [lookup_cons_ite, heq, if_neg (Ne.symm h)]
    · simp only [lookup_cons_ite, ih]

theorem lookup_overwrite_self {k : κ} (r : ρ) {rows : List (κ × ρ)}
    (h : rows.lookup k ≠ none) : (overwrite k r rows).lookup k = some r := by
  induction rows with
  | nil => simp at h
  | cons p rows ih =>
    unfold overwrite
    split
    · simp
    · rename_i hne
      rw [lookup_cons_ite, if_neg hne] at h ⊢
      exact ih h

/-- Adds a row under a new key. -/
def add (t : Table κ ρ) (k : κ) (r : ρ) (h : t.find k = none) : Table κ ρ where
  rows := t.rows ++ [(k, r)]
  nodup := by
    rw [List.map_append, List.nodup_append]
    refine ⟨t.nodup, by simp, ?_⟩
    intro a ha b hb
    obtain ⟨p, hp, rfl⟩ := List.mem_map.mp ha
    have hne := List.lookup_eq_none_iff.mp h p hp
    simp only [List.map_cons, List.map_nil, List.mem_singleton] at hb
    rw [hb]
    exact Ne.symm (bne_iff_ne.mp hne)

/-- Replaces the row under a key; nothing happens where there is none. -/
def set (t : Table κ ρ) (k : κ) (r : ρ) : Table κ ρ where
  rows := overwrite k r t.rows
  nodup := (overwrite_keys k r t.rows).symm ▸ t.nodup

theorem find_eq_some {t : Table κ ρ} {k : κ} {r : ρ} : t.find k = some r ↔ (k, r) ∈ t.rows :=
  ⟨mem_of_lookup, lookup_of_mem t.nodup⟩

theorem find_add (t : Table κ ρ) (k k' : κ) (r : ρ) (h : t.find k = none) :
    (t.add k r h).find k' = if k = k' then some r else t.find k' := by
  unfold find add
  rw [List.lookup_append, lookup_cons_ite]
  split
  · rename_i heq
    subst heq
    rw [show t.rows.lookup k = none from h]
    rfl
  · simp

theorem find_set_of_ne {k k' : κ} (h : k' ≠ k) (t : Table κ ρ) (r : ρ) :
    (t.set k r).find k' = t.find k' := lookup_overwrite_of_ne h r t.rows

theorem find_set_self {t : Table κ ρ} {k : κ} (r : ρ) (h : t.find k ≠ none) :
    (t.set k r).find k = some r := lookup_overwrite_self r h

theorem find_set_none (k k' : κ) (r : ρ) (t : Table κ ρ) :
    (t.set k r).find k' = none ↔ t.find k' = none := by
  have hkeys := overwrite_keys k r t.rows
  have hiff : ∀ rows : List (κ × ρ), rows.lookup k' = none ↔ k' ∉ rows.map Prod.fst := by
    intro rows
    simp only [List.lookup_eq_none_iff, List.mem_map, not_exists, not_and]
    constructor
    · intro h p hp hk
      exact bne_iff_ne.mp (h p hp) hk.symm
    · intro h p hp
      exact bne_iff_ne.mpr fun hk => h p hp hk.symm
  simp only [find, set, hiff, hkeys]

theorem mem_add {t : Table κ ρ} {k : κ} {r : ρ} {h : t.find k = none} {p : κ × ρ} :
    p ∈ (t.add k r h).rows ↔ p ∈ t.rows ∨ p = (k, r) := by
  simp [add]

theorem mem_set {t : Table κ ρ} {k : κ} {r : ρ} {p : κ × ρ} (h : p ∈ (t.set k r).rows) :
    p = (k, r) ∨ (p ∈ t.rows ∧ p.1 ≠ k) := mem_overwrite t.nodup h

end Table

/-! ## Schemas and states -/

/-- The tables of a database and the constraints on their rows. `clash` says that two rows
    under different keys break a unique index; `refers` says that a row's references are there. -/
structure Schema (ι : Type) where
  Key : ι → Type
  Row : ι → Type
  decKey : ∀ i, DecidableEq (Key i)
  check : ∀ i, Key i → Row i → Bool
  clash : ∀ i, Key i × Row i → Key i × Row i → Bool
  clash_comm : ∀ i p q, clash i p q = clash i q p
  refers : ∀ i, (∀ j, Table (Key j) (Row j)) → Key i → Row i → Bool

/-- Why a write was refused. -/
inductive Violation where
  | primaryKey
  | check
  | unique
  | foreignKey
  deriving Repr, DecidableEq

variable {ι : Type} {S : Schema ι}

instance (S : Schema ι) (i : ι) : DecidableEq (S.Key i) := S.decKey i

/-- A database whose rows meet their checks and unique indexes. -/
structure State (S : Schema ι) where
  table : ∀ i, Table (S.Key i) (S.Row i)
  checked : ∀ i, ∀ p ∈ (table i).rows, S.check i p.1 p.2 = true
  distinct : ∀ i, ∀ p ∈ (table i).rows, ∀ q ∈ (table i).rows, p.1 ≠ q.1 → S.clash i p q = false

variable {d d' : State S}

namespace State

def empty (S : Schema ι) : State S where
  table _ := Table.empty
  checked := by simp [Table.empty]
  distinct := by simp [Table.empty]

/-- The row under a key. -/
def find (d : State S) (i : ι) (k : S.Key i) : Option (S.Row i) := (d.table i).find k

/-- All rows of a table with their keys. -/
def rows (d : State S) (i : ι) : List (S.Key i × S.Row i) := (d.table i).rows

/-- A row of table `i` that breaks a unique index together with `p`. -/
def clashes (d : State S) (i : ι) (p : S.Key i × S.Row i) : Bool :=
  (d.rows i).any fun q => p.1 != q.1 && S.clash i p q

theorem clashes_eq_false {i : ι} {p : S.Key i × S.Row i} (h : d.clashes i p = false) :
    ∀ q ∈ d.rows i, p.1 ≠ q.1 → S.clash i p q = false := by
  intro q hq hne
  have := List.any_eq_false.mp h q hq
  simpa [hne] using this

theorem mem_rows {i : ι} {k : S.Key i} {r : S.Row i} :
    (k, r) ∈ d.rows i ↔ d.find i k = some r := Table.find_eq_some.symm

theorem ext_table (h : ∀ i, d'.table i = d.table i) : d' = d := by
  obtain ⟨table, _, _⟩ := d
  obtain ⟨table', _, _⟩ := d'
  obtain rfl : table' = table := funext h
  rfl

theorem find_congr {i : ι} (h : d'.table i = d.table i) (k : S.Key i) :
    d'.find i k = d.find i k := by
  rw [find, find, h]

/-- A table is reached through a step that writes another one. -/
theorem find_frame {t : ι} (h : ∀ j, j ≠ t → d'.table j = d.table j) {i : ι} (hi : i ≠ t)
    (k : S.Key i) : d'.find i k = d.find i k := find_congr (h i hi) k

theorem check_of_find {i : ι} {k : S.Key i} {r : S.Row i} (h : d.find i k = some r) :
    S.check i k r = true := d.checked i (k, r) (mem_rows.mpr h)

theorem clash_of_find {i : ι} {k k' : S.Key i} {r r' : S.Row i} (h : d.find i k = some r)
    (h' : d.find i k' = some r') (hne : k ≠ k') : S.clash i (k, r) (k', r') = false :=
  d.distinct i (k, r) (mem_rows.mpr h) (k', r') (mem_rows.mpr h') hne

/-- Where a unique index admits one row of a kind, searching for that kind finds it. -/
theorem search_iff {i : ι} {p : S.Key i × S.Row i → Bool}
    (hunique : ∀ q q', p q = true → p q' = true → S.clash i q q' = true) {k : S.Key i} {r : S.Row i} :
    (d.rows i).find? p = some (k, r) ↔ d.find i k = some r ∧ p (k, r) = true := by
  refine ⟨fun h => ⟨mem_rows.mp (List.mem_of_find?_eq_some h), List.find?_some h⟩, ?_⟩
  rintro ⟨hfound, hp⟩
  cases hsearch : (d.rows i).find? p with
  | none => exact absurd hp (List.find?_eq_none.mp hsearch _ (mem_rows.mpr hfound))
  | some q =>
    obtain ⟨k', r'⟩ := q
    have hfound' := mem_rows.mp (List.mem_of_find?_eq_some hsearch)
    by_cases hk : k' = k
    · subst hk
      rw [hfound'] at hfound
      rw [Option.some.inj hfound]
    · have hclash := clash_of_find hfound' hfound hk
      rw [hunique _ _ (List.find?_some hsearch) hp] at hclash
      cases hclash

variable [DecidableEq ι]

/-- Puts a table in place of another one whose rows meet the constraints. -/
def withTable (d : State S) (i : ι) (t : Table (S.Key i) (S.Row i))
    (hc : ∀ p ∈ t.rows, S.check i p.1 p.2 = true)
    (hd : ∀ p ∈ t.rows, ∀ q ∈ t.rows, p.1 ≠ q.1 → S.clash i p q = false) : State S where
  table := Function.update d.table i t
  checked j := by
    by_cases h : j = i
    · subst h
      simpa using hc
    · rw [Function.update_of_ne h]
      exact d.checked j
  distinct j := by
    by_cases h : j = i
    · subst h
      simpa using hd
    · rw [Function.update_of_ne h]
      exact d.distinct j

/-- Inserts a row under a new key. -/
def insert (d : State S) (i : ι) (k : S.Key i) (r : S.Row i) : Except Violation (State S) :=
  if hc : S.check i k r = true then
    if hk : (d.table i).find k = none then
      if hu : d.clashes i (k, r) = false then
        if S.refers i d.table k r then
          .ok (d.withTable i ((d.table i).add k r hk)
            (by
              intro p hp
              rcases Table.mem_add.mp hp with hp | rfl
              · exact d.checked i p hp
              · exact hc)
            (by
              intro p hp q hq hne
              rcases Table.mem_add.mp hp with hp | rfl <;> rcases Table.mem_add.mp hq with hq | rfl
              · exact d.distinct i p hp q hq hne
              · rw [S.clash_comm]
                exact clashes_eq_false hu p hp (Ne.symm hne)
              · exact clashes_eq_false hu q hq hne
              · exact absurd rfl hne))
        else .error .foreignKey
      else .error .unique
    else .error .primaryKey
  else .error .check

/-- Replaces the row under a key; nothing happens where there is none. -/
def replace (d : State S) (i : ι) (k : S.Key i) (r : S.Row i) : Except Violation (State S) :=
  if hc : S.check i k r = true then
    if hu : d.clashes i (k, r) = false then
      if S.refers i d.table k r then
        .ok (d.withTable i ((d.table i).set k r)
          (by
            intro p hp
            rcases Table.mem_set hp with rfl | hp
            · exact hc
            · exact d.checked i p hp.1)
          (by
            intro p hp q hq hne
            rcases Table.mem_set hp with rfl | hp <;> rcases Table.mem_set hq with rfl | hq
            · exact absurd rfl hne
            · exact clashes_eq_false hu q hq.1 hne
            · rw [S.clash_comm]
              exact clashes_eq_false hu p hp.1 (Ne.symm hne)
            · exact d.distinct i p hp.1 q hq.1 hne))
      else .error .foreignKey
    else .error .unique
  else .error .check

/-! ## What a write does -/

/-- A successful insert: the key was free, the constraints hold, and only this row is new. -/
theorem insert_ok {i : ι} {k : S.Key i} {r : S.Row i} (h : d.insert i k r = .ok d') :
    d.find i k = none ∧ S.check i k r = true ∧ d.clashes i (k, r) = false ∧
      S.refers i d.table k r = true ∧ d'.rows i = d.rows i ++ [(k, r)] ∧
      (∀ k', d'.find i k' = if k = k' then some r else d.find i k') ∧
      ∀ j, j ≠ i → d'.table j = d.table j := by
  unfold insert at h
  split at h
  · split at h
    · split at h
      · split at h
        · rename_i hc hk hu hr
          cases h
          refine ⟨hk, hc, hu, hr, ?_, ?_, ?_⟩
          · simp [rows, withTable, Table.add]
          · intro k'
            simp only [find, withTable, Function.update_self]
            exact Table.find_add (d.table i) k k' r hk
          · intro j hj
            exact Function.update_of_ne hj _ _
        · cases h
      · cases h
    · cases h
  · cases h

theorem insert_frame {i : ι} {k : S.Key i} {r : S.Row i} (h : d.insert i k r = .ok d') :
    ∀ j, j ≠ i → d'.table j = d.table j :=
  (insert_ok h).2.2.2.2.2.2

/-- A replacement touches one table. -/
theorem replace_frame {i : ι} {k : S.Key i} {r : S.Row i} (h : d.replace i k r = .ok d') :
    ∀ j, j ≠ i → d'.table j = d.table j := by
  unfold replace at h
  split at h
  · split at h
    · split at h
      · cases h
        intro j hj
        exact Function.update_of_ne hj _ _
      · cases h
    · cases h
  · cases h

/-- A replacement adds no key and removes none. -/
theorem replace_find_none {i : ι} {k : S.Key i} {r : S.Row i} (h : d.replace i k r = .ok d')
    (k' : S.Key i) : d'.find i k' = none ↔ d.find i k' = none := by
  unfold replace at h
  split at h
  · split at h
    · split at h
      · cases h
        simp only [find, withTable, Function.update_self]
        exact Table.find_set_none k k' r (d.table i)
      · cases h
    · cases h
  · cases h

/-- A successful replacement of a row that is there. -/
theorem replace_ok {i : ι} {k : S.Key i} {r : S.Row i} (h : d.replace i k r = .ok d')
    (hk : d.find i k ≠ none) :
    S.check i k r = true ∧ d.clashes i (k, r) = false ∧
      S.refers i d.table k r = true ∧ d'.rows i = Table.overwrite k r (d.rows i) ∧
      ∀ k', d'.find i k' = if k = k' then some r else d.find i k' := by
  unfold replace at h
  split at h
  · split at h
    · split at h
      · rename_i hc hu hr
        cases h
        refine ⟨hc, hu, hr, ?_, ?_⟩
        · simp [rows, withTable, Table.set]
        · intro k'
          simp only [find, withTable, Function.update_self]
          split
          · rename_i heq
            subst heq
            exact Table.find_set_self r hk
          · rename_i hne
            exact Table.find_set_of_ne (Ne.symm hne) (d.table i) r
      · cases h
    · cases h
  · cases h

/-! ## When a write succeeds -/

omit [DecidableEq ι] in
theorem clashes_of {i : ι} {p : S.Key i × S.Row i}
    (h : ∀ q ∈ d.rows i, p.1 ≠ q.1 → S.clash i p q = false) : d.clashes i p = false := by
  refine List.any_eq_false.mpr fun q hq => ?_
  simpa [Bool.and_eq_true] using h q hq

/-- A row that meets the constraints goes in under a free key. -/
theorem insert_of {i : ι} {k : S.Key i} {r : S.Row i} (hk : d.find i k = none)
    (hc : S.check i k r = true) (hu : ∀ q ∈ d.rows i, k ≠ q.1 → S.clash i (k, r) q = false)
    (hr : S.refers i d.table k r = true) : ∃ d', d.insert i k r = .ok d' := by
  have hk : (d.table i).find k = none := hk
  unfold insert
  rw [dif_pos hc, dif_pos hk, dif_pos (clashes_of hu), if_pos hr]
  exact ⟨_, rfl⟩

theorem replace_of {i : ι} {k : S.Key i} {r : S.Row i} (hc : S.check i k r = true)
    (hu : ∀ q ∈ d.rows i, k ≠ q.1 → S.clash i (k, r) q = false) (hr : S.refers i d.table k r = true) :
    ∃ d', d.replace i k r = .ok d' := by
  unfold replace
  rw [dif_pos hc, dif_pos (clashes_of hu), if_pos hr]
  exact ⟨_, rfl⟩

omit [DecidableEq ι] in
/-- A replacement that takes part in no more clashes than the row before it clashes with none. -/
theorem clash_of_clash {i : ι} {k : S.Key i} {old new : S.Row i} (hold : d.find i k = some old)
    (h : ∀ q, S.clash i (k, new) q = true → S.clash i (k, old) q = true) :
    ∀ q ∈ d.rows i, k ≠ q.1 → S.clash i (k, new) q = false := by
  intro q hq hne
  have hbefore := d.distinct i (k, old) (mem_rows.mpr hold) q hq hne
  refine Bool.eq_false_iff.mpr fun hclash => ?_
  rw [h q hclash] at hbefore
  cases hbefore

end State

end Relational
