/-
  Binary search over a sorted list.
  `bisect` halves the range of positions as the standard library's `binary_search_by` does: it
  keeps a start and a length, looks at the middle, and at the end compares once more. If no two
  elements compare alike and the elements come in order (`Ascending`), the search finds exactly
  the element that compares equal.
-/
import Mathlib.Data.List.Basic
import Mathlib.Order.Basic

namespace BinarySearch

variable {α : Type} {cmp : α → Ordering} {xs : List α}

/-- How the element at a position compares. -/
def probe (cmp : α → Ordering) (xs : List α) (i : Nat) : Option Ordering := xs[i]?.map cmp

/-- The start that is left when the range has one position. -/
def bisect (cmp : α → Ordering) (xs : List α) (base size : Nat) : Nat :=
  if size ≤ 1 then base
  else
    let half := size / 2
    let mid := base + half
    bisect cmp xs (if probe cmp xs mid = some .gt then base else mid) (size - half)
termination_by size

/-- `binary_search_by`, without the position an absent element would have. -/
def search (cmp : α → Ordering) (xs : List α) : Option Nat :=
  let i := bisect cmp xs 0 xs.length
  if probe cmp xs i = some .eq then some i else none

/-- An element that is not above what is searched has all earlier elements below it. -/
def Ascending (cmp : α → Ordering) (xs : List α) : Prop :=
  xs.Pairwise fun a b => cmp b ≠ .gt → cmp a = .lt

theorem probe_eq_some {i : Nat} {o : Ordering} :
    probe cmp xs i = some o ↔ ∃ x, xs[i]? = some x ∧ cmp x = o := by
  rw [probe, Option.map_eq_some_iff]

theorem Ascending.lt (h : Ascending cmp xs) {i j : Nat} {a b : α} (hij : i < j)
    (ha : xs[i]? = some a) (hb : xs[j]? = some b) (hgt : cmp b ≠ .gt) : cmp a = .lt := by
  obtain ⟨hi, rfl⟩ := List.getElem?_eq_some_iff.mp ha
  obtain ⟨hj, rfl⟩ := List.getElem?_eq_some_iff.mp hb
  exact List.pairwise_iff_getElem.mp h i j hi hj hij hgt

/-- A position that compares equal stays in the range. -/
theorem bisect_eq (h : Ascending cmp xs) {base size i : Nat} {x : α}
    (hsize : base + size ≤ xs.length) (hx : xs[i]? = some x) (heq : cmp x = .eq)
    (hlow : base ≤ i) (hhigh : i < base + size) : bisect cmp xs base size = i := by
  induction base, size using bisect.induct cmp xs with
  | case1 base size hone =>
    unfold bisect
    rw [if_pos hone]
    omega
  | case2 base size hmany half mid ih =>
    have hmid : mid < xs.length := by omega
    obtain ⟨m, hm⟩ : ∃ m, xs[mid]? = some m := ⟨_, List.getElem?_eq_getElem hmid⟩
    unfold bisect
    rw [if_neg hmany]
    dsimp only
    by_cases hgt : cmp m = .gt
    · have hprobe : probe cmp xs mid = some .gt := probe_eq_some.mpr ⟨m, hm, hgt⟩
      -- an equal element at or after the middle would put the middle below
      have hlt : i < mid := by
        by_contra hge
        rcases Nat.lt_or_eq_of_le (Nat.le_of_not_lt hge) with hmi | rfl
        · have hbelow := h.lt hmi hm hx (by rw [heq]; decide)
          rw [hgt] at hbelow
          cases hbelow
        · obtain rfl := Option.some.inj (hm.symm.trans hx)
          rw [heq] at hgt
          cases hgt
      rw [dif_pos hprobe] at ih
      rw [if_pos hprobe]
      exact ih (by omega) hlow (by omega)
    · have hprobe : probe cmp xs mid ≠ some .gt := by
        intro hp
        obtain ⟨m', hm', hgt'⟩ := probe_eq_some.mp hp
        obtain rfl := Option.some.inj (hm.symm.trans hm')
        exact hgt hgt'
      have hge : mid ≤ i := by
        by_contra hlt
        have hbelow := h.lt (Nat.lt_of_not_le hlt) hx hm hgt
        rw [heq] at hbelow
        cases hbelow
      rw [dif_neg hprobe] at ih
      rw [if_neg hprobe]
      exact ih (by omega) hge (by omega)

/-- The search finds the element that compares equal, and nothing else. -/
theorem search_iff (h : Ascending cmp xs) {x : α} :
    (search cmp xs).bind (xs[·]?) = some x ↔ x ∈ xs ∧ cmp x = .eq := by
  constructor
  · intro hfound
    unfold search at hfound
    dsimp only at hfound
    split at hfound
    · rename_i hprobe
      obtain ⟨y, hy, heq⟩ := probe_eq_some.mp hprobe
      have hx : xs[bisect cmp xs 0 xs.length]? = some x := hfound
      obtain rfl := Option.some.inj (hy.symm.trans hx)
      exact ⟨List.mem_of_getElem? hy, heq⟩
    · cases hfound
  · rintro ⟨hx, heq⟩
    obtain ⟨i, hi, hget⟩ := List.getElem_of_mem hx
    have hsome : xs[i]? = some x := by rw [List.getElem?_eq_getElem hi, hget]
    have hbisect : bisect cmp xs 0 xs.length = i :=
      bisect_eq h (by omega) hsome heq (Nat.zero_le i) (by omega)
    unfold search
    rw [hbisect, if_pos (probe_eq_some.mpr ⟨x, hsome, heq⟩)]
    exact hsome

end BinarySearch
