/-
  Comparisons and least elements.
  `PreorderOn P cmp` says that a comparison is a total preorder on the elements with `P`. It is
  built up key by key (`PreorderOn.key`, `PreorderOn.andThen`); a later key need only be ordered
  among elements that the earlier ones do not tell apart, so it may depend on what those have in
  common. `least` is the first of the least elements of a list: no element goes before it
  (`least_isLE`), and reordering the list only moves it within its class (`least_perm`).
-/
import Mathlib.Data.List.Perm.Basic
import Mathlib.Order.Compare

namespace Comparison

variable {α κ : Type} {P Q : α → Prop} {cmp cmp' : α → α → Ordering}

/-! ## Total preorders -/

/-- On the elements with `P`, the comparison is a total preorder. -/
structure PreorderOn (P : α → Prop) (cmp : α → α → Ordering) : Prop where
  swap : ∀ a b, P a → P b → cmp b a = (cmp a b).swap
  trans : ∀ a b c, P a → P b → P c → (cmp a b).isLE → (cmp b c).isLE → (cmp a c).isLE

namespace PreorderOn

/-- Elements that go before each other are tied. -/
theorem tied (h : PreorderOn P cmp) {a b : α} (ha : P a) (hb : P b) (hab : (cmp a b).isLE)
    (hba : (cmp b a).isLE) : cmp a b = .eq := by
  rw [h.swap a b ha hb] at hba
  cases hcmp : cmp a b <;> simp_all

theorem refl (h : PreorderOn P cmp) {a : α} (ha : P a) : cmp a a = .eq := by
  have hself := h.swap a a ha ha
  cases hcmp : cmp a a <;> simp_all

theorem mono (h : PreorderOn P cmp) (hQ : ∀ a, Q a → P a) : PreorderOn Q cmp where
  swap a b ha hb := h.swap a b (hQ a ha) (hQ b hb)
  trans a b c ha hb hc := h.trans a b c (hQ a ha) (hQ b hb) (hQ c hc)

theorem congr (h : PreorderOn P cmp) (hcmp : ∀ a b, P a → P b → cmp' a b = cmp a b) :
    PreorderOn P cmp' where
  swap a b ha hb := by
    rw [hcmp b a hb ha, hcmp a b ha hb]
    exact h.swap a b ha hb
  trans a b c ha hb hc := by
    rw [hcmp a b ha hb, hcmp b c hb hc, hcmp a c ha hc]
    exact h.trans a b c ha hb hc

/-- A comparison that tells nothing apart. -/
theorem const : PreorderOn P fun _ _ => .eq := ⟨fun _ _ _ _ => rfl, fun _ _ _ _ _ _ _ _ => rfl⟩

section Key

variable [Ord κ] [Std.TransOrd κ]

/-- Elements by a key. -/
theorem key (key : α → κ) : PreorderOn P fun a b => compare (key a) (key b) where
  swap _ _ _ _ := Std.OrientedCmp.eq_swap
  trans _ _ _ _ _ _ := Std.TransCmp.isLE_trans

/-- Elements by a key, the greatest first. -/
theorem descending (key : α → κ) : PreorderOn P fun a b => compare (key b) (key a) where
  swap _ _ _ _ := Std.OrientedCmp.eq_swap
  trans _ _ _ _ _ _ hab hbc := Std.TransCmp.isLE_trans hbc hab

end Key

/-- A comparison refined by another, which has to be a preorder only among tied elements. -/
theorem andThen (h : PreorderOn P cmp)
    (h' : ∀ a, P a → PreorderOn (fun b => P b ∧ cmp a b = .eq) cmp') :
    PreorderOn P fun a b => (cmp a b).then (cmp' a b) where
  swap a b ha hb := by
    rw [Ordering.swap_then, ← h.swap a b ha hb]
    cases hab : cmp a b with
    | lt => rw [h.swap a b ha hb, hab]; rfl
    | gt => rw [h.swap a b ha hb, hab]; rfl
    | eq => rw [(h' a ha).swap a b ⟨ha, h.refl ha⟩ ⟨hb, hab⟩]
  trans a b c ha hb hc hab hbc := by
    rw [Ordering.isLE_then_iff_or] at hab hbc ⊢
    have hfirst : (cmp a b).isLE := by rcases hab with h | ⟨h, -⟩ <;> rw [h] <;> rfl
    have hnext : (cmp b c).isLE := by rcases hbc with h | ⟨h, -⟩ <;> rw [h] <;> rfl
    have hac : (cmp a c).isLE := h.trans a b c ha hb hc hfirst hnext
    cases hcmp : cmp a c with
    | lt => exact .inl rfl
    | gt => rw [hcmp] at hac; cases hac
    | eq =>
      -- then all three are tied, since each goes before the others
      have hca : (cmp c a).isLE := by rw [h.swap a c ha hc, hcmp]; rfl
      have hab' := h.tied ha hb hfirst (h.trans b c a hb hc ha hnext hca)
      have hbc' := h.tied hb hc hnext (h.trans c a b hc ha hb hca hfirst)
      have hlater : (cmp' a b).isLE := by
        rcases hab with h | ⟨-, h⟩
        · rw [hab'] at h; cases h
        · exact h
      have hlater' : (cmp' b c).isLE := by
        rcases hbc with h | ⟨-, h⟩
        · rw [hbc'] at h; cases h
        · exact h
      exact .inr ⟨rfl, (h' a ha).trans a b c ⟨ha, h.refl ha⟩ ⟨hb, hab'⟩ ⟨hc, hcmp⟩ hlater hlater'⟩

/-- A comparison refined by an unconditional preorder. -/
theorem lex (h : PreorderOn P cmp) (h' : PreorderOn P cmp') :
    PreorderOn P fun a b => (cmp a b).then (cmp' a b) :=
  h.andThen fun _ _ => h'.mono fun _ hb => hb.1

end PreorderOn

/-! ## Least elements -/

/-- The first of the least elements of a nonempty list. -/
def least (cmp : α → α → Ordering) (first : α) (others : List α) : α :=
  others.foldl (fun least other => if cmp least other = .gt then other else least) first

theorem least_mem (cmp : α → α → Ordering) (first : α) (others : List α) :
    least cmp first others ∈ first :: others := by
  induction others generalizing first with
  | nil => exact List.mem_cons_self
  | cons other others ih =>
    have hnext := ih (if cmp first other = .gt then other else first)
    rcases List.mem_cons.mp hnext with h | h
    · rw [least, List.foldl_cons]
      unfold least at h
      rw [h]
      split <;> simp
    · exact List.mem_cons_of_mem _ (List.mem_cons_of_mem _ h)

theorem least_isLE (h : PreorderOn P cmp) {first : α} {others : List α}
    (hP : ∀ a ∈ first :: others, P a) : ∀ a ∈ first :: others,
      (cmp (least cmp first others) a).isLE := by
  induction others generalizing first with
  | nil =>
    intro a ha
    obtain rfl := List.mem_singleton.mp ha
    have hself := h.refl (hP a ha)
    rw [least, List.foldl_nil, hself]
    rfl
  | cons other others ih =>
    have hfirst := hP first List.mem_cons_self
    have hother := hP other (List.mem_cons_of_mem _ List.mem_cons_self)
    -- the one kept goes before both, and the rest is left to the induction
    obtain ⟨kept, hkept, hbefore, hbefore', hP'⟩ : ∃ kept,
        kept = (if cmp first other = .gt then other else first) ∧ (cmp kept first).isLE ∧
          (cmp kept other).isLE ∧ P kept := by
      have hrefl : ∀ a, P a → (cmp a a).isLE := fun a ha => by rw [h.refl ha]; rfl
      by_cases hgt : cmp first other = .gt
      · exact ⟨other, by rw [if_pos hgt], by rw [h.swap first other hfirst hother, hgt]; rfl,
          hrefl other hother, hother⟩
      · refine ⟨first, by rw [if_neg hgt], hrefl first hfirst, ?_, hfirst⟩
        cases hcmp : cmp first other with
        | gt => exact absurd hcmp hgt
        | _ => rfl
    have hall : ∀ a ∈ kept :: others, P a := by
      intro a ha
      rcases List.mem_cons.mp ha with rfl | ha
      · exact hP'
      · exact hP a (List.mem_cons_of_mem _ (List.mem_cons_of_mem _ ha))
    have hleast : least cmp first (other :: others) = least cmp kept others := by
      rw [least, List.foldl_cons, ← hkept]
      rfl
    have hrest := ih hall
    have hself := hrest kept List.mem_cons_self
    have hPleast := hall _ (least_mem cmp kept others)
    intro a ha
    rw [hleast]
    simp only [List.mem_cons] at ha
    rcases ha with rfl | rfl | ha
    · exact h.trans _ _ _ hPleast hP' hfirst hself hbefore
    · exact h.trans _ _ _ hPleast hP' hother hself hbefore'
    · exact hrest a (List.mem_cons_of_mem _ ha)

/-- The least elements of a list and of a reordering are tied. -/
theorem least_perm (h : PreorderOn P cmp) {first first' : α} {others others' : List α}
    (hperm : (first :: others).Perm (first' :: others')) (hP : ∀ a ∈ first :: others, P a) :
    cmp (least cmp first others) (least cmp first' others') = .eq := by
  have hmem := least_mem cmp first others
  have hmem' := least_mem cmp first' others'
  have hP' : ∀ a ∈ first' :: others', P a := fun a ha => hP a (hperm.mem_iff.mpr ha)
  exact h.tied (hP _ hmem) (hP' _ hmem') (least_isLE h hP _ (hperm.mem_iff.mpr hmem'))
    (least_isLE h hP' _ (hperm.mem_iff.mp hmem))

end Comparison
