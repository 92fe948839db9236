/-
  Lists up to the order of their elements.
  `UpTo R` relates lists whose elements correspond under `R` in some order. Sorting by a key
  makes such lists equal again (`sort_congr`), and equal sorted images come from such lists
  (`UpTo.of_sort`). `UpTo.transport` carries a pointwise relation to a third list along one.
-/
import Mathlib.Data.List.Perm.Basic
import Mathlib.Data.List.Sort
import Mathlib.Order.Lattice

namespace Reorder

variable {α β γ δ κ : Type}

/-! ## Lists up to order -/

/-- The elements correspond under `R`, in some order. -/
def UpTo (R : α → β → Prop) (xs : List α) (ys : List β) : Prop :=
  ∃ zs, xs.Perm zs ∧ List.Forall₂ R zs ys

theorem UpTo.of_forall₂ {R : α → β → Prop} {xs : List α} {ys : List β}
    (h : List.Forall₂ R xs ys) : UpTo R xs ys := ⟨xs, List.Perm.refl xs, h⟩

/-- The first list may be reordered. -/
theorem UpTo.perm_left {R : α → β → Prop} {xs ys : List α} {zs : List β} (hperm : xs.Perm ys)
    (h : UpTo R ys zs) : UpTo R xs zs := by
  obtain ⟨us, hus, hrel⟩ := h
  exact ⟨us, hperm.trans hus, hrel⟩

/-- The second list may be reordered too. -/
theorem UpTo.perm_right {R : α → β → Prop} {xs : List α} {ys zs : List β} (h : UpTo R xs ys)
    (hperm : ys.Perm zs) : UpTo R xs zs := by
  obtain ⟨us, hus, hrel⟩ := h
  have hcomp : Relation.Comp (List.Forall₂ R) List.Perm us zs := ⟨ys, hrel, hperm⟩
  rw [List.forall₂_comp_perm_eq_perm_comp_forall₂] at hcomp
  obtain ⟨vs, hvs, hrel'⟩ := hcomp
  exact ⟨vs, hus.trans hvs, hrel'⟩

theorem forall₂_mem_right {R : α → β → Prop} {xs : List α} {ys : List β}
    (h : List.Forall₂ R xs ys) : ∀ y ∈ ys, ∃ x ∈ xs, R x y := by
  induction h with
  | nil => intro y hy; cases hy
  | cons hab _ ih =>
    intro y hy
    rcases List.mem_cons.mp hy with rfl | hy
    · exact ⟨_, List.mem_cons_self, hab⟩
    · obtain ⟨x, hx, hR⟩ := ih y hy
      exact ⟨x, List.mem_cons_of_mem _ hx, hR⟩

theorem UpTo.mem_right {R : α → β → Prop} {xs : List α} {ys : List β} (h : UpTo R xs ys) {y : β}
    (hy : y ∈ ys) : ∃ x ∈ xs, R x y := by
  obtain ⟨zs, hperm, hrel⟩ := h
  obtain ⟨z, hz, hR⟩ := forall₂_mem_right hrel y hy
  exact ⟨z, hperm.mem_iff.mpr hz, hR⟩

theorem UpTo.mem_left {R : α → β → Prop} {xs : List α} {ys : List β} (h : UpTo R xs ys) {x : α}
    (hx : x ∈ xs) : ∃ y ∈ ys, R x y := by
  obtain ⟨zs, hperm, hrel⟩ := h
  obtain ⟨y, hy, hR⟩ := forall₂_mem_right hrel.flip x (hperm.mem_iff.mp hx)
  exact ⟨y, hy, hR⟩

theorem forall₂_map_eq {R : α → β → Prop} {f : α → γ} {g : β → γ}
    (hR : ∀ a b, R a b → f a = g b) {xs : List α} {ys : List β} (h : List.Forall₂ R xs ys) :
    xs.map f = ys.map g := by
  induction h with
  | nil => rfl
  | cons hab _ ih => rw [List.map_cons, List.map_cons, hR _ _ hab, ih]

/-- Images under functions that `R` makes equal are reorderings of each other. -/
theorem UpTo.map {R : α → β → Prop} {f : α → γ} {g : β → γ} (hR : ∀ a b, R a b → f a = g b)
    {xs : List α} {ys : List β} (h : UpTo R xs ys) : (xs.map f).Perm (ys.map g) := by
  obtain ⟨zs, hperm, hrel⟩ := h
  exact forall₂_map_eq hR hrel ▸ hperm.map f

/-- What is kept of corresponding elements corresponds, when the same ones are kept. -/
theorem forall₂_filterMap {R : α → β → Prop} {S : γ → δ → Prop} {f : α → Option γ}
    {g : β → Option δ} (hR : ∀ a b, R a b → (f a = none ∧ g b = none) ∨
      ∃ c d, f a = some c ∧ g b = some d ∧ S c d) {xs : List α} {ys : List β}
    (h : List.Forall₂ R xs ys) : List.Forall₂ S (xs.filterMap f) (ys.filterMap g) := by
  induction h with
  | nil => exact .nil
  | cons hab _ ih =>
    rcases hR _ _ hab with ⟨hf, hg⟩ | ⟨c, d, hf, hg, hS⟩
    · rwa [List.filterMap_cons_none hf, List.filterMap_cons_none hg]
    · rw [List.filterMap_cons_some hf, List.filterMap_cons_some hg]
      exact .cons hS ih

/-- A pointwise relation is carried along a pointwise correspondence. -/
theorem forall₂_transport {R : α → β → Prop} {P : α → γ → Prop} {Q : β → δ → Prop}
    {S : γ → δ → Prop} (hstep : ∀ a b c, P a c → R a b → ∃ d, Q b d ∧ S c d) {xs : List α}
    {ys : List β} (h : List.Forall₂ R xs ys) : ∀ {cs : List γ}, List.Forall₂ P xs cs →
      ∃ ds, List.Forall₂ Q ys ds ∧ List.Forall₂ S cs ds := by
  induction h with
  | nil =>
    intro cs hcs
    cases hcs
    exact ⟨[], .nil, .nil⟩
  | cons hab _ ih =>
    intro cs hcs
    cases hcs with
    | cons hac hrest =>
      obtain ⟨d, hd, hS⟩ := hstep _ _ _ hac hab
      obtain ⟨ds, hds, hSs⟩ := ih hrest
      exact ⟨d :: ds, .cons hd hds, .cons hS hSs⟩

/-- A pointwise relation is carried along a correspondence up to order. -/
theorem UpTo.transport {R : α → β → Prop} {P : α → γ → Prop} {Q : β → δ → Prop}
    {S : γ → δ → Prop} (hstep : ∀ a b c, P a c → R a b → ∃ d, Q b d ∧ S c d) {xs : List α}
    {ys : List β} {cs : List γ} (h : UpTo R xs ys) (hP : List.Forall₂ P xs cs) :
    ∃ ds, List.Forall₂ Q ys ds ∧ UpTo S cs ds := by
  obtain ⟨zs, hperm, hrel⟩ := h
  have hcomp : Relation.Comp List.Perm (List.Forall₂ P) zs cs := ⟨xs, hperm.symm, hP⟩
  rw [← List.forall₂_comp_perm_eq_perm_comp_forall₂] at hcomp
  obtain ⟨es, hes, hcs⟩ := hcomp
  obtain ⟨ds, hds, hSs⟩ := forall₂_transport hstep hrel hes
  exact ⟨ds, hds, es, hcs.symm, hSs⟩

/-- With distinct keys, the first element with a key is the only one. -/
theorem find?_key_iff [DecidableEq κ] {key : α → κ} {xs : List α} (h : (xs.map key).Nodup) {k : κ}
    {a : α} : xs.find? (fun b => key b == k) = some a ↔ a ∈ xs ∧ key a = k := by
  constructor
  · intro hfind
    exact ⟨List.mem_of_find?_eq_some hfind, by simpa using List.find?_some hfind⟩
  · rintro ⟨hmem, rfl⟩
    cases hfind : xs.find? (fun b => key b == key a) with
    | none => exact absurd (beq_self_eq_true (key a)) (List.find?_eq_none.mp hfind a hmem)
    | some b =>
      have hkey : key b = key a := by simpa using List.find?_some hfind
      rw [List.inj_on_of_nodup_map h (List.mem_of_find?_eq_some hfind) hmem hkey]

/-! ## Sorting -/

theorem perm_of_insertionSort_eq {r : κ → κ → Prop} [DecidableRel r] {xs ys : List κ}
    (h : xs.insertionSort r = ys.insertionSort r) : xs.Perm ys :=
  ((List.perm_insertionSort r xs).symm.trans (h ▸ List.Perm.refl _)).trans
    (List.perm_insertionSort r ys)

/-- Lists whose sorted images agree correspond up to order. -/
theorem UpTo.of_sort {r : α → α → Prop} [DecidableRel r] {f : α → γ} {R : α → α → Prop}
    {xs ys : List α} (h : (xs.insertionSort r).map f = (ys.insertionSort r).map f)
    (hR : ∀ a b, f a = f b → R a b) : UpTo R xs ys := by
  have hrel : List.Forall₂ R (xs.insertionSort r) (ys.insertionSort r) := by
    have heq : List.Forall₂ Eq ((xs.insertionSort r).map f) ((ys.insertionSort r).map f) := by
      rw [List.forall₂_eq_eq_eq, h]
    rw [List.forall₂_map_left_iff, List.forall₂_map_right_iff] at heq
    exact heq.imp hR
  exact (UpTo.perm_left (List.perm_insertionSort r xs).symm (.of_forall₂ hrel)).perm_right
    (List.perm_insertionSort r ys)

section Keys

variable (r : κ → κ → Prop) [DecidableRel r] [Std.Total r] [IsTrans κ r] [Std.Antisymm r]

theorem insertionSort_perm_eq {xs ys : List κ} (h : xs.Perm ys) :
    xs.insertionSort r = ys.insertionSort r :=
  (((List.perm_insertionSort r xs).trans h).trans
    (List.perm_insertionSort r ys).symm).eq_of_pairwise'
    (List.pairwise_insertionSort r xs) (List.pairwise_insertionSort r ys)

variable (key : α → κ) (f : α → β)

/-- Lists with distinct keys whose keyed images agree up to order have one image when sorted by
    key. -/
theorem sort_congr {xs ys : List α} (hkeys : (xs.map key).Nodup)
    (h : (xs.map fun a => (key a, f a)).Perm (ys.map fun a => (key a, f a))) :
    (xs.insertionSort fun a b => r (key a) (key b)).map f =
      (ys.insertionSort fun a b => r (key a) (key b)).map f := by
  have : Std.Total fun a b => r (key a) (key b) := ⟨fun a b => Std.Total.total (key a) (key b)⟩
  have : IsTrans α fun a b => r (key a) (key b) := ⟨fun _ _ _ => trans_of r⟩
  let pairs : List α → List (κ × β) := fun l =>
    (l.insertionSort fun a b => r (key a) (key b)).map fun a => (key a, f a)
  have hpairs : ∀ l : List α, (pairs l).Perm (l.map fun a => (key a, f a)) := fun l =>
    (List.perm_insertionSort _ l).map _
  have hsorted : ∀ l : List α, (pairs l).Pairwise fun p q => r p.1 q.1 := fun l =>
    List.pairwise_map.mpr (List.pairwise_insertionSort _ l)
  have hperm : (pairs xs).Perm (pairs ys) := ((hpairs xs).trans h).trans (hpairs ys).symm
  have hfirst : ((pairs xs).map Prod.fst).Nodup := by
    have hmap : ((pairs xs).map Prod.fst).Perm (xs.map key) := by
      have := (hpairs xs).map Prod.fst
      simpa [Function.comp_def] using this
    exact hmap.nodup_iff.mpr hkeys
  -- entries with equal keys are one entry, so the order is antisymmetric on what is sorted
  have heq : pairs xs = pairs ys := by
    refine hperm.eq_of_pairwise (fun p q hp hq hpq hqp => ?_) (hsorted xs) (hsorted ys)
    have hkey : p.1 = q.1 := antisymm_of r hpq hqp
    exact List.inj_on_of_nodup_map hfirst hp (hperm.mem_iff.mpr hq) hkey
  have hsnd := congrArg (List.map Prod.snd) heq
  simpa [pairs, Function.comp_def] using hsnd

end Keys

end Reorder
