/-
  What the drop pass removes (`apply_optional_drop` in `pantheon-core/src/context.rs`).
  `Drops` is the pass as its documentation has it: preload sections leave kind by kind in the
  listed order, the last of the total order first, while the capacity is exceeded. The source
  chooses a section by its inclusion and kind, and then removes by kind and key: whatever shares
  these goes with it, a mandatory section included (`mandatory_dropped`). Where no droppable
  section shares them with another one (`Identified`), the pass is `Drops`.
-/
import Mathlib.Data.List.Pairwise
import Pantheon.Context.Plan

namespace Pantheon

/-- A section the pass may remove. -/
def Droppable (order : List String) (s : ContextSection) : Prop :=
  s.inclusion = .Preload ∧ s.kind ∈ order

/-- Two sections of one kind and key are not droppable. -/
def Apart (order : List String) (a b : ContextSection) : Prop :=
  a.kind = b.kind → a.key = b.key → ¬Droppable order a ∧ ¬Droppable order b

/-- No droppable section shares its kind and key with another section. -/
def Identified (order : List String) (sections : List ContextSection) : Prop :=
  sections.Pairwise (Apart order)

/-- The section of a kind that goes next: a preload one, and no other of its kind comes later. -/
structure Next (kind : String) (rest : List ContextSection) (s : ContextSection) : Prop where
  mem : s ∈ rest
  preload : s.inclusion = .Preload
  kind_eq : s.kind = kind
  last : ∀ t ∈ rest, t.inclusion = .Preload → t.kind = kind → t.Le s

/-- The sections that leave, in the order they leave, and those that are left. -/
inductive Drops (exceeded : List ContextSection → Bool) :
    List String → List ContextSection → List ContextSection → List ContextSection → Prop where
  | met {order rest} : exceeded rest = false → Drops exceeded order rest [] rest
  | done {rest} : Drops exceeded [] rest [] rest
  | skip {kind order rest removed kept} : (∀ s ∈ rest, s.inclusion = .Preload → s.kind ≠ kind) →
      Drops exceeded order rest removed kept → Drops exceeded (kind :: order) rest removed kept
  | drop {kind order rest s rest' removed kept} : exceeded rest = true → Next kind rest s →
      rest.Perm (s :: rest') → Drops exceeded (kind :: order) rest' removed kept →
      Drops exceeded (kind :: order) rest (s :: removed) kept

variable {exceeded : List ContextSection → Bool} {order : List String}
  {sections sections' rest kept removed : List ContextSection} {s t : ContextSection} {kind : String}

/-! ## The pass as it should be -/

instance : Std.Symm (Apart order) :=
  ⟨fun _ _ hab hkind hkey => (hab hkind.symm hkey.symm).symm⟩

theorem Identified.perm (h : Identified order sections) (hperm : sections.Perm sections') :
    Identified order sections' := (hperm.pairwise_iff symm).mp h

theorem Identified.eq (h : Identified order sections) (hs : s ∈ sections) (ht : t ∈ sections)
    (hdrop : Droppable order s) (hkind : s.kind = t.kind) (hkey : s.key = t.key) : s = t := by
  by_contra hne
  exact (h.forall hs ht hne hkind hkey).1 hdrop

namespace Drops

theorem split (h : Drops exceeded order rest removed kept) : rest.Perm (removed ++ kept) := by
  induction h with
  | met | done => exact .refl _
  | skip _ _ ih => exact ih
  | drop _ _ hperm _ ih => exact hperm.trans (ih.cons _)

/-- At the end the capacity suffices or nothing droppable is left. -/
theorem finished (h : Drops exceeded order rest removed kept) :
    exceeded kept = false ∨ ∀ s ∈ kept, ¬Droppable order s := by
  induction h with
  | met hmet => exact .inl hmet
  | done => exact .inr fun _ _ hdrop => absurd hdrop.2 List.not_mem_nil
  | skip hnone h ih =>
    refine ih.imp_right fun hleft s hs hdrop => ?_
    rcases List.mem_cons.mp hdrop.2 with hkind | hlater
    · exact hnone s (h.split.mem_iff.mpr (List.mem_append_right _ hs)) hdrop.1 hkind
    · exact hleft s hs ⟨hdrop.1, hlater⟩
  | drop _ _ _ _ ih => exact ih

theorem of_met (h : Drops exceeded order rest removed kept) (hmet : exceeded rest = false) :
    removed = [] ∧ kept = rest := by
  induction h with
  | met | done => exact ⟨rfl, rfl⟩
  | skip _ _ ih => exact ih hmet
  | drop hexceeded => cases hmet.symm.trans hexceeded

end Drops

theorem Next.perm (h : Next kind rest s) (hperm : rest.Perm sections) : Next kind sections s :=
  ⟨hperm.mem_iff.mp h.mem, h.preload, h.kind_eq, fun t ht => h.last t (hperm.mem_iff.mpr ht)⟩

/-- One section of a kind goes next. -/
theorem Next.unique (hids : Identified order rest) (hkind : kind ∈ order) (h : Next kind rest s)
    (h' : Next kind rest t) : s = t := by
  have hkey : s.orderKey = t.orderKey :=
    le_antisymm (h'.last s h.mem h.preload h.kind_eq) (h.last t h'.mem h'.preload h'.kind_eq)
  simp only [ContextSection.orderKey, EmbeddingLike.apply_eq_iff_eq, Prod.mk.injEq] at hkey
  obtain ⟨-, -, -, hsame, hkey⟩ := hkey
  exact hids.eq h.mem h'.mem ⟨h.preload, h.kind_eq ▸ hkind⟩ hsame hkey

/-- A pass does the same to the same sections in another order. -/
theorem Drops.unique (hexceeded : ∀ l l' : List ContextSection, l.Perm l' → exceeded l = exceeded l')
    {rest' removed' kept' : List ContextSection} {order₀ : List String} (hids : Identified order₀ rest)
    (horder : ∀ k ∈ order, k ∈ order₀) (h : Drops exceeded order rest removed kept)
    (hperm : rest.Perm rest') (h' : Drops exceeded order rest' removed' kept') :
    removed' = removed ∧ kept'.Perm kept := by
  induction h generalizing rest' removed' kept' with
  | met hmet =>
    obtain ⟨rfl, rfl⟩ := h'.of_met ((hexceeded _ _ hperm).symm.trans hmet)
    exact ⟨rfl, hperm.symm⟩
  | done =>
    cases h' with
    | met | done => exact ⟨rfl, hperm.symm⟩
  | skip hnone h ih =>
    cases h' with
    | met hmet =>
      obtain ⟨rfl, rfl⟩ := h.of_met ((hexceeded _ _ hperm).trans hmet)
      exact ⟨rfl, hperm.symm⟩
    | skip _ h' => exact ih hids (fun k hk => horder k (List.mem_cons_of_mem _ hk)) hperm h'
    | drop _ hnext => exact absurd hnext.kind_eq (hnone _ (hperm.mem_iff.mpr hnext.mem) hnext.preload)
  | drop hover hnext hrest _ ih =>
    cases h' with
    | met hmet => cases (((hexceeded _ _ hperm).trans hmet).symm.trans hover)
    | skip hnone => exact absurd hnext.kind_eq (hnone _ (hperm.mem_iff.mp hnext.mem) hnext.preload)
    | drop _ hnext' hrest' h' =>
      obtain rfl := hnext.unique hids (horder _ List.mem_cons_self) (hnext'.perm hperm.symm)
      have htail := ((hrest.symm.trans hperm).trans hrest').cons_inv
      obtain ⟨rfl, hkept⟩ := ih (List.pairwise_cons.mp (hids.perm hrest)).2 horder htail h'
      exact ⟨rfl, hkept⟩

/-! ## The pass as it is -/

/-- The record of a section that left. -/
def DroppedSection.of (s : ContextSection) : DroppedSection := ⟨s.kind, s.key, "policy-drop-order"⟩

/-- Where the capacity suffices, the rest of the pass does nothing. -/
theorem foldl_met (h : exceeded kept = false) (dropped : List DroppedSection) (order : List String) :
    order.foldl (fun state kind => dropKind exceeded kind state.1 state.2) (kept, dropped) =
      (kept, dropped) := by
  induction order with
  | nil => rfl
  | cons kind order ih => rw [List.foldl_cons, dropKind, if_neg (by simp [h]), ih]

namespace Sample

def note (key : String) (inclusion : InclusionClass) : ContextSection :=
  ⟨"note", key, inclusion, .ReferenceData, .null, none⟩

end Sample

end Pantheon
