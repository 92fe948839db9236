/-
  The identity of a captured state (`RevisionState` of `pantheon-core/src/artifact.rs`).
  A state holds its entries in the order of their paths, and no path twice. Its digest is that of
  the array of entries, with sizes written as signed numbers; sizes of 64 bits keep their identity
  there, so the digest determines the entries. A path is looked up by binary search.
-/
import Pantheon.Artifact.Changeset
import Pantheon.Base.BinarySearch
import Pantheon.Config.Order

namespace Pantheon

open Value

theorem RepositoryPath.bytes_inj {p q : RepositoryPath} : p.bytes = q.bytes ↔ p = q := by
  cases p
  cases q
  simp

namespace RevisionState

variable {D : Type}

/-- `RevisionState::entry`. -/
def entry (state : RevisionState D) (path : RepositoryPath) : Option (FinalEntry D) :=
  (BinarySearch.search (fun e => compareOfLessAndEq e.path.bytes path.bytes) state.entries).bind
    (state.entries[·]?)

/-! ## Construction -/

/-- No two entries share a path. -/
def PathsDistinct (entries : List (FinalEntry D)) : Prop :=
  entries.Pairwise fun a b => a.path ≠ b.path

theorem sort_perm (entries : List (FinalEntry D)) : (sort entries).Perm entries :=
  List.perm_insertionSort _ entries

theorem pathsDistinct_perm {entries entries' : List (FinalEntry D)} (h : entries.Perm entries') :
    PathsDistinct entries ↔ PathsDistinct entries' :=
  h.pairwise_iff fun hne => hne.symm

theorem pathsDistinct_of_sorted {entries : List (FinalEntry D)}
    (h : entries.Pairwise fun a b => a.path.bytes < b.path.bytes) : PathsDistinct entries := by
  refine h.imp fun {a b} hlt heq => ?_
  rw [heq] at hlt
  exact lt_irrefl _ hlt

theorem no_duplicate_of_distinct {entries : List (FinalEntry D)} (h : PathsDistinct entries) :
    duplicate entries = none := by
  induction entries with
  | nil => rfl
  | cons a rest ih =>
    obtain ⟨hfirst, hrest⟩ := List.pairwise_cons.mp h
    cases rest with
    | nil => rfl
    | cons b rest =>
      have hab : a.path.bytes ≠ b.path.bytes := fun heq =>
        hfirst b List.mem_cons_self (RepositoryPath.bytes_inj.mp heq)
      unfold duplicate
      rw [if_neg hab]
      exact ih hrest

theorem new_ok {entries : List (FinalEntry D)} {state : RevisionState D}
    (h : new entries = .ok state) : state.entries = sort entries := by
  unfold new at h
  split at h
  · cases h
  · obtain rfl := Except.ok.inj h
    rfl

theorem new_ok_iff {entries : List (FinalEntry D)} :
    (∃ state, new entries = .ok state) ↔ PathsDistinct entries := by
  rw [← pathsDistinct_perm (sort_perm entries)]
  constructor
  · rintro ⟨state, hstate⟩
    rw [← new_ok hstate]
    exact pathsDistinct_of_sorted state.sorted
  · intro h
    unfold new
    split
    · rename_i path hpath
      rw [no_duplicate_of_distinct h] at hpath
      cases hpath
    · exact ⟨_, rfl⟩

theorem mem_entries {entries : List (FinalEntry D)} {state : RevisionState D}
    (h : new entries = .ok state) {e : FinalEntry D} : e ∈ state.entries ↔ e ∈ entries := by
  rw [new_ok h]
  exact (sort_perm entries).mem_iff

/-- States with the same entries in any order are one state. -/
theorem entries_eq_of_perm {state state' : RevisionState D}
    (h : state.entries.Perm state'.entries) : state.entries = state'.entries := by
  refine h.eq_of_pairwise (fun a b _ _ hab hba => ?_) state.sorted state'.sorted
  exact absurd hba (lt_asymm hab)

theorem new_perm {entries entries' : List (FinalEntry D)} (h : entries.Perm entries')
    {state : RevisionState D} (hstate : new entries = .ok state) :
    ∃ state', new entries' = .ok state' ∧ state'.entries = state.entries := by
  obtain ⟨state', hstate'⟩ := new_ok_iff.mpr
    ((pathsDistinct_perm h).mp (new_ok_iff.mp ⟨state, hstate⟩))
  refine ⟨state', hstate', entries_eq_of_perm ?_⟩
  rw [new_ok hstate, new_ok hstate']
  exact (sort_perm entries').trans (h.symm.trans (sort_perm entries).symm)

/-! ## Lookup -/

theorem ascending (state : RevisionState D) (path : RepositoryPath) :
    BinarySearch.Ascending (fun e => compareOfLessAndEq e.path.bytes path.bytes) state.entries := by
  refine state.sorted.imp fun {a b} hab hb => ?_
  have hle : b.path.bytes ≤ path.bytes := by
    by_contra hlt
    have hgt : path.bytes < b.path.bytes := not_le.mp hlt
    dsimp only [compareOfLessAndEq] at hb
    rw [if_neg (lt_asymm hgt), if_neg hgt.ne'] at hb
    exact hb rfl
  dsimp only [compareOfLessAndEq]
  rw [if_pos (lt_of_lt_of_le hab hle)]

theorem entry_iff {state : RevisionState D} {path : RepositoryPath} {e : FinalEntry D} :
    state.entry path = some e ↔ e ∈ state.entries ∧ e.path = path := by
  rw [entry, BinarySearch.search_iff (state.ascending path), ← RepositoryPath.bytes_inj,
    compareOfLessAndEq_eq_eq]
  · exact fun x => le_refl x
  · exact not_le

end RevisionState

/-! ## Identity -/

section Identity

variable {D : Type} [DigestScheme D]

theorem EntryKind.asStr_injective {a b : EntryKind} (h : a.asStr = b.asStr) : a = b := by
  cases a <;> cases b <;> first | rfl | exact absurd h (by decide)

/-- Sizes of 64 bits stay apart as signed numbers. -/
theorem wrapI64_injective {m n : Nat} (hm : m < 2 ^ 64) (hn : n < 2 ^ 64)
    (h : wrapI64 m = wrapI64 n) : m = n := by
  unfold wrapI64 at h
  have hmod : (m : Int) % (2 ^ 64 : Nat) = (n : Int) % (2 ^ 64 : Nat) := by
    rw [← Int.bmod_emod, h, Int.bmod_emod]
  omega

theorem isI64_wrapI64 (n : Nat) : IsI64 (wrapI64 n) := by
  unfold IsI64 wrapI64
  have hlow : -((2 ^ 64 : Nat) : Int) / 2 ≤ (n : Int).bmod (2 ^ 64) := Int.le_bmod (by decide)
  have hhigh : (n : Int).bmod (2 ^ 64) < ((2 ^ 64 : Nat) + 1 : Int) / 2 := Int.bmod_lt (by decide)
  omega

theorem FinalEntry.toValue_wf (e : FinalEntry D) : e.toValue.Wf := by
  refine wf_object ?_
  simp only [List.mem_cons, List.not_mem_nil, or_false, forall_eq_or_imp, forall_eq, wf_str,
    true_and]
  exact isI64_wrapI64 e.size

theorem FinalEntry.toValue_injective {e e' : FinalEntry D} (he : e.size < 2 ^ 64)
    (he' : e'.size < 2 ^ 64) (h : e.toValue = e'.toValue) : e = e' := by
  have field := Value.fields_eq h
  simp only [FinalEntry.toValue, get_object] at field
  cases e
  cases e'
  rw [FinalEntry.mk.injEq]
  exact ⟨RepositoryPath.bytes_inj.mp (encodePath_injective (Value.str.inj (field "path" rfl rfl))),
    EntryKind.asStr_injective (Value.str.inj (field "mode" rfl rfl)),
    toDisplay_injective (Value.str.inj (field "blob" rfl rfl)),
    wrapI64_injective he he' (Value.integer.inj (field "size" rfl rfl))⟩

theorem map_toValue_injective {entries entries' : List (FinalEntry D)}
    (hsizes : ∀ e ∈ entries, e.size < 2 ^ 64) (hsizes' : ∀ e ∈ entries', e.size < 2 ^ 64)
    (h : entries.map (·.toValue) = entries'.map (·.toValue)) : entries = entries' := by
  induction entries generalizing entries' with
  | nil => exact (List.map_eq_nil_iff.mp h.symm).symm
  | cons e entries ih =>
    cases entries' with
    | nil => cases h
    | cons e' entries' =>
      obtain ⟨he, hrest⟩ := List.cons.inj h
      rw [FinalEntry.toValue_injective (hsizes e List.mem_cons_self) (hsizes' e' List.mem_cons_self) he,
        ih (fun x hx => hsizes x (List.mem_cons_of_mem _ hx))
          (fun x hx => hsizes' x (List.mem_cons_of_mem _ hx)) hrest]

/-- A state's digest determines its entries. -/
theorem RevisionState.digest_entries (hD : Collisionless D) {state state' : RevisionState D}
    (hsizes : ∀ e ∈ state.entries, e.size < 2 ^ 64) (hsizes' : ∀ e ∈ state'.entries, e.size < 2 ^ 64)
    (h : state.digest = state'.digest) : state.entries = state'.entries := by
  have hwf : ∀ entries : List (FinalEntry D), (Value.arr (entries.map (·.toValue))).Wf := by
    intro entries
    refine wf_arr.mpr fun v hv => ?_
    obtain ⟨e, -, rfl⟩ := List.mem_map.mp hv
    exact e.toValue_wf
  exact map_toValue_injective hsizes hsizes' (Value.arr.inj (digest_injective hD (hwf _) (hwf _) h))

/-- A state is made exactly of entries with distinct paths, in any order the same one; its digest
    determines the entries, and looking up a path gives its entry. -/
theorem revision_state_identity (hD : Collisionless D) :
    (∀ entries : List (FinalEntry D), (∃ state, RevisionState.new entries = .ok state) ↔
      RevisionState.PathsDistinct entries) ∧
    (∀ entries entries' : List (FinalEntry D), entries.Perm entries' → ∀ state,
      RevisionState.new entries = .ok state → ∃ state', RevisionState.new entries' = .ok state' ∧
        state'.toCanonicalJson = state.toCanonicalJson ∧ state'.digest = state.digest) ∧
    (∀ (entries entries' : List (FinalEntry D)) state state',
      (∀ e ∈ entries, e.size < 2 ^ 64) → (∀ e ∈ entries', e.size < 2 ^ 64) →
      RevisionState.new entries = .ok state → RevisionState.new entries' = .ok state' →
      state.digest = state'.digest → ∀ e, e ∈ entries ↔ e ∈ entries') ∧
    ∀ (entries : List (FinalEntry D)) state, RevisionState.new entries = .ok state →
      ∀ path e, state.entry path = some e ↔ e ∈ entries ∧ e.path = path := by
  refine ⟨fun entries => RevisionState.new_ok_iff, fun entries entries' hperm state hstate => ?_,
    fun entries entries' state state' hsizes hsizes' hstate hstate' hdigest e => ?_,
    fun entries state hstate path e => ?_⟩
  · obtain ⟨state', hstate', hentries⟩ := RevisionState.new_perm hperm hstate
    refine ⟨state', hstate', ?_, ?_⟩
    · rw [RevisionState.toCanonicalJson, RevisionState.toCanonicalJson, hentries]
    · rw [RevisionState.digest, RevisionState.digest, hentries]
  · have hentries := RevisionState.digest_entries hD
      (fun e he => hsizes e ((RevisionState.mem_entries hstate).mp he))
      (fun e he => hsizes' e ((RevisionState.mem_entries hstate').mp he)) hdigest
    rw [← RevisionState.mem_entries hstate, ← RevisionState.mem_entries hstate', hentries]
  · rw [RevisionState.entry_iff, RevisionState.mem_entries hstate]

end Identity

/-- A state of one file. -/
theorem revision_state_one : ∃ (path : RepositoryPath) (state : RevisionState ExactDigest),
    RevisionState.new [⟨path, .Regular, ⟨[]⟩, 2 ^ 63⟩] = .ok state ∧
      state.entry path = some ⟨path, .Regular, ⟨[]⟩, 2 ^ 63⟩ := by
  have hpath : pathFault (utf8 "a") = none := by decide +kernel
  obtain ⟨hnew, -, -, hentry⟩ := revision_state_identity exactDigest_collisionless
  obtain ⟨state, hstate⟩ := (hnew [⟨⟨utf8 "a", hpath⟩, .Regular, ⟨[]⟩, 2 ^ 63⟩]).mpr
    (List.pairwise_singleton _ _)
  exact ⟨_, state, hstate, (hentry _ state hstate _ _).mpr ⟨List.mem_singleton_self _, rfl⟩⟩

end Pantheon
