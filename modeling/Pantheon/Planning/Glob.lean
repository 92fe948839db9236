/-
  What scope patterns mean (`pantheon-core/src/planning/scope.rs`).
  A pattern is a list of segments and a path a list of components. The pattern covers the path
  if the path falls into consecutive parts, one for each segment: the component itself for a
  literal, any one component for `*`, any components for `**`. `matchesFrom_iff` says that the
  backtracking matcher decides this, `compilePattern_iff` that exactly the texts of the grammar
  compile.
-/
import Mathlib.Data.List.Forall2
import Pantheon.Base.Reorder
import Pantheon.Planning.Scope

namespace Pantheon

/-! ## A list in parts -/

section Splits

variable {α : Type} {p : List α → Prop} {ps : List (List α → Prop)} {xs : List α}

/-- The list falls into consecutive parts, one for each predicate. -/
def Splits (ps : List (List α → Prop)) (xs : List α) : Prop :=
  ∃ parts, List.Forall₂ (fun p part => p part) ps parts ∧ parts.flatten = xs

theorem splits_nil : Splits [] xs ↔ xs = [] := by
  constructor
  · rintro ⟨parts, hparts, rfl⟩
    rw [List.forall₂_nil_left_iff.mp hparts, List.flatten_nil]
  · rintro rfl
    exact ⟨[], .nil, rfl⟩

theorem splits_cons :
    Splits (p :: ps) xs ↔ ∃ part rest, part ++ rest = xs ∧ p part ∧ Splits ps rest := by
  constructor
  · rintro ⟨parts, hparts, rfl⟩
    obtain ⟨part, rest, hpart, hrest, rfl⟩ := List.forall₂_cons_left_iff.mp hparts
    exact ⟨part, rest.flatten, List.flatten_cons.symm, hpart, rest, hrest, rfl⟩
  · rintro ⟨part, rest, rfl, hpart, parts, hparts, rfl⟩
    exact ⟨part :: parts, .cons hpart hparts, List.flatten_cons⟩

/-- A predicate of single elements takes the first one. -/
theorem splits_cons_single {q : α → Prop} (hp : ∀ part, p part ↔ ∃ a, q a ∧ part = [a]) :
    Splits (p :: ps) xs ↔ ∃ a rest, xs = a :: rest ∧ q a ∧ Splits ps rest := by
  rw [splits_cons]
  constructor
  · rintro ⟨part, rest, rfl, hpart, hrest⟩
    obtain ⟨a, ha, rfl⟩ := (hp part).mp hpart
    exact ⟨a, rest, rfl, ha, hrest⟩
  · rintro ⟨a, rest, rfl, ha, hrest⟩
    exact ⟨[a], rest, rfl, (hp [a]).mpr ⟨a, ha, rfl⟩, hrest⟩

/-- A predicate of everything leaves some suffix. -/
theorem splits_cons_any (hp : ∀ part, p part) :
    Splits (p :: ps) xs ↔ ∃ rest, rest <:+ xs ∧ Splits ps rest := by
  rw [splits_cons]
  constructor
  · rintro ⟨part, rest, rfl, -, hrest⟩
    exact ⟨rest, List.suffix_append part rest, hrest⟩
  · rintro ⟨rest, ⟨part, rfl⟩, hrest⟩
    exact ⟨part, rest, rfl, hp part, hrest⟩

end Splits

/-! ## What a pattern covers -/

/-- The parts of a path a segment stands for. -/
def Segment.Covers : Segment → List Bytes → Prop
  | .Literal text, part => part = [utf8 text]
  | .One, part => ∃ component, part = [component]
  | .Many, _ => True

/-- The path in one part for each segment. -/
def Covered (segments : List Segment) (path : List Bytes) : Prop :=
  Splits (segments.map Segment.Covers) path

variable {segments : List Segment} {path : List Bytes} {s : Segment}

theorem covered_literal {text : String} :
    Covered (.Literal text :: segments) path ↔
      ∃ rest, path = utf8 text :: rest ∧ Covered segments rest := by
  have hp : ∀ part, Segment.Covers (.Literal text) part ↔ ∃ a, a = utf8 text ∧ part = [a] := by
    intro part
    constructor
    · intro h
      exact ⟨_, rfl, h⟩
    · rintro ⟨_, rfl, h⟩
      exact h
  unfold Covered
  rw [List.map_cons, splits_cons_single hp]
  constructor
  · rintro ⟨a, rest, rfl, rfl, hrest⟩
    exact ⟨rest, rfl, hrest⟩
  · rintro ⟨rest, rfl, hrest⟩
    exact ⟨_, rest, rfl, rfl, hrest⟩

theorem covered_one :
    Covered (.One :: segments) path ↔
      ∃ component rest, path = component :: rest ∧ Covered segments rest := by
  have hp : ∀ part, Segment.Covers .One part ↔ ∃ a, True ∧ part = [a] := by
    intro part
    simp only [Segment.Covers, true_and]
  unfold Covered
  rw [List.map_cons, splits_cons_single hp]
  simp only [true_and]

theorem covered_many :
    Covered (.Many :: segments) path ↔ ∃ rest, rest <:+ path ∧ Covered segments rest :=
  splits_cons_any fun _ => trivial

theorem anySuffix_iff {f : List Bytes → Bool} :
    anySuffix f path = true ↔ ∃ rest, rest <:+ path ∧ f rest = true := by
  induction path with
  | nil => simp [anySuffix]
  | cons component path ih =>
    rw [anySuffix, Bool.or_eq_true, ih]
    constructor
    · rintro (h | ⟨rest, hrest, h⟩)
      · exact ⟨_, List.suffix_rfl, h⟩
      · exact ⟨rest, hrest.trans (List.suffix_cons component path), h⟩
    · rintro ⟨rest, hrest, h⟩
      rcases List.suffix_cons_iff.mp hrest with rfl | hrest
      · exact .inl h
      · exact .inr ⟨rest, hrest, h⟩

/-- The matcher decides whether the path is covered. -/
theorem matchesFrom_iff : matchesFrom segments path = true ↔ Covered segments path := by
  induction segments generalizing path with
  | nil => rw [matchesFrom, Covered, List.map_nil, splits_nil, List.isEmpty_iff]
  | cons segment segments ih =>
    cases segment with
    | Literal text =>
      rw [covered_literal]
      cases path with
      | nil => simp [matchesFrom]
      | cons component path =>
        rw [matchesFrom, Bool.and_eq_true, beq_iff_eq, ih]
        simp only [List.cons.injEq]
        constructor
        · rintro ⟨rfl, h⟩
          exact ⟨path, ⟨rfl, rfl⟩, h⟩
        · rintro ⟨rest, ⟨rfl, rfl⟩, h⟩
          exact ⟨rfl, h⟩
    | One =>
      rw [covered_one]
      cases path with
      | nil => simp [matchesFrom]
      | cons component path =>
        rw [matchesFrom, ih]
        simp only [List.cons.injEq]
        constructor
        · intro h
          exact ⟨component, path, ⟨rfl, rfl⟩, h⟩
        · rintro ⟨_, rest, ⟨-, rfl⟩, h⟩
          exact h
    | Many =>
      rw [covered_many, matchesFrom, anySuffix_iff]
      simp only [ih]

/-- The literals a pattern starts with. -/
def literalStart : List Segment → List String
  | .Literal text :: segments => text :: literalStart segments
  | _ => []

/-- A covered path starts with the pattern's literals. -/
theorem covered_literalStart (h : Covered segments path) :
    (literalStart segments).map utf8 <+: path := by
  induction segments generalizing path with
  | nil => exact List.nil_prefix
  | cons segment segments ih =>
    cases segment with
    | Literal text =>
      obtain ⟨rest, rfl, hrest⟩ := covered_literal.mp h
      exact List.prefix_cons_inj _ |>.mpr (ih hrest)
    | One => exact List.nil_prefix
    | Many => exact List.nil_prefix

/-! ## The grammar -/

/-- How a segment is written. -/
def Segment.spelling : Segment → List Char
  | .Literal text => text.toList
  | .One => ['*']
  | .Many => ['*', '*']

/-- A literal is a component of its own, without wildcards. -/
def Segment.Whole : Segment → Prop
  | .Literal text => text ≠ "" ∧ '*' ∉ text.toList ∧ '/' ∉ text.toList
  | _ => True

/-- The documented grammar: the scheme and at least one segment, separated by `/`. -/
structure Spells (segments : List Segment) (pattern : String) : Prop where
  named : segments ≠ []
  whole : ∀ s ∈ segments, s.Whole
  spelled : pattern.toList = scopeScheme ++ ['/'].intercalate (segments.map Segment.spelling)

theorem Segment.Whole.spelling_ne_nil (h : s.Whole) : s.spelling ≠ [] := by
  cases s with
  | Literal text => exact fun hnil => h.1 (String.toList_eq_nil_iff.mp hnil)
  | One => exact List.cons_ne_nil _ _
  | Many => exact List.cons_ne_nil _ _

theorem Segment.Whole.slash_notMem (h : s.Whole) : '/' ∉ s.spelling := by
  cases s with
  | Literal text => exact h.2.2
  | One => decide
  | Many => decide

/-- A piece between slashes is read as the segment it spells. -/
theorem segmentOf_iff {pattern : String} {piece : List Char} (hslash : '/' ∉ piece) :
    segmentOf pattern piece = .ok s ↔ s.spelling = piece ∧ s.Whole := by
  constructor
  · intro h
    unfold segmentOf at h
    split_ifs at h with hempty hmany hone hstar
    · obtain rfl := Except.ok.inj h
      exact ⟨hmany.symm, trivial⟩
    · obtain rfl := Except.ok.inj h
      exact ⟨hone.symm, trivial⟩
    · obtain rfl := Except.ok.inj h
      refine ⟨String.toList_ofList, fun htext => hempty ?_, ?_, ?_⟩
      · rw [← String.toList_ofList (l := piece), htext]
        rfl
      · rwa [String.toList_ofList]
      · rwa [String.toList_ofList]
  · rintro ⟨rfl, hwhole⟩
    cases s with
    | Literal text =>
      have hempty : text.toList ≠ [] := hwhole.spelling_ne_nil
      have hstar : '*' ∉ text.toList := hwhole.2.1
      have hmany : text.toList ≠ ['*', '*'] := fun h => hstar (h ▸ List.mem_cons_self)
      have hone : text.toList ≠ ['*'] := fun h => hstar (h ▸ List.mem_cons_self)
      change segmentOf pattern text.toList = _
      rw [segmentOf, if_neg hempty, if_neg hmany, if_neg hone, if_neg hstar, String.ofList_toList]
    | One => rfl
    | Many => rfl

theorem notMem_of_mem_splitOn {α : Type} [BEq α] [LawfulBEq α] {x : α} {xs piece : List α}
    (h : piece ∈ xs.splitOn x) : x ∉ piece := by
  induction xs generalizing piece with
  | nil =>
    rw [List.splitOn_nil, List.mem_singleton] at h
    rw [h]
    exact List.not_mem_nil
  | cons y ys ih =>
    rw [List.splitOn_cons_eq_if_modifyHead] at h
    split at h
    · rcases List.mem_cons.mp h with rfl | h
      · exact List.not_mem_nil
      · exact ih h
    · rename_i hy
      obtain ⟨first, rest, hsplit⟩ := List.exists_cons_of_ne_nil (List.splitOn_ne_nil x ys)
      rw [hsplit] at h ih
      rcases List.mem_cons.mp h with rfl | h
      · intro hx
        rcases List.mem_cons.mp hx with rfl | hx
        · exact hy (beq_self_eq_true x)
        · exact ih List.mem_cons_self hx
      · exact ih (List.mem_cons_of_mem _ h)

/-- Exactly the texts of the grammar compile, each to the segments it spells. -/
theorem compilePattern_iff {pattern : String} :
    compilePattern pattern = .ok segments ↔ Spells segments pattern := by
  constructor
  · intro h
    unfold compilePattern at h
    split at h
    · cases h
    · rename_i hscheme
      obtain ⟨rest, hrest⟩ := List.isPrefixOf_iff_prefix.mp (Bool.eq_true_of_not_eq_false hscheme)
      dsimp only at h
      rw [← hrest, List.drop_left] at h
      split at h
      · cases h
      · have hread := mapM_eq_ok.mp h
        have heach : ∀ piece s, piece ∈ rest.splitOn '/' → segmentOf pattern piece = .ok s →
            s.spelling = piece ∧ s.Whole := fun piece s hpiece hs =>
          (segmentOf_iff (notMem_of_mem_splitOn hpiece)).mp hs
        have hspelled : segments.map Segment.spelling = rest.splitOn '/' := by
          clear h
          generalize rest.splitOn '/' = pieces at hread heach
          induction hread with
          | nil => rfl
          | cons hs _ ih =>
            rw [List.map_cons, (heach _ _ List.mem_cons_self hs).1,
              ih fun piece s hpiece => heach piece s (List.mem_cons_of_mem _ hpiece)]
        refine ⟨?_, fun s hs => ?_, ?_⟩
        · rintro rfl
          exact List.splitOn_ne_nil '/' rest hspelled.symm
        · obtain ⟨piece, hpiece, hread'⟩ := Reorder.forall₂_mem_right hread s hs
          exact (heach piece s hpiece hread').2
        · rw [← hrest, hspelled, List.intercalate_splitOn]
  · rintro ⟨hnamed, hwhole, hspelled⟩
    have hsplit : (['/'].intercalate (segments.map Segment.spelling)).splitOn '/' =
        segments.map Segment.spelling := by
      refine List.splitOn_intercalate '/' (fun text htext => ?_) (by simpa using hnamed)
      obtain ⟨s, hs, rfl⟩ := List.mem_map.mp htext
      exact (hwhole s hs).slash_notMem
    have hrest : ['/'].intercalate (segments.map Segment.spelling) ≠ [] := by
      intro hnil
      rw [hnil, List.splitOn_nil] at hsplit
      have hempty : [] ∈ segments.map Segment.spelling := hsplit ▸ List.mem_singleton_self _
      obtain ⟨s, hs, hs'⟩ := List.mem_map.mp hempty
      exact (hwhole s hs).spelling_ne_nil hs'
    have hscheme : scopeScheme.isPrefixOf pattern.toList = true :=
      List.isPrefixOf_iff_prefix.mpr ⟨_, hspelled.symm⟩
    unfold compilePattern
    rw [if_neg (by rw [hscheme]; decide)]
    dsimp only
    rw [hspelled, List.drop_left, if_neg hrest, hsplit]
    refine mapM_eq_ok.mpr (List.forall₂_map_left_iff.mpr (List.forall₂_same.mpr fun s hs => ?_))
    exact (segmentOf_iff (hwhole s hs).slash_notMem).mpr ⟨rfl, hwhole s hs⟩

theorem scope_compile_iff {patterns : List String} {scope : WorkspaceScope} :
    WorkspaceScope.compile patterns = .ok scope ↔
      List.Forall₂ (fun pattern segments => Spells segments pattern) patterns scope.patterns := by
  simp only [WorkspaceScope.compile, bind_eq_ok, pure_eq_ok, mapM_eq_ok, compilePattern_iff]
  constructor
  · rintro ⟨compiled, hcompiled, rfl⟩
    exact hcompiled
  · intro h
    exact ⟨scope.patterns, h, rfl⟩

/-- A compiled scope authorizes the paths one of its patterns covers. -/
theorem authorizes_iff {patterns : List String} {scope : WorkspaceScope}
    (hscope : WorkspaceScope.compile patterns = .ok scope) (path : RepositoryPath) :
    scope.authorizes path = true ↔ ∃ pattern ∈ patterns, ∃ segments,
      Spells segments pattern ∧ Covered segments (pathComponents path.bytes) := by
  have hread := scope_compile_iff.mp hscope
  simp only [WorkspaceScope.authorizes, List.any_eq_true, matchesFrom_iff]
  constructor
  · rintro ⟨segments, hsegments, hcovered⟩
    obtain ⟨pattern, hpattern, hspells⟩ := Reorder.forall₂_mem_right hread segments hsegments
    exact ⟨pattern, hpattern, segments, hspells, hcovered⟩
  · rintro ⟨pattern, hpattern, segments, hspells, hcovered⟩
    obtain ⟨segments', hsegments', hspells'⟩ := Reorder.forall₂_mem_right hread.flip pattern hpattern
    obtain rfl := Except.ok.inj ((compilePattern_iff.mpr hspells).symm.trans
      (compilePattern_iff.mpr hspells'))
    exact ⟨segments, hsegments', hcovered⟩

/-- Compilation accepts exactly the grammar, a pattern has one reading, a compiled scope
    authorizes exactly the paths one of its patterns covers, and no pattern covers a path that
    does not start with its literals. -/
theorem scope_patterns_exact :
    (∀ patterns, (∃ scope, WorkspaceScope.compile patterns = .ok scope) ↔
      ∀ pattern ∈ patterns, ∃ segments, Spells segments pattern) ∧
    (∀ pattern segments segments', Spells segments pattern → Spells segments' pattern →
      segments = segments') ∧
    (∀ patterns scope, WorkspaceScope.compile patterns = .ok scope → ∀ path : RepositoryPath,
      scope.authorizes path = true ↔ ∃ pattern ∈ patterns, ∃ segments,
        Spells segments pattern ∧ Covered segments (pathComponents path.bytes)) ∧
    ∀ pattern segments, Spells segments pattern → ∀ path : RepositoryPath,
      Covered segments (pathComponents path.bytes) →
      (literalStart segments).map utf8 <+: pathComponents path.bytes := by
  refine ⟨fun patterns => ⟨?_, fun h => ?_⟩, fun pattern segments segments' h h' => ?_,
    fun patterns scope => authorizes_iff, fun _ _ _ _ => covered_literalStart⟩
  · rintro ⟨scope, hscope⟩ pattern hpattern
    obtain ⟨segments, -, hspells⟩ := Reorder.forall₂_mem_right (scope_compile_iff.mp hscope).flip pattern hpattern
    exact ⟨segments, hspells⟩
  · induction patterns with
    | nil => exact ⟨⟨[]⟩, scope_compile_iff.mpr .nil⟩
    | cons pattern patterns ih =>
      obtain ⟨segments, hsegments⟩ := h pattern List.mem_cons_self
      obtain ⟨scope, hscope⟩ := ih fun p hp => h p (List.mem_cons_of_mem _ hp)
      exact ⟨⟨segments :: scope.patterns⟩, scope_compile_iff.mpr (.cons hsegments (scope_compile_iff.mp hscope))⟩
  · exact Except.ok.inj ((compilePattern_iff.mpr h).symm.trans (compilePattern_iff.mpr h'))

/-- One literal and one wildcard. -/
theorem scope_patterns_src : ∃ scope, WorkspaceScope.compile ["workspace://src/*"] = .ok scope ∧
    ∃ pattern ∈ ["workspace://src/*"], ∃ segments, Spells segments pattern ∧
      Covered segments (pathComponents (utf8 "src/a")) := by
  have hcompiled : WorkspaceScope.compile ["workspace://src/*"] =
      .ok ⟨[[.Literal "src", .One]]⟩ := by decide +kernel
  have hvalid : pathFault (utf8 "src/a") = none := by decide +kernel
  have hmatches : matchesFrom [.Literal "src", .One] (pathComponents (utf8 "src/a")) = true := by
    decide +kernel
  exact ⟨_, hcompiled, (scope_patterns_exact.2.2.1 _ _ hcompiled ⟨_, hvalid⟩).mp
    (List.any_eq_true.mpr ⟨_, List.mem_singleton_self _, hmatches⟩)⟩

end Pantheon
