/-
  What a context plan holds and what its digest binds (`build_context_plan` in
  `pantheon-core/src/context.rs`).
  The sections are built in the order the plan lists them, so sorting changes nothing
  (`planSections_ordered`). The order looks at the inclusion before the stratum; that strata still
  never fall along the list is a fact about the sections that are built, not about the order.
-/
import Pantheon.Context.Drop
import Pantheon.Execution.Documents

namespace Pantheon

open Value

variable {D : Type} [DigestScheme D] {snapshot snapshot' : ContextSourceSnapshot D}
  {sources sources' : FrozenSources D} {policy : ContextComponent} {plan : ContextPlan D}

/-! ## The sections -/

theorem referenceSection_le {a b : TaskInput} (h : a.name ≤ b.name) :
    (referenceSection a).Le (referenceSection b) := by
  simp [ContextSection.Le, ContextSection.orderKey, referenceSection, Prod.Lex.toLex_le_toLex, h]

theorem planSections_ordered (snapshot : ContextSourceSnapshot D) (sources : FrozenSources D) :
    (planSections snapshot sources).Pairwise ContextSection.Le := by
  have : Std.Total fun a b : TaskInput => a.name ≤ b.name := ⟨fun a b => le_total a.name b.name⟩
  have : IsTrans TaskInput fun a b => a.name ≤ b.name := ⟨fun _ _ _ h h' => le_trans h h'⟩
  have hinputs := List.pairwise_insertionSort (fun a b : TaskInput => a.name ≤ b.name)
    sources.taskSpec.inputs
  refine List.pairwise_append.mpr ⟨?_, List.pairwise_map.mpr (hinputs.imp referenceSection_le), ?_⟩
  · simp [ContextSection.Le, ContextSection.orderKey, guidanceSection, Prod.Lex.toLex_le_toLex,
      InclusionClass.rank, PrecedenceStratum.rank, kindRank, sectionTaskContract,
      sectionGoalContract, sectionAgentSoul, sectionAgentBehavior]
  · simp [ContextSection.Le, ContextSection.orderKey, guidanceSection, referenceSection,
      Prod.Lex.toLex_le_toLex, InclusionClass.rank]

/-- A plan lists the sections as they were built, and nothing was dropped. -/
theorem buildContextPlan_ok (h : buildContextPlan snapshot sources policy = .ok plan) :
    plan.sections = planSections snapshot sources ∧ plan.dropped = [] ∧
      plan.sourceSnapshotDigest = snapshot.digest ∧ plan.goalRevision = snapshot.goalRevision ∧
      plan.graphRevision = snapshot.graphRevision := by
  have hdrop : applyOptionalDrop (planSections snapshot sources) policy.optionalDropOrder
      (fun _ => false) = (planSections snapshot sources, []) := foldl_met rfl [] _
  unfold buildContextPlan at h
  dsimp only at h
  rw [hdrop] at h
  split at h
  · cases h
  · obtain rfl := Except.ok.inj h
    exact ⟨(planSections_ordered snapshot sources).insertionSort_eq, rfl, rfl, rfl, rfl⟩

theorem buildContextPlan_error : (∃ e, buildContextPlan snapshot sources policy = .error e) ↔
    ∃ required ∈ policy.mandatorySections,
      ∀ s ∈ planSections snapshot sources, s.kind ≠ required := by
  unfold buildContextPlan
  dsimp only
  split
  · rename_i required hrequired
    refine iff_of_true ⟨_, rfl⟩ ⟨required, List.mem_of_find?_eq_some hrequired, ?_⟩
    simpa using List.find?_some hrequired
  · rename_i hnone
    refine iff_of_false nofun ?_
    simpa using hnone

/-! ## The digest -/

theorem toValue_instruction {s t : ContextSection} {text text' : String} (h : s.toValue = t.toValue)
    (hs : s.instruction = some text) (ht : t.instruction = some text') : text = text' := by
  have field := fields_eq h
  simp only [ContextSection.toValue, get_object, hs, ht] at field
  exact Value.str.inj (field "instruction" rfl rfl)

theorem toValue_provenance {s t : ContextSection} (h : s.toValue = t.toValue) :
    s.provenance = t.provenance := by
  have field := fields_eq h
  simp only [ContextSection.toValue, get_object] at field
  exact field "provenance" rfl rfl

theorem referenceSection_injective :
    Function.Injective fun input => (referenceSection input).toValue := by
  intro a b h
  have field := fields_eq h
  have reference := fields_eq (toValue_provenance h)
  simp only [ContextSection.toValue, referenceSection, get_object] at field reference
  cases a
  cases b
  rw [TaskInput.mk.injEq]
  exact ⟨Value.str.inj (field "key" rfl rfl), Value.str.inj (reference "ref" rfl rfl)⟩

/-- Sections with the same values come from the same texts. -/
theorem planSections_texts (h : (planSections snapshot sources).map ContextSection.toValue =
      (planSections snapshot' sources').map ContextSection.toValue) :
    sources.taskSpec.objective = sources'.taskSpec.objective ∧ sources.soul = sources'.soul ∧
      sources.behavior = sources'.behavior ∧
      sources.workspaceRepository = sources'.workspaceRepository ∧
      sources.taskSpec.inputs.Perm sources'.taskSpec.inputs := by
  simp only [planSections, List.cons_append, List.nil_append, List.map_cons, List.cons.injEq,
    List.map_map] at h
  obtain ⟨htask, -, hsoul, hbehavior, hworkspace, hinputs⟩ := h
  have repository := fields_eq (toValue_provenance hworkspace)
  simp only [get_object] at repository
  refine ⟨toValue_instruction htask rfl rfl, toValue_instruction hsoul rfl rfl,
    toValue_instruction hbehavior rfl rfl, Value.str.inj (repository "repository" rfl rfl), ?_⟩
  have hsorted := List.map_injective_iff.mpr referenceSection_injective hinputs
  have hperm := List.perm_insertionSort (fun a b : TaskInput => a.name ≤ b.name)
    sources'.taskSpec.inputs
  rw [← hsorted] at hperm
  exact (List.perm_insertionSort _ _).symm.trans hperm

theorem section_wf {s : ContextSection} (h : s.provenance.Wf) : s.toValue.Wf := by
  refine wf_object ?_
  cases hinstruction : s.instruction <;> simp [h]

theorem planSections_wf (h : snapshot.Sized) :
    ∀ s ∈ planSections snapshot sources, s.toValue.Wf := by
  have hrevision : (Value.integer snapshot.goalRevision).Wf := h.1
  simp only [planSections, List.forall_mem_append, List.forall_mem_cons, List.forall_mem_map]
  refine ⟨⟨?_, ?_, ?_, ?_, ?_, nofun⟩, fun input _ => section_wf (wf_object (by simp))⟩
  all_goals exact section_wf (wf_object (by simp [hrevision]))

theorem ContextPlan.toValue_wf (h : snapshot.Sized)
    (hplan : buildContextPlan snapshot sources policy = .ok plan) : plan.toValue.Wf := by
  obtain ⟨hsections, hdropped, -, hgoal, hgraph⟩ := buildContextPlan_ok hplan
  have hrevision : (Value.integer plan.goalRevision).Wf := hgoal ▸ h.1
  have hgraph : (Value.integer plan.graphRevision).Wf := hgraph ▸ h.2.1
  have hlisted : (Value.arr (plan.sections.map ContextSection.toValue)).Wf :=
    Value.wf_map (hsections ▸ planSections_wf h)
  have hnone : (Value.arr (plan.dropped.map DroppedSection.toValue)).Wf :=
    Value.wf_map (hdropped ▸ nofun)
  refine wf_object ?_
  simp only [List.forall_mem_cons]
  refine ⟨wf_object (by simp), wf_str _, ?_, ?_, wf_object (by simp), hlisted, hnone, nofun⟩
  · exact wf_object (by simp [hrevision, hgraph])
  · exact wf_object (by simp)

/-- A policy is refused exactly for a mandatory kind that no section has. Otherwise the plan lists
    the five fixed sections, and then one reference for each input; nothing is dropped, and the
    authority of the strata never rises along the list. Its digest determines the snapshot and the
    texts. -/
theorem context_plan (hD : Collisionless D) (snapshot : ContextSourceSnapshot D)
    (sources : FrozenSources D) (policy : ContextComponent) :
    ((∃ e, buildContextPlan snapshot sources policy = .error e) ↔
      ∃ required ∈ policy.mandatorySections,
        ∀ s ∈ planSections snapshot sources, s.kind ≠ required) ∧
    ∀ plan, buildContextPlan snapshot sources policy = .ok plan →
      (plan.sections.take 5).map (fun s => (s.kind, s.inclusion)) =
        [(sectionTaskContract, .Mandatory), (sectionGoalContract, .Mandatory),
          (sectionAgentSoul, .Mandatory), (sectionAgentBehavior, .Mandatory),
          (sectionWorkspaceOrientation, .Preload)] ∧
      (plan.sections.drop 5).Perm (sources.taskSpec.inputs.map referenceSection) ∧
      plan.dropped = [] ∧
      plan.sections.Pairwise (fun a b => a.precedence.rank ≤ b.precedence.rank) ∧
      ∀ snapshot' sources' policy' plan', buildContextPlan snapshot' sources' policy' = .ok plan' →
        snapshot.Sized → snapshot'.Sized → plan.digest = plan'.digest →
        snapshot = snapshot' ∧ sources.taskSpec.objective = sources'.taskSpec.objective ∧
          sources.soul = sources'.soul ∧ sources.behavior = sources'.behavior ∧
          sources.workspaceRepository = sources'.workspaceRepository ∧
          sources.taskSpec.inputs.Perm sources'.taskSpec.inputs := by
  refine ⟨buildContextPlan_error, fun plan hplan => ?_⟩
  obtain ⟨hsections, hdropped, hsource, -⟩ := buildContextPlan_ok hplan
  rw [hsections]
  refine ⟨rfl, (List.perm_insertionSort _ _).map _, hdropped, ?_, ?_⟩
  · simp [planSections, guidanceSection, referenceSection, PrecedenceStratum.rank,
      List.pairwise_map, List.pairwise_of_forall]
  · intro snapshot' sources' policy' plan' hplan' hsized hsized' hdigest
    obtain ⟨hsections', -, hsource', -⟩ := buildContextPlan_ok hplan'
    have field := fields_eq (digest_injective hD (ContextPlan.toValue_wf hsized hplan)
      (ContextPlan.toValue_wf hsized' hplan') hdigest)
    simp only [ContextPlan.toValue, get_object, hsections, hsections', hsource, hsource'] at field
    have hsnapshot : snapshot.digest = snapshot'.digest :=
      toDisplay_injective (Value.str.inj (field "sourceSnapshot" rfl rfl))
    refine ⟨?_, planSections_texts (Value.arr.inj (field "sections" rfl rfl))⟩
    have hwf := ContextSourceSnapshot.toValue_wf hsized.1 hsized.2.1 hsized.2.2
    have hwf' := ContextSourceSnapshot.toValue_wf hsized'.1 hsized'.2.1 hsized'.2.2
    exact eq_of_digest_eq hD hwf hwf' (ContextSourceSnapshot.fromCanonicalJson_toCanonicalText hwf)
      (ContextSourceSnapshot.fromCanonicalJson_toCanonicalText hwf') hsnapshot

namespace Sample

def frozen : ContextSourceSnapshot ExactDigest :=
  ⟨⟨[1]⟩, "goal", 1, 1, ⟨"clio", 1⟩, 1, ⟨[2]⟩, ⟨[3]⟩, ⟨[4]⟩, "workspace", "base"⟩

def sourcesWith (soul : String) : FrozenSources ExactDigest where
  taskSpec := ⟨"build", "Build it.", [⟨"draft", "artifact://draft"⟩], [], [], ⟨[], [], []⟩,
    ⟨[], ⟨[6]⟩, 1⟩, "goal", 1⟩
  goalContentDigest := ⟨[5]⟩
  soul
  behavior := "Work."
  workspaceRepository := "repository"

def soulRequired : ContextComponent := ⟨1, [sectionAgentSoul], [], 0, 0, 0, []⟩

end Sample

/-- Another soul gives another plan. -/
theorem context_plan_by_soul : ∃ plan plan' : ContextPlan ExactDigest,
    buildContextPlan Sample.frozen (Sample.sourcesWith "Calm.") Sample.soulRequired = .ok plan ∧
    buildContextPlan Sample.frozen (Sample.sourcesWith "Bold.") Sample.soulRequired = .ok plan' ∧
    plan.digest ≠ plan'.digest := by
  have hsized : Sample.frozen.Sized := ⟨by decide, by decide, by decide⟩
  refine ⟨_, _, rfl, rfl, fun hdigest => ?_⟩
  obtain ⟨-, -, hsoul, -⟩ := ((context_plan exactDigest_collisionless Sample.frozen
    (Sample.sourcesWith "Calm.") Sample.soulRequired).2 _ rfl).2.2.2.2 Sample.frozen
    (Sample.sourcesWith "Bold.") Sample.soulRequired _ rfl hsized hsized hdigest
  exact absurd hsoul (by decide)

end Pantheon
