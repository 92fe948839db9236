/-
  The Candidate vocabulary (`pantheon-core/src/candidate.rs`).
  A `CandidateResult` binds a Task, a Run and one Artifact per output slot. The slots of a
  built value are bounded names in strictly increasing order, so its canonical text does not
  depend on the order in which a worker listed them. UTF-8 byte order of the source is the
  order of strings by code points here.
-/
import Mathlib.Data.List.Sort
import Mathlib.Data.String.Basic
import Pantheon.Planning.Spec

namespace Pantheon

variable {D : Type}

structure CandidateOutput (D : Type) where
  slot : String
  artifact : D
  deriving Repr, DecidableEq

inductive CandidateError where
  | DuplicateOutputSlot (slot : String)
  | InvalidOutputSlot (slot reason : String)
  | OutputKindMismatch (slot permitted submitted : String)
  | UndeclaredOutputSlot (slot : String)
  | MissingRequiredOutput (slot : String)
  deriving Repr, DecidableEq

def CandidateError.display : CandidateError → String
  | .DuplicateOutputSlot slot => s!"output slot {debugText slot} was supplied more than once"
  | .InvalidOutputSlot slot reason => s!"output slot {debugText slot} is invalid: {reason}"
  | .OutputKindMismatch slot permitted submitted =>
    s!"output slot {debugText slot} permits {permitted}, but the submitted Artifact kind is {submitted}"
  | .UndeclaredOutputSlot slot =>
    s!"output slot {debugText slot} is not declared by the specification"
  | .MissingRequiredOutput slot =>
    s!"required output slot {debugText slot} is missing from the submission"

/-! ## Building a Candidate -/

def maxOutputSlotBytes : Nat := 128

/-- What is wrong with the name of an output's slot. -/
def slotProblem (output : CandidateOutput D) : Option CandidateError :=
  if output.slot = "" then
    some (.InvalidOutputSlot output.slot "the slot name is empty")
  else if maxOutputSlotBytes < output.slot.utf8ByteSize then
    some (.InvalidOutputSlot output.slot "the slot name exceeds the bounded length")
  else none

/-- The first slot that equals its successor. -/
def duplicateSlot : List (CandidateOutput D) → Option String
  | a :: b :: rest => if a.slot = b.slot then some a.slot else duplicateSlot (b :: rest)
  | _ => none

def SlotLe (a b : CandidateOutput D) : Prop := a.slot ≤ b.slot

instance : DecidableRel (SlotLe (D := D)) := fun a b => inferInstanceAs (Decidable (a.slot ≤ b.slot))

instance : Std.Total (SlotLe (D := D)) := ⟨fun a b => le_total a.slot b.slot⟩

instance : IsTrans (CandidateOutput D) SlotLe := ⟨fun _ _ _ h h' => le_trans h h'⟩

theorem duplicateSlot_none {outputs : List (CandidateOutput D)} (hsorted : outputs.Pairwise SlotLe)
    (hnone : duplicateSlot outputs = none) : outputs.Pairwise fun a b => a.slot < b.slot := by
  induction outputs with
  | nil => exact .nil
  | cons a rest ih =>
    obtain ⟨hle, hrest⟩ := List.pairwise_cons.mp hsorted
    cases rest with
    | nil => exact List.pairwise_singleton _ _
    | cons b rest =>
      unfold duplicateSlot at hnone
      split at hnone
      · cases hnone
      · rename_i hne
        have htail := ih hrest hnone
        have hab : a.slot < b.slot := lt_of_le_of_ne (hle b List.mem_cons_self) hne
        refine List.pairwise_cons.mpr ⟨fun c hc => ?_, htail⟩
        rcases List.mem_cons.mp hc with rfl | hc
        · exact hab
        · exact hab.trans ((List.pairwise_cons.mp htail).1 c hc)

/-- A Candidate: bounded slot names in strictly increasing order. -/
structure CandidateResult (D : Type) where
  taskId : String
  runId : String
  outputs : List (CandidateOutput D)
  ordered : outputs.Pairwise fun a b => a.slot < b.slot
  bounded : ∀ output ∈ outputs, slotProblem output = none

namespace CandidateResult

/-- `CandidateResult::new`. -/
def new (taskId runId : String) (outputs : List (String × D)) :
    Except CandidateError (CandidateResult D) :=
  let normalized : List (CandidateOutput D) := outputs.map fun p => ⟨p.1, p.2⟩
  match hproblem : normalized.findSome? slotProblem with
  | some problem => .error problem
  | none =>
    match hduplicate : duplicateSlot (normalized.insertionSort SlotLe) with
    | some slot => .error (.DuplicateOutputSlot slot)
    | none => .ok {
        taskId, runId
        outputs := normalized.insertionSort SlotLe
        ordered := duplicateSlot_none (List.pairwise_insertionSort _ _) hduplicate
        bounded := fun output h => List.findSome?_eq_none_iff.mp hproblem output
          ((List.perm_insertionSort _ _).mem_iff.mp h) }

variable [DigestScheme D]

def outputValue (output : CandidateOutput D) : Value :=
  .object [("artifact", .str (toDisplay output.artifact)), ("slot", .str output.slot)]

/-- `CandidateResult::to_value`. -/
def toValue (c : CandidateResult D) : Value :=
  .object [("outputs", .arr (c.outputs.map outputValue)), ("run", .str c.runId),
    ("task", .str c.taskId)]

/-- `CandidateResult::to_canonical_json`. -/
def toCanonicalJson (c : CandidateResult D) : String := c.toValue.toCanonicalText

/-- `CandidateResult::digest`. -/
def digest (c : CandidateResult D) : D := DigestScheme.ofBytes (utf8 c.toCanonicalJson)

omit [DigestScheme D] in
/-- `CandidateResult::validate_against_spec`: a missing required slot is reported before an
    undeclared one. -/
def validateAgainstSpec (c : CandidateResult D) (spec : TaskSpec D) : Except CandidateError Unit :=
  match (spec.outputs.filter (·.required)).find? fun r => !c.outputs.any (·.slot == r.name) with
  | some required => .error (.MissingRequiredOutput required.name)
  | none =>
    match c.outputs.find? fun o => !spec.outputs.any (·.name == o.slot) with
    | some output => .error (.UndeclaredOutputSlot output.slot)
    | none => .ok ()

/-! ## What a Candidate binds -/

omit [DigestScheme D] in
theorem slotProblem_eq_none {output : CandidateOutput D} : slotProblem output = none ↔
    output.slot ≠ "" ∧ output.slot.utf8ByteSize ≤ maxOutputSlotBytes := by
  unfold slotProblem
  split_ifs <;> simp_all

omit [DigestScheme D] in
theorem duplicateSlot_of_nodup {outputs : List (CandidateOutput D)}
    (h : (outputs.map (·.slot)).Nodup) : duplicateSlot outputs = none := by
  fun_induction duplicateSlot outputs with
  | case1 a b rest heq =>
    rw [List.map_cons, List.map_cons, heq] at h
    exact absurd List.mem_cons_self (List.nodup_cons.mp h).1
  | case2 a b rest hne ih => exact ih (List.nodup_cons.mp h).2
  | case3 => rfl

/-- The lists a Candidate is built from: bounded names, each once. -/
def Buildable (outputs : List (String × D)) : Prop :=
  (∀ output ∈ outputs, output.1 ≠ "" ∧ output.1.utf8ByteSize ≤ maxOutputSlotBytes) ∧
    (outputs.map Prod.fst).Nodup

/-- The outputs in the order of their slots. -/
def normalize (outputs : List (String × D)) : List (CandidateOutput D) :=
  (outputs.map fun p => ⟨p.1, p.2⟩ : List (CandidateOutput D)).insertionSort SlotLe

omit [DigestScheme D] in
theorem normalize_bindings (outputs : List (String × D)) :
    ((normalize outputs).map fun output => (output.slot, output.artifact)).Perm outputs := by
  refine ((List.perm_insertionSort SlotLe _).map _).trans (List.Perm.of_eq ?_)
  rw [List.map_map]
  exact List.map_id _

omit [DigestScheme D] in
theorem normalize_slots (outputs : List (String × D)) :
    ((normalize outputs).map (·.slot)).Perm (outputs.map Prod.fst) := by
  have h := (normalize_bindings outputs).map Prod.fst
  rwa [List.map_map] at h

omit [DigestScheme D] in
theorem buildable_iff {outputs : List (String × D)} : Buildable outputs ↔
    (outputs.map fun p => (⟨p.1, p.2⟩ : CandidateOutput D)).findSome? slotProblem = none ∧
      duplicateSlot (normalize outputs) = none := by
  have hperm := normalize_slots outputs
  have hnames : (outputs.map fun p => (⟨p.1, p.2⟩ : CandidateOutput D)).findSome? slotProblem = none ↔
      ∀ output ∈ outputs, output.1 ≠ "" ∧ output.1.utf8ByteSize ≤ maxOutputSlotBytes := by
    simp only [List.findSome?_eq_none_iff, List.forall_mem_map, slotProblem_eq_none]
  rw [Buildable, hnames]
  refine and_congr_right fun _ => ⟨fun h => duplicateSlot_of_nodup (hperm.nodup_iff.mpr h), fun h => ?_⟩
  have hordered := duplicateSlot_none (List.pairwise_insertionSort _ _) h
  exact hperm.nodup_iff.mp (List.pairwise_map.mpr (hordered.imp ne_of_lt))

omit [DigestScheme D] in
theorem new_ok {taskId runId : String} {outputs : List (String × D)} {c : CandidateResult D} :
    new taskId runId outputs = .ok c ↔
      Buildable outputs ∧ c.taskId = taskId ∧ c.runId = runId ∧ c.outputs = normalize outputs := by
  rw [buildable_iff]
  unfold new
  dsimp only
  split
  · rename_i problem hproblem
    exact iff_of_false nofun fun h => by cases hproblem.symm.trans h.1.1
  · rename_i hproblem
    split
    · rename_i slot hslot
      exact iff_of_false nofun fun h => by cases hslot.symm.trans h.1.2
    · rename_i hduplicate
      rw [and_iff_right ⟨hproblem, hduplicate⟩, Except.ok.injEq]
      cases c
      simp only [mk.injEq]
      tauto

omit [DigestScheme D] in
theorem new_of {outputs : List (String × D)} (h : Buildable outputs) (taskId runId : String) :
    ∃ c, new taskId runId outputs = .ok c := by
  obtain ⟨hproblem, hduplicate⟩ := buildable_iff.mp h
  unfold new
  dsimp only
  split
  · rename_i problem hsome
    cases hproblem.symm.trans hsome
  · split
    · rename_i slot hsome
      cases hduplicate.symm.trans hsome
    · exact ⟨_, rfl⟩

omit [DigestScheme D] in
/-- The order of a Candidate's outputs does not depend on the order they came in. -/
theorem normalize_perm {outputs outputs' : List (String × D)} (h : Buildable outputs)
    (hperm : outputs'.Perm outputs) : Buildable outputs' ∧ normalize outputs' = normalize outputs := by
  have h' : Buildable outputs' := ⟨fun output ho => h.1 output (hperm.mem_iff.mp ho),
    ((hperm.map _).nodup_iff).mpr h.2⟩
  have hordered : ∀ {outputs : List (String × D)}, Buildable outputs →
      (normalize outputs).Pairwise fun a b => a.slot < b.slot := fun h =>
    duplicateSlot_none (List.pairwise_insertionSort _ _) (buildable_iff.mp h).2
  refine ⟨h', List.Perm.eq_of_pairwise (fun a b _ _ hab hba => absurd hba hab.not_gt) (hordered h')
    (hordered h) ?_⟩
  exact ((List.perm_insertionSort SlotLe _).trans (hperm.map _)).trans
    (List.perm_insertionSort SlotLe _).symm

theorem outputValue_injective : Function.Injective (outputValue : CandidateOutput D → Value) := by
  intro a b h
  have field := Value.fields_eq h
  simp only [outputValue, Value.get_object] at field
  cases a
  cases b
  rw [CandidateOutput.mk.injEq]
  exact ⟨Value.str.inj (field "slot" rfl rfl),
    toDisplay_injective (Value.str.inj (field "artifact" rfl rfl))⟩

theorem toValue_wf (c : CandidateResult D) : c.toValue.Wf := by
  refine Value.wf_object ?_
  simp only [List.mem_cons, List.not_mem_nil, or_false, forall_eq_or_imp, forall_eq, Value.wf_str,
    and_true, Value.wf_arr, List.forall_mem_map]
  exact fun output _ => Value.wf_object (by simp)

/-- The digest binds the Task, the Run and every slot. -/
theorem digest_eq_iff (hD : Collisionless D) {c c' : CandidateResult D} : c'.digest = c.digest ↔
    c'.taskId = c.taskId ∧ c'.runId = c.runId ∧ c'.outputs = c.outputs := by
  constructor
  · intro h
    simp only [digest, toCanonicalJson, ← Value.toCanonicalBytes_eq_utf8] at h
    have field := Value.fields_eq (digest_injective hD c'.toValue_wf c.toValue_wf h)
    simp only [toValue, Value.get_object] at field
    exact ⟨Value.str.inj (field "task" rfl rfl), Value.str.inj (field "run" rfl rfl),
      outputValue_injective.list_map (Value.arr.inj (field "outputs" rfl rfl))⟩
  · rintro ⟨htask, hrun, houtputs⟩
    simp only [digest, toCanonicalJson, toValue, htask, hrun, houtputs]

omit [DigestScheme D] in
/-- A Candidate matches a specification if it has the required outputs and no others than the
    declared ones. -/
theorem validateAgainstSpec_ok {c : CandidateResult D} {spec : TaskSpec D} :
    c.validateAgainstSpec spec = .ok () ↔
      (∀ required ∈ spec.outputs, required.required = true →
        ∃ output ∈ c.outputs, output.slot = required.name) ∧
      ∀ output ∈ c.outputs, ∃ declared ∈ spec.outputs, declared.name = output.slot := by
  have hrequired : (spec.outputs.filter (·.required)).find? (fun r => !c.outputs.any (·.slot == r.name)) =
      none ↔ ∀ required ∈ spec.outputs, required.required = true →
        ∃ output ∈ c.outputs, output.slot = required.name := by
    simp
  have hdeclared : c.outputs.find? (fun o => !spec.outputs.any (·.name == o.slot)) = none ↔
      ∀ output ∈ c.outputs, ∃ declared ∈ spec.outputs, declared.name = output.slot := by
    simp
  rw [← hrequired, ← hdeclared, validateAgainstSpec]
  split
  · rename_i h
    exact iff_of_false nofun fun h' => by cases h.symm.trans h'.1
  · rename_i h
    rw [and_iff_right h]
    split
    · rename_i h'
      exact iff_of_false nofun fun hnone => by cases h'.symm.trans hnone
    · rename_i h'
      exact iff_of_true rfl h'

end CandidateResult

/-- A Candidate is refused exactly for a slot name that is empty, too long or there twice. Its
    digest is that of every list with the same bindings for the same Task and Run, and of no other.
    It matches a specification exactly if its slots are among the declared ones and all the required
    ones are among them. -/
theorem candidate_identity [DigestScheme D] (hD : Collisionless D) (taskId runId : String)
    (outputs : List (String × D)) :
    ((∃ e, CandidateResult.new taskId runId outputs = .error e) ↔
      (∃ output ∈ outputs, output.1 = "" ∨ maxOutputSlotBytes < output.1.utf8ByteSize) ∨
        ¬(outputs.map Prod.fst).Nodup) ∧
    ∀ c, CandidateResult.new taskId runId outputs = .ok c →
      (∀ outputs', outputs'.Perm outputs → ∃ c', CandidateResult.new taskId runId outputs' = .ok c') ∧
      (∀ taskId' runId' outputs' c', CandidateResult.new taskId' runId' outputs' = .ok c' →
        (c'.digest = c.digest ↔ taskId' = taskId ∧ runId' = runId ∧ outputs'.Perm outputs)) ∧
      ∀ spec : TaskSpec D, c.validateAgainstSpec spec = .ok () ↔
        (∀ required ∈ spec.outputs, required.required = true → required.name ∈ outputs.map Prod.fst) ∧
          ∀ slot ∈ outputs.map Prod.fst, slot ∈ spec.outputs.map (·.name) := by
  constructor
  · have hrefused : (∃ e, CandidateResult.new taskId runId outputs = .error e) ↔
        ¬CandidateResult.Buildable outputs := by
      constructor
      · rintro ⟨e, he⟩ hbuildable
        obtain ⟨c, hc⟩ := CandidateResult.new_of hbuildable taskId runId
        cases he.symm.trans hc
      · intro hnot
        cases hnew : CandidateResult.new taskId runId outputs with
        | error e => exact ⟨e, rfl⟩
        | ok c => exact absurd (CandidateResult.new_ok.mp hnew).1 hnot
    rw [hrefused, CandidateResult.Buildable, not_and_or]
    simp [or_iff_not_imp_left]
  · intro c hc
    obtain ⟨hbuildable, rfl, rfl, houtputs⟩ := CandidateResult.new_ok.mp hc
    refine ⟨fun outputs' hperm => ?_, fun taskId' runId' outputs' c' hc' => ?_, fun spec => ?_⟩
    · exact CandidateResult.new_of (CandidateResult.normalize_perm hbuildable hperm).1 _ _
    · obtain ⟨-, rfl, rfl, houtputs'⟩ := CandidateResult.new_ok.mp hc'
      rw [CandidateResult.digest_eq_iff hD, houtputs, houtputs']
      refine and_congr_right fun _ => and_congr_right fun _ => ⟨fun heq => ?_, fun hperm => ?_⟩
      · exact (heq ▸ CandidateResult.normalize_bindings outputs').symm.trans
          (CandidateResult.normalize_bindings outputs)
      · exact (CandidateResult.normalize_perm hbuildable hperm).2
    · have hslots : ∀ slot, slot ∈ outputs.map Prod.fst ↔ ∃ output ∈ c.outputs, output.slot = slot :=
        fun slot => by rw [houtputs, ← (CandidateResult.normalize_slots outputs).mem_iff, List.mem_map]
      simp only [CandidateResult.validateAgainstSpec_ok, hslots, forall_exists_index, and_imp,
        forall_apply_eq_imp_iff₂, List.mem_map]

/-- Two slots, in either order. -/
theorem candidate_identity_two : ∃ c c' : CandidateResult ExactDigest,
    CandidateResult.new "task" "run" [("a", ⟨[1]⟩), ("b", ⟨[2]⟩)] = .ok c ∧
    CandidateResult.new "task" "run" [("b", ⟨[2]⟩), ("a", ⟨[1]⟩)] = .ok c' ∧ c'.digest = c.digest := by
  have hidentity := candidate_identity exactDigest_collisionless "task" "run"
    [("a", ⟨[1]⟩), ("b", ⟨[2]⟩)]
  obtain ⟨c, hc⟩ : ∃ c : CandidateResult ExactDigest,
      CandidateResult.new "task" "run" [("a", ⟨[1]⟩), ("b", ⟨[2]⟩)] = .ok c :=
    CandidateResult.new_of (by unfold CandidateResult.Buildable; decide) "task" "run"
  obtain ⟨hperm, hdigest, -⟩ := hidentity.2 c hc
  obtain ⟨c', hc'⟩ := hperm [("b", ⟨[2]⟩), ("a", ⟨[1]⟩)] (.swap _ _ _)
  exact ⟨c, c', hc, hc', (hdigest _ _ _ c' hc').mpr ⟨rfl, rfl, .swap _ _ _⟩⟩

/-- `kind_permitted`. -/
def kindPermitted (slot : TaskOutput) (artifactKind : String) : Except CandidateError Unit :=
  if slot.kind = artifactKind then .ok ()
  else .error (.OutputKindMismatch slot.name slot.kind artifactKind)

end Pantheon
