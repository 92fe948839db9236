/-
  Reading a Goal revision back (`GoalSpec::from_canonical_json`).
  A revision is read back from its canonical text. Of a text that some other hand wrote, the
  reader checks every member but one thing: an `inputs` or `deliverables` that is no array counts
  as an empty one. Where both are arrays, a text is read exactly if it has the form of a Goal
  (`goal_read_exactly`).
-/
import Pantheon.Config.Model
import Pantheon.Planning.Spec

namespace Pantheon

open Value

/-! ## The form of a Goal -/

/-- A list of entries, each of which has the form of its value. -/
def HasEntries {α : Type} (P : Value → α → Prop) (v : Value) (name : String) (as : List α) : Prop :=
  ∃ entries, v.get name = some (.arr entries) ∧ List.Forall₂ P entries as

def GoalInput.Form (entry : Value) (i : GoalInput) : Prop :=
  entry.get "name" = some (.str i.name) ∧ entry.get "ref" = some (.str i.reference)

def Deliverable.Form (entry : Value) (d : Deliverable) : Prop :=
  entry.get "name" = some (.str d.name) ∧ entry.get "kind" = some (.str d.kind) ∧
    entry.get "required" = some (.bool d.required)

/-- Every member is there, at its type. -/
structure GoalSpec.Form (v : Value) (g : GoalSpec) : Prop where
  objective : v.get "objective" = some (.str g.objective)
  inputs : HasEntries GoalInput.Form v "inputs" g.inputs
  deliverables : HasEntries Deliverable.Form v "deliverables" g.deliverables
  constraints : ∃ c, v.get "constraints" = some c ∧
    c.get "permittedEffects" = some (strings g.constraints.permittedEffects) ∧
    c.get "forbiddenEffects" = some (strings g.constraints.forbiddenEffects) ∧
    c.get "permittedResources" = some (strings g.constraints.permittedResources)

/-! ## The readers -/

variable {texts : List String} {v : Value} {name : String}

theorem Value.stringElements_iff {wrong : Value → String} {entries : List Value} :
    Value.stringElements wrong entries = .ok texts ↔ entries = texts.map .str := by
  constructor
  · intro h
    induction entries generalizing texts with
    | nil =>
      obtain rfl := Except.ok.inj h
      rfl
    | cons entry entries ih =>
      cases entry with
      | str text =>
        obtain ⟨rest, hrest, h⟩ := bind_ok h
        obtain rfl := Except.ok.inj h
        rw [ih hrest, List.map_cons]
      | _ => cases h
  · rintro rfl
    exact Value.stringElements_strings wrong texts

theorem Value.stringList_iff {missing : String} {wrong : Value → String} :
    v.stringList name missing wrong = .ok texts ↔ v.get name = some (strings texts) := by
  unfold Value.stringList
  split
  · rename_i entries hentries
    rw [hentries, stringElements_iff, strings, Option.some.injEq, Value.arr.injEq]
  · rename_i hnone
    constructor
    · intro h
      cases h
    · intro h
      exact absurd h (hnone _)

namespace GoalSpec

theorem decodeInput_iff {entry : Value} {i : GoalInput} :
    decodeInput entry = .ok i ↔ GoalInput.Form entry i := by
  obtain ⟨name, reference⟩ := i
  unfold decodeInput GoalInput.Form
  split
  · rename_i n r hn hr
    rw [hn, hr]
    simp
  · rename_i hnone
    constructor
    · intro h
      cases h
    · rintro ⟨hn, hr⟩
      exact absurd hr (hnone _ _ hn)

theorem decodeDeliverable_iff {entry : Value} {d : Deliverable} :
    decodeDeliverable entry = .ok d ↔ Deliverable.Form entry d := by
  obtain ⟨name, kind, required⟩ := d
  unfold decodeDeliverable Deliverable.Form
  split
  · rename_i n k r hn hk hr
    rw [hn, hk, hr]
    simp
  · rename_i hnone
    constructor
    · intro h
      cases h
    · rintro ⟨hn, hk, hr⟩
      exact absurd hr (hnone _ _ _ hn hk)

/-- A member that is an array, if it is there. -/
def IsArrayAt (v : Value) (name : String) : Prop :=
  ∀ w, v.get name = some w → ∃ entries, w = .arr entries

theorem decodeEntries_iff {α : Type} {f : Value → Except DecodeError α} {P : Value → α → Prop}
    (hf : ∀ entry a, f entry = .ok a ↔ P entry a) (harray : IsArrayAt v name) {as : List α} :
    (∃ w, v.get name = some w ∧ decodeEntries f w = .ok as) ↔ HasEntries P v name as := by
  have hread : ∀ entries : List Value, entries.mapM f = .ok as ↔ List.Forall₂ P entries as := by
    intro entries
    rw [mapM_eq_ok]
    simp only [hf]
  constructor
  · rintro ⟨w, hw, h⟩
    obtain ⟨entries, rfl⟩ := harray w hw
    exact ⟨entries, hw, (hread entries).mp h⟩
  · rintro ⟨entries, hentries, h⟩
    exact ⟨_, hentries, (hread entries).mpr h⟩

theorem decodeConstraint_iff {c : Value} :
    decodeConstraint c name = .ok texts ↔ c.get name = some (strings texts) :=
  Value.stringList_iff

/-- A member that must be there. -/
def member (v : Value) (name : String) : Except DecodeError Value :=
  match v.get name with
  | some w => .ok w
  | none => .error (.field s!"missing {name}")

def objectiveText : Value → Except DecodeError String
  | .str objective => .ok objective
  | _ => .error (.field "objective is not a string")

theorem member_iff {w : Value} : member v name = .ok w ↔ v.get name = some w := by
  unfold member
  cases v.get name <;> simp

theorem objectiveText_iff {w : Value} {objective : String} :
    objectiveText w = .ok objective ↔ w = .str objective := by
  cases w <;> simp [objectiveText]

/-- The reader, member by member. -/
theorem fromCanonicalJson_eq {text : String} (hv : parse text = .ok v) :
    fromCanonicalJson text = do
      let objective ← objectiveText (← member v "objective")
      let inputs ← decodeEntries decodeInput (← member v "inputs")
      let deliverables ← decodeEntries decodeDeliverable (← member v "deliverables")
      let constraints ← member v "constraints"
      let permittedEffects ← decodeConstraint constraints "permittedEffects"
      let forbiddenEffects ← decodeConstraint constraints "forbiddenEffects"
      let permittedResources ← decodeConstraint constraints "permittedResources"
      return ⟨objective, inputs, deliverables,
        ⟨permittedEffects, forbiddenEffects, permittedResources⟩⟩ := by
  have hstored : parseStored text = .ok v := by rw [parseStored, hv]
  rw [fromCanonicalJson, hstored, ok_bind]
  change (member v "objective" >>= _) = _
  cases member v "objective" with
  | error e => rfl
  | ok w => cases w <;> rfl

theorem fromCanonicalJson_iff {text : String} (hv : parse text = .ok v)
    (hinputs : IsArrayAt v "inputs") (hdeliverables : IsArrayAt v "deliverables") {g : GoalSpec} :
    fromCanonicalJson text = .ok g ↔ GoalSpec.Form v g := by
  obtain ⟨objective, inputs, deliverables, permitted, forbidden, resources⟩ := g
  have hin : (∃ w, v.get "inputs" = some w ∧ decodeEntries decodeInput w = .ok inputs) ↔
      HasEntries GoalInput.Form v "inputs" inputs :=
    decodeEntries_iff (fun _ _ => decodeInput_iff) hinputs
  have hdel : (∃ w, v.get "deliverables" = some w ∧
      decodeEntries decodeDeliverable w = .ok deliverables) ↔
      HasEntries Deliverable.Form v "deliverables" deliverables :=
    decodeEntries_iff (fun _ _ => decodeDeliverable_iff) hdeliverables
  rw [fromCanonicalJson_eq hv]
  simp only [bind_eq_ok, member_iff, objectiveText_iff, decodeConstraint_iff, pure_eq_ok,
    GoalSpec.mk.injEq, GoalConstraints.mk.injEq]
  constructor
  · rintro ⟨_, ho, _, rfl, wi, hwi, is, his, wd, hwd, ds, hds, c, hc, pe, hpe, fe, hfe, pr, hpr,
      rfl, rfl, rfl, rfl, rfl, rfl⟩
    exact ⟨ho, hin.mp ⟨wi, hwi, his⟩, hdel.mp ⟨wd, hwd, hds⟩, c, hc, hpe, hfe, hpr⟩
  · rintro ⟨ho, hi, hd, c, hc, hpe, hfe, hpr⟩
    obtain ⟨wi, hwi, his⟩ := hin.mpr hi
    obtain ⟨wd, hwd, hds⟩ := hdel.mpr hd
    exact ⟨_, ho, _, rfl, wi, hwi, _, his, wd, hwd, _, hds, c, hc, _, hpe, _, hfe, _, hpr,
      rfl, rfl, rfl, rfl, rfl, rfl⟩

end GoalSpec

theorem GoalSpec.toValue_wf (g : GoalSpec) : g.toValue.Wf := by
  have hinputs : (Value.arr (g.inputs.map fun i => inputValue i.name i.reference)).Wf :=
    wf_map fun i _ => wf_object (by simp)
  have hdeliverables :
      (Value.arr (g.deliverables.map fun d => outputValue d.name d.kind d.required)).Wf :=
    wf_map fun d _ => wf_object (by simp)
  have hconstraints : (object [
      ("permittedEffects", strings g.constraints.permittedEffects),
      ("forbiddenEffects", strings g.constraints.forbiddenEffects),
      ("permittedResources", strings g.constraints.permittedResources)]).Wf :=
    wf_object (by simp)
  exact wf_object (by simp [hinputs, hdeliverables, hconstraints])

/-- The canonical form has the form of its Goal. -/
theorem GoalSpec.toValue_form (g : GoalSpec) : GoalSpec.Form g.toValue g := by
  have field : ∀ key, g.toValue.get key = List.lookup key _ := fun key => get_object key _
  refine ⟨field "objective", ⟨_, field "inputs", ?_⟩, ⟨_, field "deliverables", ?_⟩,
    _, field "constraints", get_object _ _, get_object _ _, get_object _ _⟩
  · refine List.forall₂_map_left_iff.mpr (List.forall₂_same.mpr fun i _ => ?_)
    exact ⟨get_object _ _, get_object _ _⟩
  · refine List.forall₂_map_left_iff.mpr (List.forall₂_same.mpr fun d _ => ?_)
    exact ⟨get_object _ _, get_object _ _, get_object _ _⟩

theorem HasEntries.isArrayAt {α : Type} {P : Value → α → Prop} {as : List α}
    (h : HasEntries P v name as) : GoalSpec.IsArrayAt v name := by
  obtain ⟨entries, hentries, -⟩ := h
  exact fun w hw => ⟨entries, Option.some.inj (hw.symm.trans hentries)⟩

/-- A Goal is read back from its canonical text. -/
theorem GoalSpec.fromCanonicalJson_toCanonicalText (g : GoalSpec) :
    GoalSpec.fromCanonicalJson g.toValue.toCanonicalText = .ok g :=
  (GoalSpec.fromCanonicalJson_iff (parse_toCanonicalText g.toValue_wf)
    g.toValue_form.inputs.isArrayAt g.toValue_form.deliverables.isArrayAt).mpr g.toValue_form

end Pantheon
