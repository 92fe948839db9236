/-
  Evaluator references as planning resolves them (`pantheon-core/src/planning/evaluators.rs`).
  Planning does not use the compiled evaluator component but reads its stored text again, and only
  the table of references. For the text of a compiled component the two agree. The reader never
  refuses a text that parses: it drops an entry it cannot read and takes a missing table for an
  empty one, so `registry_agrees` speaks of texts whose table is complete.
-/
import Pantheon.Config.Declared

namespace Pantheon

open Value

/-- The references of a stored evaluators component, with their current versions. -/
structure RegistryResolver where
  entries : List (String × String)
  deriving Repr, DecidableEq

variable {r : RegistryResolver} {reference version : String}

namespace RegistryResolver

/-- A reference and its version, where an entry has both. -/
def declaredRef (entry : Value) : Option (String × String) :=
  match entry.get "ref", entry.get "currentVersion" with
  | some (.str reference), some (.str version) => some (reference, version)
  | _, _ => none

/-- `RegistryResolver::from_canonical_json`. Entries that are not complete are passed over. -/
def fromCanonicalJson (text : String) : Except ParseError RegistryResolver := do
  let value ← parse text
  match value.get "refs" with
  | some (.arr refs) => return ⟨refs.filterMap declaredRef⟩
  | _ => return ⟨[]⟩

/-- `RegistryResolver::resolve`. -/
def resolve (r : RegistryResolver) (reference : String) : Option String :=
  (r.entries.find? fun e => e.1 == reference).map Prod.snd

/-- What an entry of the table declares. -/
def Declares (entry : Value) (declared : String × String) : Prop :=
  entry.get "ref" = some (.str declared.1) ∧ entry.get "currentVersion" = some (.str declared.2)

theorem declaredRef_iff {entry : Value} {declared : String × String} :
    declaredRef entry = some declared ↔ Declares entry declared := by
  obtain ⟨reference, version⟩ := declared
  unfold declaredRef Declares
  split
  · rename_i r v hr hv
    rw [hr, hv]
    simp
  · rename_i hnone
    constructor
    · intro h
      cases h
    · rintro ⟨hr, hv⟩
      exact absurd hv (hnone _ _ hr)

end RegistryResolver

theorem fromCanonicalJson_component {c : EvaluatorComponent} (h : c.toValue.Wf) :
    RegistryResolver.fromCanonicalJson c.toValue.toCanonicalText =
      .ok ⟨c.refs.map fun r => (r.reference, r.currentVersion)⟩ := by
  have hrefs : c.toValue.get "refs" = some (.arr (c.refs.map fun r =>
      object [("ref", .str r.reference), ("currentVersion", .str r.currentVersion)])) := by
    simp only [EvaluatorComponent.toValue, get_object]
    rfl
  rw [RegistryResolver.fromCanonicalJson, parse_toCanonicalText h, ok_bind, hrefs]
  dsimp only
  rw [List.filterMap_map]
  refine pure_eq_ok.mpr (congrArg RegistryResolver.mk ?_)
  rw [← List.filterMap_eq_map]
  refine List.filterMap_congr fun r _ => RegistryResolver.declaredRef_iff.mpr ⟨?_, ?_⟩
  · simp only [get_object]
    rfl
  · simp only [get_object]
    rfl

namespace Sample

end Sample

end Pantheon
