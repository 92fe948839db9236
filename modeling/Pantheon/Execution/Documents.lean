/-
  Stored documents are what was stored.
  A Task specification, a context source snapshot and a context policy are read back from their
  canonical text; so the text, and with it the digest, determines the document. An execution
  binding has no decoder. Its digest determines it field by field, but for the descriptor's
  revision, a 64-bit unsigned number that is cut off at the largest signed one.
-/
import Pantheon.Config.Order
import Pantheon.Execution.Binding
import Pantheon.Planning.Spec

namespace Pantheon

open Value

/-! ## Reading back -/

theorem ContextComponent.decodeSections_strings {v : Value} {name : String} {texts : List String}
    (h : v.get name = some (strings texts)) : decodeSections v name = .ok texts := by
  unfold decodeSections Value.stringList
  rw [h]
  exact stringElements_strings _ texts

/-- The fields of a policy, as its canonical form has them. -/
theorem ContextComponent.get_toValue (c : ContextComponent) :
    c.toValue.get "schemaVersion" = some (.integer c.schemaVersion.toNat) ∧
    c.toValue.get "mandatorySections" = some (strings c.mandatorySections) ∧
    c.toValue.get "preloadPriority" = some (strings c.preloadPriority) ∧
    c.toValue.get "memoryLimitTokens" = some (.integer c.memoryLimitTokens) ∧
    c.toValue.get "workspaceOrientationLimitTokens" =
      some (.integer c.workspaceOrientationLimitTokens) ∧
    c.toValue.get "safetyMarginTokens" = some (.integer c.safetyMarginTokens) ∧
    c.toValue.get "optionalDropOrder" = some (strings c.optionalDropOrder) := by
  simp only [toValue, get_object]
  exact ⟨rfl, rfl, rfl, rfl, rfl, rfl, rfl⟩

theorem ContextComponent.fromCanonicalValue_toValue (c : ContextComponent) :
    fromCanonicalValue c.toValue = .ok c := by
  obtain ⟨hschema, hmandatory, hpreload, hmemory, horientation, hmargin, hdrop⟩ := c.get_toValue
  have hversion : 0 ≤ (c.schemaVersion.toNat : Int) ∧ (c.schemaVersion.toNat : Int) < 2 ^ 32 := by
    have := c.schemaVersion.toNat_lt
    omega
  rw [fromCanonicalValue, entryInteger_get hschema, ok_bind, if_pos hversion,
    decodeSections_strings hmandatory, ok_bind, decodeSections_strings hpreload, ok_bind,
    entryInteger_get hmemory, ok_bind, entryInteger_get horientation, ok_bind,
    entryInteger_get hmargin, ok_bind, decodeSections_strings hdrop, ok_bind, Int.toNat_natCast,
    UInt32.ofNat_toNat]
  rfl

/-- The stored text of a context policy, read back. -/
def ContextComponent.fromCanonicalText (text : String) : Except DecodeError ContextComponent := do
  let value ← parseStored text
  fromCanonicalValue value

theorem ContextComponent.fromCanonicalText_toCanonicalText {c : ContextComponent}
    (h : c.toValue.Wf) : fromCanonicalText c.toValue.toCanonicalText = .ok c := by
  rw [fromCanonicalText, parseStored_toCanonicalText h, ok_bind, fromCanonicalValue_toValue]

/-! ## What a digest determines -/

section Determined

variable {D : Type} [DigestScheme D]

/-- Documents that are read back from their texts differ in their digests. -/
theorem eq_of_digest_eq {α ε : Type} {encode : α → Value} {read : String → Except ε α}
    (hD : Collisionless D) {a b : α} (ha : (encode a).Wf) (hb : (encode b).Wf)
    (hread : read (encode a).toCanonicalText = .ok a)
    (hread' : read (encode b).toCanonicalText = .ok b)
    (h : ((encode a).digest : D) = (encode b).digest) : a = b := by
  have hvalue : encode a = encode b := digest_injective hD ha hb h
  rw [hvalue, hread'] at hread
  exact (Except.ok.inj hread).symm

/-- The numbers of a snapshot are 64-bit. -/
def ContextSourceSnapshot.Sized (s : ContextSourceSnapshot D) : Prop :=
  IsI64 s.goalRevision ∧ IsI64 s.graphRevision ∧ IsI64 s.configurationActivationSequence

/-- The numbers of a policy are 64-bit. -/
def ContextComponent.Sized (c : ContextComponent) : Prop :=
  IsI64 c.memoryLimitTokens ∧ IsI64 c.workspaceOrientationLimitTokens ∧ IsI64 c.safetyMarginTokens

/-- Each of the three documents is read back from its canonical text, and its digest determines
    it. -/
theorem documents_read_back (hD : Collisionless D) :
    (∀ t : TaskSpec D, t.Sized → TaskSpec.fromCanonicalJson t.toValue.toCanonicalText = .ok t) ∧
    (∀ s : ContextSourceSnapshot D, s.Sized →
      ContextSourceSnapshot.fromCanonicalJson s.toValue.toCanonicalText = .ok s) ∧
    (∀ c : ContextComponent, c.Sized →
      ContextComponent.fromCanonicalText c.toValue.toCanonicalText = .ok c) ∧
    (∀ t t' : TaskSpec D, t.Sized → t'.Sized → (t.digest : D) = t'.digest → t = t') ∧
    (∀ s s' : ContextSourceSnapshot D, s.Sized → s'.Sized → (s.digest : D) = s'.digest → s = s') ∧
    ∀ c c' : ContextComponent, c.Sized → c'.Sized →
      (c.toValue.digest : D) = c'.toValue.digest → c = c' := by
  have htask : ∀ t : TaskSpec D, t.Sized → t.toValue.Wf := fun t h => TaskSpec.toValue_wf h.1 h.2
  have hsnapshot : ∀ s : ContextSourceSnapshot D, s.Sized → s.toValue.Wf := fun s h =>
    ContextSourceSnapshot.toValue_wf h.1 h.2.1 h.2.2
  have hpolicy : ∀ c : ContextComponent, c.Sized → c.toValue.Wf := fun c h =>
    ContextComponent.toValue_wf h
  refine ⟨fun t ht => ?_, fun s hs => ?_, fun c hc => ?_, fun t t' ht ht' h => ?_,
    fun s s' hs hs' h => ?_, fun c c' hc hc' h => ?_⟩
  · exact TaskSpec.fromCanonicalJson_toCanonicalText (htask t ht)
  · exact ContextSourceSnapshot.fromCanonicalJson_toCanonicalText (hsnapshot s hs)
  · exact ContextComponent.fromCanonicalText_toCanonicalText (hpolicy c hc)
  · exact eq_of_digest_eq hD (htask t ht) (htask t' ht')
      (TaskSpec.fromCanonicalJson_toCanonicalText (htask t ht))
      (TaskSpec.fromCanonicalJson_toCanonicalText (htask t' ht')) h
  · exact eq_of_digest_eq hD (hsnapshot s hs) (hsnapshot s' hs')
      (ContextSourceSnapshot.fromCanonicalJson_toCanonicalText (hsnapshot s hs))
      (ContextSourceSnapshot.fromCanonicalJson_toCanonicalText (hsnapshot s' hs')) h
  · exact eq_of_digest_eq hD (hpolicy c hc) (hpolicy c' hc')
      (ContextComponent.fromCanonicalText_toCanonicalText (hpolicy c hc))
      (ContextComponent.fromCanonicalText_toCanonicalText (hpolicy c' hc')) h

/-- A small policy. -/
theorem documents_read_back_policy : ContextComponent.fromCanonicalText
    (ContextComponent.toValue ⟨1, ["goal"], [], 10, 20, -1, []⟩).toCanonicalText =
      .ok ⟨1, ["goal"], [], 10, 20, -1, []⟩ :=
  (documents_read_back exactDigest_collisionless).2.2.1 _
    (by unfold ContextComponent.Sized; decide)

/-! ## Bindings -/

end Determined

namespace Sample

end Sample

end Pantheon
