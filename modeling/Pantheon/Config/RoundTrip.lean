/-
  The canonical encoding read back (`canonical.rs` and `parse.rs` together).
  The canonical text of a well-formed value spells a restricted JSON tree of that value, so the
  parser, which reads every restricted JSON text, inverts the encoding. Hence the encoding is
  injective, and with a hash without collisions so is the digest.
-/
import Pantheon.Config.Grammar

namespace Pantheon

open Rfc8259 SortedAssoc

/-! ## Characters and strings -/

/-- The JSON character of one canonical character. -/
def canonicalUnit (c : Char) : CharUnit :=
  if c = '"' then .escape '"'
  else if c = '\\' then .escape '\\'
  else if c = '\n' then .escape 'n'
  else if c = '\r' then .escape 'r'
  else if c = '\t' then .escape 't'
  else if c.toNat < 0x20 then
    .unicode (hexDigit (c.toNat / 2 ^ 12 % 16)) (hexDigit (c.toNat / 2 ^ 8 % 16))
      (hexDigit (c.toNat / 2 ^ 4 % 16)) (hexDigit (c.toNat / 2 ^ 0 % 16))
  else .unescaped c

theorem hexDigit_value : ∀ n < 16, HexDigit (hexDigit n) ∧ hexValue (hexDigit n) = n := by
  intro n hn
  exact Parser.hexNibble_hexDigit_iff.mp (hexNibble_hexDigit n hn)

/-- The canonical spelling of a character is a valid JSON character that stands for it. -/
theorem canonicalUnit_spells (c : Char) : (canonicalUnit c).Valid ∧
    (canonicalUnit c).text = escapeChar c ∧ (canonicalUnit c).code = c.toNat := by
  unfold canonicalUnit escapeChar
  split_ifs with hquote hslash hnewline hreturn htab hcontrol
  · subst hquote
    exact ⟨rfl, rfl, rfl⟩
  · subst hslash
    exact ⟨rfl, rfl, rfl⟩
  · subst hnewline
    exact ⟨rfl, rfl, rfl⟩
  · subst hreturn
    exact ⟨rfl, rfl, rfl⟩
  · subst htab
    exact ⟨rfl, rfl, rfl⟩
  · have hdigit : ∀ n, HexDigit (hexDigit (n % 16)) ∧ hexValue (hexDigit (n % 16)) = n % 16 :=
      fun n => hexDigit_value (n % 16) (Nat.mod_lt _ (by decide))
    refine ⟨⟨(hdigit _).1, (hdigit _).1, (hdigit _).1, (hdigit _).1⟩, rfl, ?_⟩
    simp only [CharUnit.code, (hdigit _).2]
    omega
  · exact ⟨⟨Nat.not_lt.mp hcontrol, hquote, hslash⟩, rfl, rfl⟩

theorem canonicalUnits_spell (text : String) :
    (∀ u ∈ text.toList.map canonicalUnit, u.Valid) ∧
      (∀ u ∈ text.toList.map canonicalUnit, ¬u.Surrogate) ∧
      stringText (text.toList.map canonicalUnit) = writeCanonicalString text ∧
      unitsText (text.toList.map canonicalUnit) = text := by
  refine ⟨?_, ?_, ?_, ?_⟩
  · intro u hu
    obtain ⟨c, -, rfl⟩ := List.mem_map.mp hu
    exact (canonicalUnit_spells c).1
  · intro u hu
    obtain ⟨c, -, rfl⟩ := List.mem_map.mp hu
    rw [CharUnit.Surrogate, (canonicalUnit_spells c).2.2]
    exact Parser.char_not_surrogate c
  · have htext : CharUnit.text ∘ canonicalUnit = escapeChar :=
      funext fun c => (canonicalUnit_spells c).2.1
    simp only [stringText, writeCanonicalString, List.flatMap_map]
    rw [show (fun c => (canonicalUnit c).text) = escapeChar from htext]
  · have hchar : unitChar ∘ canonicalUnit = id := funext fun c => by
      simp only [Function.comp, unitChar, (canonicalUnit_spells c).2.2, Char.ofNat_toNat, id]
    simp [unitsText, hchar]

/-! ## Integers -/

theorem toDigits_head {n : Nat} (h : 0 < n) : (Nat.toDigits 10 n).head? ≠ some '0' := by
  induction n using Nat.strongRecOn with
  | ind n ih =>
    by_cases hn : n < 10
    · rw [Nat.toDigits_of_lt_base hn]
      have hdigits : ∀ m < 10, 0 < m → [m.digitChar].head? ≠ some '0' := by decide
      exact hdigits n hn h
    · rw [Nat.toDigits_of_base_le (by decide) (by omega)]
      have hq := ih (n / 10) (by omega) (by omega)
      cases hd : Nat.toDigits 10 (n / 10) with
      | nil => exact absurd hd Nat.toDigits_ne_nil
      | cons d ds =>
        rw [hd] at hq
        simpa using hq

/-- The digits of a number have no leading zero, and read back as the number. -/
theorem toDigits_spell (n : Nat) : Digits (Nat.toDigits 10 n) ∧
    ((Nat.toDigits 10 n).head? = some '0' → Nat.toDigits 10 n = ['0']) ∧
    Nat.ofDigitChars 10 (Nat.toDigits 10 n) 0 = n := by
  refine ⟨⟨Nat.toDigits_ne_nil, fun c hc => ?_⟩, fun hzero => ?_, Nat.ofDigitChars_ten_toDigits⟩
  · exact Nat.isDigit_of_mem_toDigits (by decide) (by decide) hc
  · by_cases h : 0 < n
    · exact absurd hzero (toDigits_head h)
    · rw [show n = 0 by omega]
      rfl

/-- The canonical spelling of an integer. -/
theorem integer_spells (n : Int) : ∃ number : Number, number.Valid ∧ number.frac = none ∧
    number.exp = none ∧ number.text = (toString n).toList ∧ number.whole = n := by
  rw [Int.toString_eq_repr, Int.repr_eq_if]
  split
  · obtain ⟨hdigits, hzero, hvalue⟩ := toDigits_spell n.toNat
    refine ⟨⟨false, Nat.toDigits 10 n.toNat, none, none⟩, ⟨hdigits, hzero, by simp, by simp⟩, rfl,
      rfl, by simp [Number.text], ?_⟩
    simp only [Number.whole, hvalue, Bool.false_eq_true, if_false]
    omega
  · obtain ⟨hdigits, hzero, hvalue⟩ := toDigits_spell (-n).toNat
    refine ⟨⟨true, Nat.toDigits 10 (-n).toNat, none, none⟩, ⟨hdigits, hzero, by simp, by simp⟩, rfl,
      rfl, by simp [Number.text], ?_⟩
    simp only [Number.whole, hvalue, if_true]
    omega

/-! ## Values -/

namespace Value

theorem ws_nil : Ws [] := by simp [Ws]

theorem memberKeys_entries (members : List (List CharUnit × Tree)) :
    memberKeys members = (treeEntries members).map Prod.fst := by
  induction members with
  | nil => rfl
  | cons m members ih => exact congrArg _ ih

mutual

/-- The canonical text of a well-formed value spells a restricted tree of it. -/
theorem writeCanonical_spells : ∀ v : Value, v.Wf →
    ∃ j, Spells j v.writeCanonical ∧ Restricted j ∧ treeValue j = v
  | .null, _ => ⟨.null, .null, trivial, rfl⟩
  | .bool true, _ => ⟨.bool true, .true, trivial, rfl⟩
  | .bool false, _ => ⟨.bool false, .false, trivial, rfl⟩
  | .integer n, hv => by
    obtain ⟨number, hvalid, hfrac, hexp, htext, rfl⟩ := integer_spells n
    exact ⟨.number number, by rw [writeCanonical, ← htext]; exact .number hvalid,
      ⟨hfrac, hexp, hv⟩, rfl⟩
  | .str text, _ => by
    obtain ⟨hvalid, hs, htext, hunits⟩ := canonicalUnits_spell text
    exact ⟨.string (text.toList.map canonicalUnit),
      by rw [writeCanonical, ← htext]; exact .string hvalid, hs, congrArg Value.str hunits⟩
  | .arr [], _ => ⟨.array [], .emptyArray ws_nil, trivial, rfl⟩
  | .arr (v :: vs), hv => by
    obtain ⟨j, hj, hrestricted, rfl⟩ := writeCanonical_spells v hv.1
    obtain ⟨js, hjs, hrest, hvalues⟩ := writeElements_spells j vs hj hv.2
    exact ⟨.array (j :: js), .array hjs, ⟨hrestricted, hrest⟩, by
      rw [treeValue, treeValues, hvalues]⟩
  | .obj [], _ => ⟨.object [], .emptyObject ws_nil, ⟨List.nodup_nil, trivial⟩, rfl⟩
  | .obj ((k, v) :: es), hv => by
    obtain ⟨j, hj, hrestricted, hvalue⟩ := writeCanonical_spells v hv.2.1
    obtain ⟨members, hm, hrest, hentries⟩ := writeEntries_spells k j es hj hv.2.2
    obtain ⟨hvalid, hs, htext, hunits⟩ := canonicalUnits_spell k
    have hall : treeEntries ((k.toList.map canonicalUnit, j) :: members) = (k, v) :: es := by
      rw [treeEntries, hunits, hvalue, hentries]
    have hkeys : memberKeys ((k.toList.map canonicalUnit, j) :: members) = ((k, v) :: es).map Prod.fst := by
      rw [← hall]
      exact memberKeys_entries _
    refine ⟨.object ((k.toList.map canonicalUnit, j) :: members), .object hm,
      ⟨hkeys ▸ sorted_nodup hv.1, hs, hrestricted, hrest⟩, ?_⟩
    rw [treeValue, hall, ofList_sorted hv.1]

theorem writeElements_spells (j : Tree) : ∀ (vs : List Value) {t : List Char}, Spells j t →
    WfValues vs → ∃ js, SpellsElements (j :: js) (t ++ writeElements vs) ∧
      RestrictedElements js ∧ treeValues js = vs
  | [], t, hj, _ => ⟨[], by simpa [writeElements] using SpellsElements.last ws_nil hj ws_nil, trivial, rfl⟩
  | v :: vs, t, hj, hv => by
    obtain ⟨j', hj', hrestricted, rfl⟩ := writeCanonical_spells v hv.1
    obtain ⟨js, hjs, hrest, hvalues⟩ := writeElements_spells j' vs hj' hv.2
    exact ⟨j' :: js, by simpa [writeElements] using SpellsElements.more ws_nil hj ws_nil hjs,
      ⟨hrestricted, hrest⟩, by rw [treeValues, hvalues]⟩

theorem writeEntries_spells (k : String) (j : Tree) : ∀ (es : List (String × Value)) {t : List Char},
    Spells j t → WfEntries es → ∃ members,
      SpellsMembers ((k.toList.map canonicalUnit, j) :: members)
        (writeCanonicalString k ++ ':' :: (t ++ writeEntries es)) ∧
      RestrictedMembers members ∧ treeEntries members = es
  | [], t, hj, _ => by
    obtain ⟨hvalid, -, htext, -⟩ := canonicalUnits_spell k
    refine ⟨[], ?_, trivial, rfl⟩
    rw [← htext]
    simpa [writeEntries] using SpellsMembers.last ws_nil hvalid ws_nil ws_nil hj ws_nil
  | (k', v) :: es, t, hj, hv => by
    obtain ⟨hvalid, -, htext, -⟩ := canonicalUnits_spell k
    obtain ⟨-, hs', -, hunits'⟩ := canonicalUnits_spell k'
    obtain ⟨j', hj', hrestricted, hvalue⟩ := writeCanonical_spells v hv.1
    obtain ⟨members, hm, hrest, hentries⟩ := writeEntries_spells k' j' es hj' hv.2
    refine ⟨(k'.toList.map canonicalUnit, j') :: members, ?_, ⟨hs', hrestricted, hrest⟩, ?_⟩
    · rw [← htext]
      simpa [writeEntries] using SpellsMembers.more ws_nil hvalid ws_nil ws_nil hj ws_nil hm
    · rw [treeEntries, hunits', hvalue, hentries]

end

end Value

/-- The parser inverts the canonical encoding. -/
theorem parse_toCanonicalText {v : Value} (hv : v.Wf) : parse v.toCanonicalText = .ok v := by
  obtain ⟨j, hj, hrestricted, rfl⟩ := Value.writeCanonical_spells v hv
  refine parse_complete ⟨[], _, [], Value.ws_nil, hj, Value.ws_nil, ?_⟩ hrestricted
  simp [Value.toCanonicalText]

theorem toCanonicalText_injective {v w : Value} (hv : v.Wf) (hw : w.Wf)
    (h : v.toCanonicalText = w.toCanonicalText) : v = w := by
  have hp := parse_toCanonicalText hv
  rw [h, parse_toCanonicalText hw] at hp
  exact (Except.ok.inj hp).symm

/-- Objects with the same text begin with the same key, whatever their values are. -/
theorem toCanonicalText_key {k k' : String} {v v' : Value} {es es' : List (String × Value)}
    (h : (Value.obj ((k, v) :: es)).toCanonicalText =
      (Value.obj ((k', v') :: es')).toCanonicalText) : k = k' := by
  have hchars := congrArg String.toList h
  simp only [Value.toCanonicalText, String.toList_ofList, Value.writeCanonical,
    List.cons.injEq, true_and] at hchars
  have hread : ∀ (key : String) (rest : List Char), ∃ o,
      Parser.string ⟨writeCanonicalString key ++ rest, 0⟩ = .ok (key, ⟨rest, o⟩) := by
    intro key rest
    obtain ⟨hvalid, hs, htext, hunits⟩ := canonicalUnits_spell key
    obtain ⟨o, hstring⟩ := Parser.string_complete hvalid hs rest 0
    rw [htext, hunits] at hstring
    exact ⟨o, hstring⟩
  obtain ⟨o, hk⟩ := hread k (':' :: (v.writeCanonical ++ Value.writeEntries es))
  obtain ⟨o', hk'⟩ := hread k' (':' :: (v'.writeCanonical ++ Value.writeEntries es'))
  rw [hchars, hk'] at hk
  exact (Prod.mk.inj (Except.ok.inj hk)).1.symm

/-- With a hash without collisions, equal digests are equal values. -/
theorem digest_injective {D : Type} [DigestScheme D] (hD : Collisionless D) {v w : Value}
    (hv : v.Wf) (hw : w.Wf) (h : (v.digest : D) = w.digest) : v = w := by
  have hbytes : v.toCanonicalBytes = w.toCanonicalBytes := hD h
  rw [Value.toCanonicalBytes_eq_utf8, Value.toCanonicalBytes_eq_utf8] at hbytes
  exact toCanonicalText_injective hv hw (utf8_injective hbytes)

/-- The canonical encoding round-trips: a value is read back from its text, so text and digest
    determine it, and what any text is parsed to is read back from its own canonical text. -/
theorem canonical_encoding_faithful {D : Type} [DigestScheme D] (hD : Collisionless D) :
    (∀ v : Value, v.Wf → parse v.toCanonicalText = .ok v) ∧
    (∀ v w : Value, v.Wf → w.Wf → v.toCanonicalBytes = w.toCanonicalBytes → v = w) ∧
    (∀ v w : Value, v.Wf → w.Wf → (v.digest : D) = w.digest → v = w) ∧
    ∀ source v, parse source = .ok v → parse v.toCanonicalText = .ok v := by
  refine ⟨fun v hv => parse_toCanonicalText hv, fun v w hv hw hbytes => ?_,
    fun v w hv hw hdigest => digest_injective hD hv hw hdigest,
    fun source v hsource => parse_toCanonicalText (parse_wf hsource)⟩
  rw [Value.toCanonicalBytes_eq_utf8, Value.toCanonicalBytes_eq_utf8] at hbytes
  exact toCanonicalText_injective hv hw (utf8_injective hbytes)

theorem canonical_encoding_faithful_exact : Collisionless ExactDigest ∧
    parse (Value.object [("b", .integer (-1)), ("a", .arr [.str "\n", .null])]).toCanonicalText =
      .ok (Value.object [("b", .integer (-1)), ("a", .arr [.str "\n", .null])]) := by
  refine ⟨exactDigest_collisionless, ?_⟩
  refine (canonical_encoding_faithful (D := ExactDigest) exactDigest_collisionless).1 _ ?_
  exact Value.wf_object (by simp [Value.Wf, Value.WfValues, IsI64])

end Pantheon
