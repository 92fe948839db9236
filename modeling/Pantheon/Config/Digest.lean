/-
  Content digests (`pantheon-core/src/config/digest.rs`).
  SHA-256 itself comes from a third-party crate, so the digest type is a parameter `D` with
  a `DigestScheme`: the hash, the bytes of a digest and how bytes become a digest again.
  The text form `sha256:<hex>` and its decoder are the source's own and are defined here
  over any scheme; `fromDisplay_toDisplay` is their round trip. Collision freedom is not
  part of a scheme: results that need it take `Collisionless` as a hypothesis.
-/
import Mathlib.Data.String.Basic

namespace Pantheon

/-- A digest type with its hash function. `fromBytes` is the length check that rebuilds a
    digest from stored bytes. -/
class DigestScheme (D : Type) where
  /-- `Digest::of`. -/
  ofBytes : List UInt8 → D
  asBytes : D → List UInt8
  fromBytes : List UInt8 → Option D
  fromBytes_asBytes : ∀ d, fromBytes (asBytes d) = some d

/-- The hash has no collisions. -/
def Collisionless (D : Type) [DigestScheme D] : Prop :=
  Function.Injective (DigestScheme.ofBytes : List UInt8 → D)

/-- The UTF-8 bytes of a text. -/
def utf8 (text : String) : List UInt8 := text.toList.flatMap String.utf8EncodeChar

theorem utf8_injective : Function.Injective utf8 := by
  intro s t h
  have hb : s.toList.utf8Encode = t.toList.utf8Encode := by
    simp only [List.utf8Encode]
    exact congrArg List.toByteArray h
  rw [String.utf8Encode_toList, String.utf8Encode_toList] at hb
  exact String.toByteArray_inj.mp hb

/-! ## Hexadecimal -/

/-- The lowercase digit of a nibble. -/
def hexDigit (n : Nat) : Char := n.digitChar

/-- The value of a hexadecimal digit, either case. -/
def hexNibble (c : Char) : Option Nat :=
  if '0' ≤ c ∧ c ≤ '9' then some (c.toNat - '0'.toNat)
  else if 'a' ≤ c ∧ c ≤ 'f' then some (c.toNat - 'a'.toNat + 10)
  else if 'A' ≤ c ∧ c ≤ 'F' then some (c.toNat - 'A'.toNat + 10)
  else none

/-- Two lowercase digits for each byte. -/
def toHex (bytes : List UInt8) : List Char :=
  bytes.flatMap fun b => [hexDigit (b.toNat / 16), hexDigit (b.toNat % 16)]

/-- Reads digit pairs; an odd digit or a non-digit is refused. -/
def fromHex : List Char → Option (List UInt8)
  | [] => some []
  | [_] => none
  | high :: low :: rest => do
    let h ← hexNibble high
    let l ← hexNibble low
    let bytes ← fromHex rest
    some (UInt8.ofNat (h * 16 + l) :: bytes)

theorem hexNibble_hexDigit : ∀ n < 16, hexNibble (hexDigit n) = some n := by decide

theorem fromHex_toHex (bytes : List UInt8) : fromHex (toHex bytes) = some bytes := by
  induction bytes with
  | nil => rfl
  | cons b bytes ih =>
    have hb : b.toNat < 256 := b.toNat_lt
    have hh : hexNibble (hexDigit (b.toNat / 16)) = some (b.toNat / 16) :=
      hexNibble_hexDigit _ (by omega)
    have hl : hexNibble (hexDigit (b.toNat % 16)) = some (b.toNat % 16) :=
      hexNibble_hexDigit _ (Nat.mod_lt _ (by decide))
    have hsum : UInt8.ofNat (b.toNat / 16 * 16 + b.toNat % 16) = b := by
      rw [show b.toNat / 16 * 16 + b.toNat % 16 = b.toNat by omega]
      exact UInt8.ofNat_toNat
    change fromHex (_ :: _ :: toHex bytes) = _
    simp only [fromHex, hh, hl, ih, Option.bind_eq_bind, Option.bind_some, hsum]

/-! ## The display form -/

section Display

variable {D : Type} [DigestScheme D]

/-- `sha256:<hex>`. -/
def toDisplay (d : D) : String :=
  String.ofList ("sha256:".toList ++ toHex (DigestScheme.asBytes d))

/-- `Digest::from_display`. -/
def fromDisplay (text : String) : Option D :=
  if "sha256:".toList.isPrefixOf text.toList then
    (fromHex (text.toList.drop 7)).bind DigestScheme.fromBytes
  else none

/-- The derived `{:?}` form, which lists the bytes. -/
def debugDigest (d : D) : String :=
  "Digest([" ++ ", ".intercalate ((DigestScheme.asBytes d).map toString) ++ "])"

theorem fromDisplay_toDisplay (d : D) : fromDisplay (toDisplay d) = some d := by
  have hlist : (toDisplay d).toList = "sha256:".toList ++ toHex (DigestScheme.asBytes d)  :=
    String.toList_ofList
  have hdrop : (toDisplay d).toList.drop 7 = toHex (DigestScheme.asBytes d) :=
    hlist ▸ rfl
  have hprefix : "sha256:".toList.isPrefixOf (toDisplay d).toList = true := by
    rw [hlist, List.isPrefixOf_iff_prefix]
    exact List.prefix_append _ _
  rw [fromDisplay, if_pos hprefix, hdrop, fromHex_toHex]
  exact DigestScheme.fromBytes_asBytes d

theorem toDisplay_injective : Function.Injective (toDisplay : D → String) := by
  intro a b h
  have h' := congrArg (fromDisplay (D := D)) h
  rw [fromDisplay_toDisplay, fromDisplay_toDisplay] at h'
  exact Option.some.inj h'

end Display

/-- A digest that keeps the first thirty-two bytes, last first, so that the bytes an identifier
    is cut from differ. It is cheap to evaluate, for concrete runs. -/
structure PrefixDigest where
  bytes : List UInt8
  deriving Repr, DecidableEq

instance : DigestScheme PrefixDigest where
  ofBytes bytes := ⟨(bytes.take 32).reverse⟩
  asBytes d := d.bytes
  fromBytes bytes := some ⟨bytes⟩
  fromBytes_asBytes _ := rfl

/-- A digest that is the bytes themselves: a hash without collisions, for concrete runs. -/
structure ExactDigest where
  bytes : List UInt8
  deriving Repr, DecidableEq

instance : DigestScheme ExactDigest where
  ofBytes bytes := ⟨bytes⟩
  asBytes d := d.bytes
  fromBytes bytes := some ⟨bytes⟩
  fromBytes_asBytes _ := rfl

theorem exactDigest_collisionless : Collisionless ExactDigest :=
  fun _ _ h => ExactDigest.mk.inj h

end Pantheon
