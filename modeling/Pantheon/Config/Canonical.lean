/-
  The canonical value form (`pantheon-core/src/config/canonical.rs`).
  `Value` is the whole value domain of configuration and of every stored document; an object
  is an association list in key order, as the source's ordered map is. `writeCanonical` is
  the one encoding: no blanks, keys in order, one escape form per character. `Value.Wf` says
  what the source's types say: integers are 64-bit and objects are ordered.
-/
import Mathlib.Algebra.Group.Int.Defs
import Mathlib.Data.String.Basic
import Pantheon.Base.SortedAssoc
import Pantheon.Config.Digest

namespace Pantheon

open SortedAssoc

/-- A canonical configuration value. -/
inductive Value where
  | null
  | bool (b : Bool)
  | integer (n : Int)
  | str (text : String)
  | arr (values : List Value)
  | obj (entries : List (String × Value))
  deriving Repr

/-- A 64-bit signed integer. -/
def IsI64 (n : Int) : Prop := -(2 ^ 63) ≤ n ∧ n < 2 ^ 63

instance (n : Int) : Decidable (IsI64 n) := inferInstanceAs (Decidable (_ ∧ _))

/-- `i64::try_from(n).unwrap_or(i64::MAX)`. -/
def saturatedI64 (n : Nat) : Int := min n (2 ^ 63 - 1)

namespace Value

/-- `Value::object`: the pairs as an ordered map. -/
def object (pairs : List (String × Value)) : Value := .obj (ofList pairs)

/-- `Value::get`. -/
def get (v : Value) (key : String) : Option Value :=
  match v with
  | .obj entries => find key entries
  | _ => none

/-- `Value::kind`. -/
def kind : Value → String
  | .null => "null"
  | .bool _ => "boolean"
  | .integer _ => "integer"
  | .str _ => "string"
  | .arr _ => "array"
  | .obj _ => "object"

mutual

/-- What the types of the source guarantee: 64-bit integers and ordered objects. -/
def Wf : Value → Prop
  | .integer n => IsI64 n
  | .arr values => WfValues values
  | .obj entries => Sorted entries ∧ WfEntries entries
  | _ => True

def WfValues : List Value → Prop
  | [] => True
  | v :: vs => v.Wf ∧ WfValues vs

def WfEntries : List (String × Value) → Prop
  | [] => True
  | (_, v) :: es => v.Wf ∧ WfEntries es

end

end Value

/-- The canonical spelling of one character inside a string. -/
def escapeChar (c : Char) : List Char :=
  if c = '"' then ['\\', '"']
  else if c = '\\' then ['\\', '\\']
  else if c = '\n' then ['\\', 'n']
  else if c = '\r' then ['\\', 'r']
  else if c = '\t' then ['\\', 't']
  else if c.toNat < 0x20 then
    '\\' :: 'u' :: [12, 8, 4, 0].map fun shift => hexDigit (c.toNat / 2 ^ shift % 16)
  else [c]

/-- `write_canonical_string`. -/
def writeCanonicalString (text : String) : List Char :=
  '"' :: text.toList.flatMap escapeChar ++ ['"']

namespace Value

mutual

/-- `Value::write_canonical`: the characters it appends. -/
def writeCanonical : Value → List Char
  | .null => "null".toList
  | .bool true => "true".toList
  | .bool false => "false".toList
  | .integer n => (toString n).toList
  | .str text => writeCanonicalString text
  | .arr [] => ['[', ']']
  | .arr (v :: vs) => '[' :: (writeCanonical v ++ writeElements vs)
  | .obj [] => ['{', '}']
  | .obj ((k, v) :: es) =>
    '{' :: (writeCanonicalString k ++ ':' :: (writeCanonical v ++ writeEntries es))

/-- The elements after the first one, and the closing bracket. -/
def writeElements : List Value → List Char
  | [] => [']']
  | v :: vs => ',' :: (writeCanonical v ++ writeElements vs)

/-- The entries after the first one, and the closing brace. -/
def writeEntries : List (String × Value) → List Char
  | [] => ['}']
  | (k, v) :: es =>
    ',' :: (writeCanonicalString k ++ ':' :: (writeCanonical v ++ writeEntries es))

end

/-- The canonical text, which is also how a value is displayed. -/
def toCanonicalText (v : Value) : String := String.ofList v.writeCanonical

/-- `Value::to_canonical_bytes`: the UTF-8 bytes of the canonical text. -/
def toCanonicalBytes (v : Value) : List UInt8 := v.writeCanonical.flatMap String.utf8EncodeChar

theorem toCanonicalBytes_eq_utf8 (v : Value) : v.toCanonicalBytes = utf8 v.toCanonicalText := by
  rw [utf8, toCanonicalText, String.toList_ofList]
  rfl

/-- `Value::digest`. -/
def digest {D : Type} [DigestScheme D] (v : Value) : D :=
  DigestScheme.ofBytes v.toCanonicalBytes

/-! ## Small facts -/

theorem get_object (k : String) (pairs : List (String × Value)) :
    (object pairs).get k = pairs.reverse.lookup k := find_ofList k pairs

/-- Equal values have equal fields. -/
theorem fields_eq {v w : Value} (h : v = w) (key : String) {x y : Value}
    (hx : v.get key = some x) (hy : w.get key = some y) : x = y := by
  rw [h, hy] at hx
  exact (Option.some.inj hx).symm

theorem wfValues_iff {vs : List Value} : WfValues vs ↔ ∀ v ∈ vs, v.Wf := by
  induction vs with
  | nil => simp [WfValues]
  | cons v vs ih => simp [WfValues, ih]

theorem wfEntries_iff {es : List (String × Value)} : WfEntries es ↔ ∀ e ∈ es, e.2.Wf := by
  induction es with
  | nil => simp [WfEntries]
  | cons e es ih => simp [WfEntries, ih]

theorem wf_put {k : String} {v : Value} {es : List (String × Value)} (hv : v.Wf)
    (hes : ∀ e ∈ es, e.2.Wf) : ∀ e ∈ put k v es, e.2.Wf := by
  intro e he
  rcases mem_put he with rfl | he
  · exact hv
  · exact hes e he

/-- An object built from well-formed values is well-formed, whatever the pairs' order. -/
theorem wf_object {pairs : List (String × Value)} (h : ∀ p ∈ pairs, p.2.Wf) :
    (object pairs).Wf := by
  have hall : ∀ (l : List (String × Value)) m, (∀ p ∈ l, p.2.Wf) → (∀ e ∈ m, e.2.Wf) →
      ∀ e ∈ l.foldl (fun m p => put p.1 p.2 m) m, e.2.Wf := by
    intro l
    induction l with
    | nil => exact fun m _ hm => hm
    | cons p l ih =>
      intro m hl hm
      exact ih _ (fun q hq => hl q (List.mem_cons_of_mem _ hq))
        (wf_put (hl p (List.mem_cons_self ..)) hm)
  exact ⟨sorted_ofList pairs, wfEntries_iff.mpr (hall pairs [] h (by simp))⟩

theorem wf_arr {vs : List Value} : (Value.arr vs).Wf ↔ ∀ v ∈ vs, v.Wf := wfValues_iff

@[simp] theorem wf_str (text : String) : (Value.str text).Wf := trivial

@[simp] theorem wf_bool (b : Bool) : (Value.bool b).Wf := trivial

@[simp] theorem wf_null : Value.null.Wf := trivial

theorem wf_strings (values : List String) : (Value.arr (values.map .str)).Wf :=
  wf_arr.mpr fun v hv => by
    obtain ⟨text, -, rfl⟩ := List.mem_map.mp hv
    trivial

theorem isI64_saturated (n : Nat) : IsI64 (saturatedI64 n) := by
  unfold saturatedI64
  exact ⟨by omega, by omega⟩

end Value

end Pantheon
