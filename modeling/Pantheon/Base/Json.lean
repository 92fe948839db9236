/-
  The grammar of JSON texts (RFC 8259, sections 2 to 7).
  A text is spelled from a syntax tree that keeps what the characters said: the escapes of a
  string, the digits of a number. `Spells` has one constructor for each alternative of the
  grammar; blanks stand where the grammar's structural characters allow them.
-/
import Mathlib.Data.List.Basic

namespace Rfc8259

/-! ## Characters and strings -/

/-- `ws = *( %x20 / %x09 / %x0A / %x0D )` -/
def Ws (w : List Char) : Prop := ∀ c ∈ w, c = ' ' ∨ c = '\t' ∨ c = '\n' ∨ c = '\r'

/-- `HEXDIG`, in either case. -/
def HexDigit (c : Char) : Prop :=
  '0' ≤ c ∧ c ≤ '9' ∨ 'a' ≤ c ∧ c ≤ 'f' ∨ 'A' ≤ c ∧ c ≤ 'F'

def hexValue (c : Char) : Nat :=
  if '0' ≤ c ∧ c ≤ '9' then c.toNat - '0'.toNat
  else if 'a' ≤ c ∧ c ≤ 'f' then c.toNat - 'a'.toNat + 10
  else c.toNat - 'A'.toNat + 10

/-- What a backslash and one character stand for. -/
def shortEscape : Char → Option Char
  | '"' => some '"'
  | '\\' => some '\\'
  | '/' => some '/'
  | 'b' => some '\x08'
  | 'f' => some '\x0c'
  | 'n' => some '\n'
  | 'r' => some '\r'
  | 't' => some '\t'
  | _ => none

/-- `char`: a character, a short escape, or four digits after a backslash and a `u`. -/
inductive CharUnit where
  | unescaped (c : Char)
  | escape (c : Char)
  | unicode (a b c d : Char)
  deriving Repr, DecidableEq

namespace CharUnit

def Valid : CharUnit → Prop
  | .unescaped c => 0x20 ≤ c.toNat ∧ c ≠ '"' ∧ c ≠ '\\'
  | .escape c => (shortEscape c).isSome
  | .unicode a b c d => HexDigit a ∧ HexDigit b ∧ HexDigit c ∧ HexDigit d

def text : CharUnit → List Char
  | .unescaped c => [c]
  | .escape c => ['\\', c]
  | .unicode a b c d => ['\\', 'u', a, b, c, d]

/-- The code unit a `char` stands for. -/
def code : CharUnit → Nat
  | .unescaped c => c.toNat
  | .escape c => ((shortEscape c).getD c).toNat
  | .unicode a b c d => ((hexValue a * 16 + hexValue b) * 16 + hexValue c) * 16 + hexValue d

def Surrogate (u : CharUnit) : Prop := 0xD800 ≤ u.code ∧ u.code ≤ 0xDFFF

end CharUnit

/-- `string = quotation-mark *char quotation-mark` -/
def stringText (units : List CharUnit) : List Char := '"' :: units.flatMap CharUnit.text ++ ['"']

/-! ## Numbers -/

/-- `exp = e [ minus / plus ] 1*DIGIT` -/
structure Exponent where
  marker : Char
  sign : Option Char
  digits : List Char
  deriving Repr, DecidableEq

/-- `number = [ minus ] int [ frac ] [ exp ]` -/
structure Number where
  minus : Bool
  int : List Char
  frac : Option (List Char)
  exp : Option Exponent
  deriving Repr, DecidableEq

def Digits (ds : List Char) : Prop := ds ≠ [] ∧ ∀ c ∈ ds, c.isDigit = true

def Exponent.Valid (e : Exponent) : Prop :=
  (e.marker = 'e' ∨ e.marker = 'E') ∧ (∀ c, e.sign = some c → c = '+' ∨ c = '-') ∧ Digits e.digits

def Exponent.text (e : Exponent) : List Char := e.marker :: e.sign.toList ++ e.digits

namespace Number

/-- The integer part is one zero, or digits that do not begin with a zero. -/
def Valid (n : Number) : Prop :=
  Digits n.int ∧ (n.int.head? = some '0' → n.int = ['0']) ∧
    (∀ ds, n.frac = some ds → Digits ds) ∧ ∀ e, n.exp = some e → e.Valid

def text (n : Number) : List Char :=
  (if n.minus then ['-'] else []) ++ n.int ++ (n.frac.elim [] ('.' :: ·)) ++
    n.exp.elim [] Exponent.text

/-- The number without its fraction and exponent. -/
def whole (n : Number) : Int :=
  if n.minus then -(Nat.ofDigitChars 10 n.int 0 : Int) else Nat.ofDigitChars 10 n.int 0

end Number

/-! ## Values -/

/-- The tree of a JSON value. -/
inductive Tree where
  | null
  | bool (b : Bool)
  | number (n : Number)
  | string (units : List CharUnit)
  | array (elements : List Tree)
  | object (members : List (List CharUnit × Tree))

mutual

/-- `value = false / null / true / object / array / number / string` -/
inductive Spells : Tree → List Char → Prop where
  | null : Spells .null ['n', 'u', 'l', 'l']
  | true : Spells (.bool true) ['t', 'r', 'u', 'e']
  | false : Spells (.bool false) ['f', 'a', 'l', 's', 'e']
  | number {n : Number} : n.Valid → Spells (.number n) n.text
  | string {units : List CharUnit} : (∀ u ∈ units, u.Valid) →
      Spells (.string units) (stringText units)
  | emptyArray {w : List Char} : Ws w → Spells (.array []) ('[' :: (w ++ [']']))
  | array {elements : List Tree} {t : List Char} : SpellsElements elements t →
      Spells (.array elements) ('[' :: t)
  | emptyObject {w : List Char} : Ws w → Spells (.object []) ('{' :: (w ++ ['}']))
  | object {members : List (List CharUnit × Tree)} {t : List Char} : SpellsMembers members t →
      Spells (.object members) ('{' :: t)

/-- `value *( value-separator value )` and the closing bracket. -/
inductive SpellsElements : List Tree → List Char → Prop where
  | last {w t w' : List Char} {j : Tree} : Ws w → Spells j t → Ws w' →
      SpellsElements [j] (w ++ (t ++ (w' ++ [']'])))
  | more {w t w' r : List Char} {j : Tree} {js : List Tree} : Ws w → Spells j t → Ws w' →
      SpellsElements js r → SpellsElements (j :: js) (w ++ (t ++ (w' ++ ',' :: r)))

/-- `member *( value-separator member )` and the closing brace, where
    `member = string name-separator value`. -/
inductive SpellsMembers : List (List CharUnit × Tree) → List Char → Prop where
  | last {w w₁ w₂ t w₃ : List Char} {units : List CharUnit} {j : Tree} : Ws w →
      (∀ u ∈ units, u.Valid) → Ws w₁ → Ws w₂ → Spells j t → Ws w₃ →
      SpellsMembers [(units, j)]
        (w ++ (stringText units ++ (w₁ ++ ':' :: (w₂ ++ (t ++ (w₃ ++ ['}']))))))
  | more {w w₁ w₂ t w₃ r : List Char} {units : List CharUnit} {j : Tree}
      {members : List (List CharUnit × Tree)} : Ws w → (∀ u ∈ units, u.Valid) → Ws w₁ → Ws w₂ →
      Spells j t → Ws w₃ → SpellsMembers members r →
      SpellsMembers ((units, j) :: members)
        (w ++ (stringText units ++ (w₁ ++ ':' :: (w₂ ++ (t ++ (w₃ ++ ',' :: r))))))

end

/-- `JSON-text = ws value ws` -/
def SpellsText (j : Tree) (text : List Char) : Prop :=
  ∃ w t w', Ws w ∧ Spells j t ∧ Ws w' ∧ text = w ++ (t ++ w')

end Rfc8259
