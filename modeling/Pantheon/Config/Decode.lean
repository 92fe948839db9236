/-
  Reading typed documents back from canonical text.
  Every stored document is decoded by the same few field readers (`entry_string`,
  `entry_integer` and the closures of the `from_canonical_json` functions); they are defined
  once here, with the error texts the source gives them.
-/
import Mathlib.Data.List.Forall2
import Pantheon.Config.RoundTrip

namespace Pantheon

/-- One character of a `{:?}` text between the given quotes. Characters the source's standard
    library escapes for being unprintable outside ASCII are kept as they are. -/
def debugChar (quote : Char) (c : Char) : List Char :=
  if c = quote then ['\\', quote]
  else if c = '\\' then ['\\', '\\']
  else if c = '\n' then ['\\', 'n']
  else if c = '\r' then ['\\', 'r']
  else if c = '\t' then ['\\', 't']
  else if c.toNat = 0 then ['\\', '0']
  else if c.toNat < 0x20 ∨ c.toNat = 0x7f then
    ['\\', 'u', '{'] ++ Nat.toDigits 16 c.toNat ++ ['}']
  else [c]

/-- The `{:?}` form of a text. -/
def debugText (text : String) : String :=
  String.ofList ('"' :: text.toList.flatMap (debugChar '"') ++ ['"'])

/-- The `{:?}` form of the byte a character starts with, read as a character. -/
def debugByte (c : Char) : String :=
  let quote := Char.ofNat 39
  String.ofList (quote :: ((String.utf8EncodeChar c).take 1).flatMap
    (fun b => debugChar quote (Char.ofNat b.toNat)) ++ [quote])

/-- The message of a parse error. -/
def ParseProblem.text : ParseProblem → String
  | .trailingContent => "trailing content after the top-level value"
  | .expectedByte c => s!"expected {debugByte c}"
  | .expectedWord word => s!"expected {word}"
  | .unexpectedEnd => "unexpected end of source"
  | .unexpectedByte c => s!"unexpected byte {debugByte c}"
  | .expectedDigit => "expected a digit"
  | .fractionalNumber => "fractional and exponent numbers are not valid configuration values"
  | .leadingZeros => "numbers may not have leading zeros"
  | .integerOutOfRange => "integer out of range"
  | .unterminatedString => "unterminated string"
  | .unterminatedEscape => "unterminated escape"
  | .unknownEscape c => s!"unknown escape {debugByte c}"
  | .unescapedControl => "unescaped control character in string"
  | .truncatedUnicodeEscape => "truncated \\u escape"
  | .invalidUtf8InUnicodeEscape => "invalid utf-8 in \\u escape"
  | .invalidUnicodeEscape => "invalid \\u escape"
  | .notAScalarValue => "\\u escape is not a scalar value"
  | .expectedCommaOrBracket => "expected ',' or ']'"
  | .expectedCommaOrBrace => "expected ',' or '\x7d'"
  | .duplicateKey key => s!"duplicate key {debugText key}"
  | .outOfFuel => "out of fuel"

def ParseError.display (e : ParseError) : String :=
  s!"malformed configuration source at byte {e.offset}: {e.detail.text}"

/-- Why a stored document is not readable: its text does not parse, or a field is wrong. -/
inductive DecodeError where
  | text (error : ParseError)
  | field (detail : String)
  deriving Repr, DecidableEq

def DecodeError.display : DecodeError → String
  | .text e => e.display
  | .field detail => detail

/-- The message of a stored document's decode error. -/
def DecodeError.message (document : String) (e : DecodeError) : String :=
  s!"stored {document} is not readable: {e.display}"

namespace Value

def strings (values : List String) : Value := .arr (values.map .str)

/-- `entry_string`. -/
def entryString (v : Value) (name : String) : Except DecodeError String :=
  match v.get name with
  | some (.str text) => .ok text
  | some other => .error (.field s!"{name} is not a string (found {other.kind})")
  | none => .error (.field s!"missing {name}")

/-- `entry_integer`. -/
def entryInteger (v : Value) (name : String) : Except DecodeError Int :=
  match v.get name with
  | some (.integer n) => .ok n
  | some other => .error (.field s!"{name} is not an integer (found {other.kind})")
  | none => .error (.field s!"missing {name}")

/-- A list of texts; `wrong` is the error of an element that is not a text. -/
def stringElements (wrong : Value → String) : List Value → Except DecodeError (List String)
  | [] => .ok []
  | .str text :: vs => do
    let rest ← stringElements wrong vs
    return text :: rest
  | other :: _ => .error (.field (wrong other))

/-- A required list of texts. -/
def stringList (v : Value) (name : String) (missing : String) (wrong : Value → String) :
    Except DecodeError (List String) :=
  match v.get name with
  | some (.arr entries) => stringElements wrong entries
  | _ => .error (.field missing)

end Value

/-- Parses a stored text. -/
def parseStored (text : String) : Except DecodeError Value :=
  match parse text with
  | .ok v => .ok v
  | .error e => .error (.text e)

/-! ## Reading back what was written -/

theorem Value.entryString_get {v : Value} {name text : String} (h : v.get name = some (.str text)) :
    v.entryString name = .ok text := by
  rw [entryString, h]

theorem Value.entryInteger_get {v : Value} {name : String} {n : Int}
    (h : v.get name = some (.integer n)) : v.entryInteger name = .ok n := by
  rw [entryInteger, h]

theorem Value.stringElements_strings (wrong : Value → String) (values : List String) :
    Value.stringElements wrong (values.map .str) = .ok values := by
  induction values with
  | nil => rfl
  | cons v vs ih => simp [Value.stringElements, ih]

/-- A list of entries, each of which is read back. -/
theorem mapM_encoded {α : Type} {encode : α → Value} {decode : Value → Except DecodeError α}
    (h : ∀ a, decode (encode a) = .ok a) (as : List α) : (as.map encode).mapM decode = .ok as := by
  induction as with
  | nil => rfl
  | cons a as ih => simp [List.mapM_cons, h, ih]

/-- A list that is read entry by entry. -/
theorem mapM_eq_ok {ε α β : Type} {f : α → Except ε β} {as : List α} {bs : List β} :
    as.mapM f = .ok bs ↔ List.Forall₂ (fun a b => f a = .ok b) as bs := by
  induction as generalizing bs with
  | nil => rw [List.mapM_nil, pure_eq_ok, List.forall₂_nil_left_iff, eq_comm]
  | cons a as ih =>
    rw [List.mapM_cons, bind_eq_ok, List.forall₂_cons_left_iff]
    simp only [bind_eq_ok, pure_eq_ok, ih]
    constructor
    · rintro ⟨b, hb, rest, hrest, rfl⟩
      exact ⟨b, rest, hb, hrest, rfl⟩
    · rintro ⟨b, rest, hb, hrest, rfl⟩
      exact ⟨b, hb, rest, hrest, rfl⟩

theorem parseStored_toCanonicalText {v : Value} (hv : v.Wf) :
    parseStored v.toCanonicalText = .ok v := by
  rw [parseStored, parse_toCanonicalText hv]

end Pantheon
