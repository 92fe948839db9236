/-
  The strict source parser (`pantheon-core/src/config/parse.rs`).
  The parser walks the characters of the text; offsets count UTF-8 bytes, as the source's do.
  Every structural byte is ASCII, so looking at a character and looking at its first byte
  decide the same branch. The mutual recursion carries fuel: each nested call spends one, and
  `parse` gives twice the text's length, more than any text can spend.
  `parse_wf`: whatever is parsed is a well-formed value.
-/
import Mathlib.Algebra.GroupWithZero.Nat
import Pantheon.Config.Canonical

namespace Pantheon

open SortedAssoc

/-- What a parse error says. -/
inductive ParseProblem where
  | trailingContent
  | expectedByte (c : Char)
  | expectedWord (word : String)
  | unexpectedEnd
  | unexpectedByte (c : Char)
  | expectedDigit
  | fractionalNumber
  | leadingZeros
  | integerOutOfRange
  | unterminatedString
  | unterminatedEscape
  | unknownEscape (c : Char)
  | unescapedControl
  | truncatedUnicodeEscape
  | invalidUtf8InUnicodeEscape
  | invalidUnicodeEscape
  | notAScalarValue
  | expectedCommaOrBracket
  | expectedCommaOrBrace
  | duplicateKey (key : String)
  | outOfFuel
  deriving Repr, DecidableEq

/-- A source text that is not valid configuration source: where, and what. -/
structure ParseError where
  offset : Nat
  detail : ParseProblem
  deriving Repr, DecidableEq

/-- The parser's position: what is left, and how many bytes were consumed. -/
structure Parser where
  rest : List Char
  offset : Nat

namespace Parser

def error {α : Type} (p : Parser) (detail : ParseProblem) : Except ParseError α :=
  .error ⟨p.offset, detail⟩

def peek (p : Parser) : Option Char := p.rest.head?

/-- One character further. -/
def advance (p : Parser) : Parser :=
  match p.rest with
  | [] => p
  | c :: cs => ⟨cs, p.offset + c.utf8Size⟩

/-- The first byte of a character, as an error message shows it. -/
def leadByte (c : Char) : Char := Char.ofNat ((String.utf8EncodeChar c).headD 0).toNat

def isBlank (c : Char) : Bool := c == ' ' || c == '\t' || c == '\n' || c == '\r'

def skipBlanks : List Char → Nat → Parser
  | [], o => ⟨[], o⟩
  | c :: cs, o => if isBlank c then skipBlanks cs (o + 1) else ⟨c :: cs, o⟩

def skipWhitespace (p : Parser) : Parser := skipBlanks p.rest p.offset

def expect (p : Parser) (c : Char) : Except ParseError Parser :=
  if p.peek = some c then .ok p.advance else p.error (.expectedByte c)

def literal (p : Parser) (word : String) (v : Value) : Except ParseError (Value × Parser) :=
  if word.toList.isPrefixOf p.rest then
    .ok (v, ⟨p.rest.drop word.toList.length, p.offset + word.toList.length⟩)
  else p.error (.expectedWord word)

/-- The sign, if there is one, and the position after it. -/
def sign (p : Parser) : Bool × Parser :=
  if p.peek = some '-' then (true, p.advance) else (false, p)

def integer (p : Parser) : Except ParseError (Value × Parser) :=
  let (negative, p1) := p.sign
  let digits := p1.rest.takeWhile Char.isDigit
  let p2 : Parser := ⟨p1.rest.dropWhile Char.isDigit, p1.offset + digits.length⟩
  let magnitude : Int := Nat.ofDigitChars 10 digits 0
  let n := if negative then -magnitude else magnitude
  if digits = [] then p2.error .expectedDigit
  else if p2.peek = some '.' ∨ p2.peek = some 'e' ∨ p2.peek = some 'E' then
    p2.error .fractionalNumber
  else if digits.length > 1 ∧ digits.head? = some '0' then p2.error .leadingZeros
  else if IsI64 n then .ok (.integer n, p2)
  else p2.error .integerOutOfRange

/-- The digits of a base 16 number; there must be one. -/
def radix16Digits (digits : List Char) : Option Nat :=
  if digits = [] then none
  else digits.foldl (fun acc c => do return (← acc) * 16 + (← hexNibble c)) (some 0)

/-- `u32::from_str_radix(_, 16)`, which takes a leading plus sign. -/
def fromStrRadix16 : List Char → Option Nat
  | '+' :: digits => radix16Digits digits
  | digits => radix16Digits digits

/-- `char::from_u32`: surrogates are no characters. -/
def charFromU32 (code : Nat) : Option Char :=
  if code.isValidChar then some (Char.ofNat code) else none

/-- What is wrong with a `\u` escape whose next four bytes are not four ASCII characters. -/
def brokenUnicodeEscape (rest : List Char) : ParseProblem :=
  if (rest.map Char.utf8Size).sum < 4 then .truncatedUnicodeEscape
  else if (List.range 5).any fun k => ((rest.take k).map Char.utf8Size).sum == 4 then
    .invalidUnicodeEscape
  else .invalidUtf8InUnicodeEscape

/-- The loop of `string`, after the opening quote; `out` is what was read so far. -/
def stringLoop (out : List Char) : List Char → Nat → Except ParseError (String × Parser)
  | [], o => .error ⟨o, .unterminatedString⟩
  | '"' :: cs, o => .ok (String.ofList out, ⟨cs, o + 1⟩)
  | ['\\'], o => .error ⟨o + 1, .unterminatedEscape⟩
  | '\\' :: 'u' :: a :: b :: c :: d :: cs, o =>
    if a.utf8Size = 1 ∧ b.utf8Size = 1 ∧ c.utf8Size = 1 ∧ d.utf8Size = 1 then
      match fromStrRadix16 [a, b, c, d] with
      | none => .error ⟨o + 2, .invalidUnicodeEscape⟩
      | some code =>
        match charFromU32 code with
        | none => .error ⟨o + 6, .notAScalarValue⟩
        | some ch => stringLoop (out ++ [ch]) cs (o + 6)
    else .error ⟨o + 2, brokenUnicodeEscape (a :: b :: c :: d :: cs)⟩
  | '\\' :: 'u' :: cs, o => .error ⟨o + 2, brokenUnicodeEscape cs⟩
  | '\\' :: '"' :: cs, o => stringLoop (out ++ ['"']) cs (o + 2)
  | '\\' :: '\\' :: cs, o => stringLoop (out ++ ['\\']) cs (o + 2)
  | '\\' :: '/' :: cs, o => stringLoop (out ++ ['/']) cs (o + 2)
  | '\\' :: 'n' :: cs, o => stringLoop (out ++ ['\n']) cs (o + 2)
  | '\\' :: 'r' :: cs, o => stringLoop (out ++ ['\r']) cs (o + 2)
  | '\\' :: 't' :: cs, o => stringLoop (out ++ ['\t']) cs (o + 2)
  | '\\' :: 'b' :: cs, o => stringLoop (out ++ ['\x08']) cs (o + 2)
  | '\\' :: 'f' :: cs, o => stringLoop (out ++ ['\x0c']) cs (o + 2)
  | '\\' :: e :: _, o => .error ⟨o + 2, .unknownEscape (leadByte e)⟩
  | c :: cs, o =>
    if c.toNat < 0x20 then .error ⟨o, .unescapedControl⟩
    else stringLoop (out ++ [c]) cs (o + c.utf8Size)

def string (p : Parser) : Except ParseError (String × Parser) := do
  let p ← p.expect '"'
  stringLoop [] p.rest p.offset

mutual

def value : Nat → Parser → Except ParseError (Value × Parser)
  | 0, p => p.error .outOfFuel
  | fuel + 1, p =>
    match p.peek with
    | none => p.error .unexpectedEnd
    | some 'n' => p.literal "null" .null
    | some 't' => p.literal "true" (.bool true)
    | some 'f' => p.literal "false" (.bool false)
    | some '"' => do
      let (text, p) ← p.string
      return (.str text, p)
    | some '[' =>
      let p := p.advance.skipWhitespace
      if p.peek = some ']' then .ok (.arr [], p.advance) else arrayLoop fuel [] p
    | some '{' =>
      let p := p.advance.skipWhitespace
      if p.peek = some '}' then .ok (.obj [], p.advance) else objectLoop fuel [] p
    | some c => if c = '-' ∨ c.isDigit then p.integer else p.error (.unexpectedByte (leadByte c))

/-- The loop of `array`. -/
def arrayLoop : Nat → List Value → Parser → Except ParseError (Value × Parser)
  | 0, _, p => p.error .outOfFuel
  | fuel + 1, values, p => do
    let (v, p) ← value fuel p.skipWhitespace
    let p := p.skipWhitespace
    match p.peek with
    | some ',' => arrayLoop fuel (values ++ [v]) p.advance
    | some ']' => .ok (.arr (values ++ [v]), p.advance)
    | _ => p.error .expectedCommaOrBracket

/-- The loop of `object`. -/
def objectLoop : Nat → List (String × Value) → Parser → Except ParseError (Value × Parser)
  | 0, _, p => p.error .outOfFuel
  | fuel + 1, entries, p => do
    let p := p.skipWhitespace
    let keyOffset := p.offset
    let (key, p) ← p.string
    if (find key entries).isSome then .error ⟨keyOffset, .duplicateKey key⟩
    else
      let p ← p.skipWhitespace.expect ':'
      let (v, p) ← value fuel p.skipWhitespace
      let p := p.skipWhitespace
      match p.peek with
      | some ',' => objectLoop fuel (put key v entries) p.advance
      | some '}' => .ok (.obj (put key v entries), p.advance)
      | _ => p.error .expectedCommaOrBrace

end

end Parser

/-- `parse`. -/
def parse (source : String) : Except ParseError Value := do
  let p : Parser := ⟨source.toList, 0⟩
  let (v, p) ← Parser.value (2 * source.toList.length + 1) p.skipWhitespace
  let p := p.skipWhitespace
  if p.rest = [] then .ok v else p.error .trailingContent

/-! ## Binds and refusals -/

variable {ε α β : Type} {u : Unit}

@[simp] theorem ok_bind (a : α) (f : α → Except ε β) : (Except.ok a >>= f) = f a := rfl

theorem bind_ok {x : Except ε α} {f : α → Except ε β} {b : β} (h : (x >>= f) = .ok b) :
    ∃ a, x = .ok a ∧ f a = .ok b := by
  cases x with
  | error e => cases h
  | ok a => exact ⟨a, rfl, h⟩

/-- A refusal when a condition holds. -/
def refuseIf {ε : Type} (p : Prop) [Decidable p] (error : ε) : Except ε Unit :=
  if p then .error error else .ok ()

theorem refuseIf_ok {p : Prop} [Decidable p] {error : ε} (h : refuseIf p error = .ok u) : ¬p := by
  unfold refuseIf at h
  split at h
  · cases h
  · assumption

theorem bind_eq_ok {x : Except ε α} {f : α → Except ε β} {b : β} :
    (x >>= f) = .ok b ↔ ∃ a, x = .ok a ∧ f a = .ok b := by
  constructor
  · exact bind_ok
  · rintro ⟨a, rfl, h⟩
    exact h

theorem pure_eq_ok {a b : α} : (pure a : Except ε α) = .ok b ↔ a = b :=
  ⟨Except.ok.inj, congrArg Except.ok⟩

theorem mapError_eq_ok {δ : Type} {x : Except ε α} {f : ε → δ} {a : α} :
    x.mapError f = .ok a ↔ x = .ok a := by
  cases x <;> simp [Except.mapError]

theorem refuseIf_eq_ok {p : Prop} [Decidable p] {error : ε} : refuseIf p error = .ok u ↔ ¬p := by
  constructor
  · exact refuseIf_ok
  · intro h
    rw [refuseIf, if_neg h]

theorem forM_eq_ok {f : α → Except ε Unit} {l : List α} :
    l.forM f = .ok u ↔ ∀ a ∈ l, f a = .ok () := by
  induction l with
  | nil => simp [List.forM, pure_eq_ok]
  | cons a l ih =>
    rw [List.forM, bind_eq_ok, List.forall_mem_cons, ← ih]
    constructor
    · rintro ⟨_, ha, hl⟩
      exact ⟨ha, hl⟩
    · rintro ⟨ha, hl⟩
      exact ⟨(), ha, hl⟩

/-! ## What is parsed is well-formed -/

namespace Parser

theorem literal_wf {p p' : Parser} {word : String} {v w : Value} (hv : v.Wf)
    (h : p.literal word v = .ok (w, p')) : w.Wf := by
  unfold literal at h
  split at h
  · obtain ⟨rfl, -⟩ := Prod.mk.inj (Except.ok.inj h)
    exact hv
  · cases h

theorem integer_wf {p p' : Parser} {w : Value} (h : p.integer = .ok (w, p')) : w.Wf := by
  unfold integer at h
  simp only [error] at h
  generalize (if p.sign.1 = true then _ else _) = n at h
  split_ifs at h with _ _ _ hrange
  obtain ⟨rfl, -⟩ := Prod.mk.inj (Except.ok.inj h)
  exact hrange

mutual

theorem value_wf : ∀ (fuel : Nat) {p p' : Parser} {w : Value}, value fuel p = .ok (w, p') → w.Wf
  | 0, _, _, _, h => by cases h
  | fuel + 1, p, p', w, h => by
    unfold value at h
    split at h
    · cases h
    · exact literal_wf Value.wf_null h
    · exact literal_wf (Value.wf_bool true) h
    · exact literal_wf (Value.wf_bool false) h
    · obtain ⟨⟨text, rest⟩, -, hok⟩ := bind_ok h
      obtain ⟨rfl, -⟩ := Prod.mk.inj (Except.ok.inj hok)
      trivial
    · dsimp only at h
      split at h
      · obtain ⟨rfl, -⟩ := Prod.mk.inj (Except.ok.inj h)
        trivial
      · exact arrayLoop_wf fuel (by simp) h
    · dsimp only at h
      split at h
      · obtain ⟨rfl, -⟩ := Prod.mk.inj (Except.ok.inj h)
        exact ⟨sorted_nil, trivial⟩
      · exact objectLoop_wf fuel sorted_nil (by simp) h
    · split at h
      · exact integer_wf h
      · cases h

theorem arrayLoop_wf : ∀ (fuel : Nat) {values : List Value} {p p' : Parser} {w : Value},
    (∀ v ∈ values, v.Wf) → arrayLoop fuel values p = .ok (w, p') → w.Wf
  | 0, _, _, _, _, _, h => by cases h
  | fuel + 1, values, p, p', w, hvalues, h => by
    unfold arrayLoop at h
    obtain ⟨⟨v, rest⟩, hv, h⟩ := bind_ok h
    have hall : ∀ x ∈ values ++ [v], x.Wf := by
      intro x hx
      rcases List.mem_append.mp hx with hx | hx
      · exact hvalues x hx
      · exact List.mem_singleton.mp hx ▸ value_wf fuel hv
    dsimp only at h
    split at h
    · exact arrayLoop_wf fuel hall h
    · obtain ⟨rfl, -⟩ := Prod.mk.inj (Except.ok.inj h)
      exact Value.wf_arr.mpr hall
    · cases h

theorem objectLoop_wf : ∀ (fuel : Nat) {entries : List (String × Value)} {p p' : Parser}
    {w : Value}, Sorted entries → (∀ e ∈ entries, e.2.Wf) →
    objectLoop fuel entries p = .ok (w, p') → w.Wf
  | 0, _, _, _, _, _, _, h => by cases h
  | fuel + 1, entries, p, p', w, hsorted, hentries, h => by
    unfold objectLoop at h
    obtain ⟨⟨key, rest⟩, -, h⟩ := bind_ok h
    dsimp only at h
    split at h
    · cases h
    · obtain ⟨q, -, h⟩ := bind_ok h
      obtain ⟨⟨v, rest⟩, hv, h⟩ := bind_ok h
      have hput := Value.wf_put (k := key) (value_wf fuel hv) hentries
      dsimp only at h
      split at h
      · exact objectLoop_wf fuel (sorted_put hsorted) hput h
      · obtain ⟨rfl, -⟩ := Prod.mk.inj (Except.ok.inj h)
        exact ⟨sorted_put hsorted, Value.wfEntries_iff.mpr hput⟩
      · cases h

end

end Parser

/-- Whatever is parsed is well-formed. -/
theorem parse_wf {source : String} {v : Value} (h : parse source = .ok v) : v.Wf := by
  obtain ⟨⟨w, rest⟩, hw, h⟩ := bind_ok h
  dsimp only at h
  split at h
  · obtain rfl := Except.ok.inj h
    exact Parser.value_wf _ hw
  · cases h

end Pantheon
