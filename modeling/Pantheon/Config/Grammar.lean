/-
  The language of the source parser.
  A JSON tree is `Restricted` when its numbers are 64-bit integers, its strings name no
  surrogate and its objects repeat no key; `treeValue` is the value it stands for. The parser
  reads every restricted JSON text (`parse_complete`). What it reads is restricted JSON when
  no escape of the text is `\u+` (`parse_sound`): `u32::from_str_radix` takes a leading plus
  sign, so `\u+041` is read as the character `A`, and no JSON text contains it
  (`plusEscape_text`).
-/
import Pantheon.Base.Json
import Pantheon.Config.Parse

namespace Pantheon

open Rfc8259 SortedAssoc

/-! ## Restricted JSON and its values -/

def unitChar (u : CharUnit) : Char := Char.ofNat u.code

/-- The text that the characters of a JSON string spell. -/
def unitsText (units : List CharUnit) : String := String.ofList (units.map unitChar)

mutual

/-- The value of a restricted tree. -/
def treeValue : Tree → Value
  | .null => .null
  | .bool b => .bool b
  | .number n => .integer n.whole
  | .string units => .str (unitsText units)
  | .array elements => .arr (treeValues elements)
  | .object members => .obj (ofList (treeEntries members))

def treeValues : List Tree → List Value
  | [] => []
  | j :: js => treeValue j :: treeValues js

def treeEntries : List (List CharUnit × Tree) → List (String × Value)
  | [] => []
  | (units, j) :: members => (unitsText units, treeValue j) :: treeEntries members

end

def memberKeys (members : List (List CharUnit × Tree)) : List String :=
  members.map fun m => unitsText m.1

mutual

/-- Integers of 64 bits without fraction or exponent, no surrogate, no repeated key. -/
def Restricted : Tree → Prop
  | .number n => n.frac = none ∧ n.exp = none ∧ IsI64 n.whole
  | .string units => ∀ u ∈ units, ¬u.Surrogate
  | .array elements => RestrictedElements elements
  | .object members => (memberKeys members).Nodup ∧ RestrictedMembers members
  | _ => True

def RestrictedElements : List Tree → Prop
  | [] => True
  | j :: js => Restricted j ∧ RestrictedElements js

def RestrictedMembers : List (List CharUnit × Tree) → Prop
  | [] => True
  | (units, j) :: members =>
    (∀ u ∈ units, ¬u.Surrogate) ∧ Restricted j ∧ RestrictedMembers members

end

variable {c d : Char} {w t cs r ds : List Char} {n o : Nat} {u : CharUnit} {units : List CharUnit}
  {p p' : Parser} {j : Tree} {js : List Tree} {members : List (List CharUnit × Tree)}
  {text source : String}

namespace Parser

/-! ## Blanks -/

theorem isBlank_iff : isBlank c = true ↔ c = ' ' ∨ c = '\t' ∨ c = '\n' ∨ c = '\r' := by
  simp [isBlank, or_assoc]

/-- A text that begins with no blank. -/
def Unblank (t : List Char) : Prop := ∀ c cs, t = c :: cs → isBlank c = false

theorem unblank_nil : Unblank [] := by
  intro c cs h
  cases h

theorem unblank_cons (cs : List Char) (h : isBlank c = false) : Unblank (c :: cs) := by
  intro c' cs' heq
  rwa [← (List.cons.inj heq).1]

theorem skipBlanks_blank (hw : Ws w) (ht : Unblank t) (o : Nat) :
    ∃ o', skipBlanks (w ++ t) o = ⟨t, o'⟩ := by
  induction w generalizing o with
  | nil =>
    cases t with
    | nil => exact ⟨o, rfl⟩
    | cons c cs => exact ⟨o, by simp [skipBlanks, ht c cs rfl]⟩
  | cons c w ih =>
    have hc : isBlank c = true := isBlank_iff.mpr (hw c List.mem_cons_self)
    obtain ⟨o', h⟩ := ih (fun d hd => hw d (List.mem_cons_of_mem _ hd)) (o + 1)
    exact ⟨o', by simp only [List.cons_append, skipBlanks, hc, if_true, h]⟩

theorem skipWhitespace_blank (hw : Ws w) (ht : Unblank t) (o : Nat) :
    ∃ o', skipWhitespace ⟨w ++ t, o⟩ = ⟨t, o'⟩ := skipBlanks_blank hw ht o

theorem skipWhitespace_unblank (ht : Unblank t) (o : Nat) : skipWhitespace ⟨t, o⟩ = ⟨t, o⟩ := by
  cases t with
  | nil => rfl
  | cons c cs => simp [skipWhitespace, skipBlanks, ht c cs rfl]

/-- What is skipped is blank, and what is left begins with no blank. -/
theorem skipWhitespace_sound (p : Parser) :
    ∃ w, Ws w ∧ p.rest = w ++ p.skipWhitespace.rest ∧ Unblank p.skipWhitespace.rest := by
  obtain ⟨rest, o⟩ := p
  simp only [skipWhitespace]
  induction rest generalizing o with
  | nil => exact ⟨[], by simp [Ws], rfl, unblank_nil⟩
  | cons c cs ih =>
    by_cases hc : isBlank c = true
    · obtain ⟨w, hw, hrest, hleft⟩ := ih (o + 1)
      simp only [skipBlanks, hc, if_true]
      refine ⟨c :: w, ?_, by rw [List.cons_append, ← hrest], hleft⟩
      rintro d hd
      rcases List.mem_cons.mp hd with rfl | hd
      · exact isBlank_iff.mp hc
      · exact hw d hd
    · rw [Bool.not_eq_true] at hc
      simp only [skipBlanks, hc, Bool.false_eq_true, if_false]
      exact ⟨[], by simp [Ws], rfl, unblank_cons _ hc⟩

theorem skipWhitespace_skipWhitespace (p : Parser) :
    p.skipWhitespace.skipWhitespace = p.skipWhitespace := by
  obtain ⟨w, -, -, hleft⟩ := skipWhitespace_sound p
  exact skipWhitespace_unblank hleft p.skipWhitespace.offset

theorem arrayLoop_skipWhitespace {fuel : Nat} (hfuel : 0 < fuel) (values : List Value)
    (p : Parser) : arrayLoop fuel values p.skipWhitespace = arrayLoop fuel values p := by
  obtain ⟨fuel, rfl⟩ := Nat.exists_eq_succ_of_ne_zero hfuel.ne'
  simp only [arrayLoop, skipWhitespace_skipWhitespace]

theorem objectLoop_skipWhitespace {fuel : Nat} (hfuel : 0 < fuel)
    (entries : List (String × Value)) (p : Parser) :
    objectLoop fuel entries p.skipWhitespace = objectLoop fuel entries p := by
  obtain ⟨fuel, rfl⟩ := Nat.exists_eq_succ_of_ne_zero hfuel.ne'
  simp only [objectLoop, skipWhitespace_skipWhitespace]

/-! ## Strings -/

theorem hexNibble_hexDigit_iff : hexNibble c = some n ↔ HexDigit c ∧ hexValue c = n := by
  unfold hexNibble HexDigit hexValue
  split_ifs <;> simp_all

theorem hexDigit_size (h : HexDigit c) : c.utf8Size = 1 := by
  have hle : c ≤ 'f' := by
    rcases h with h | h | h
    · exact h.2.trans (by decide : '9' ≤ 'f')
    · exact h.2
    · exact h.2.trans (by decide : 'F' ≤ 'f')
  have hval : c.val ≤ 0x66 := hle
  have hlow : c.val ≤ 0x7f := UInt32.le_trans hval (by decide)
  simp [Char.utf8Size, hlow]

theorem hexDigit_ne_plus (h : HexDigit c) : c ≠ '+' := by
  rintro rfl
  revert h
  unfold HexDigit
  decide

theorem radix16Digits_four {a b : Char} :
    radix16Digits [a, b, c, d] = some n ↔
      HexDigit a ∧ HexDigit b ∧ HexDigit c ∧ HexDigit d ∧ (CharUnit.unicode a b c d).code = n := by
  have hnone : ∀ x : Char, hexNibble x = none → ¬HexDigit x := by
    intro x hx hdigit
    rw [hexNibble_hexDigit_iff.mpr ⟨hdigit, rfl⟩] at hx
    cases hx
  simp only [radix16Digits, List.cons_ne_nil, if_false, List.foldl_cons, List.foldl_nil,
    CharUnit.code]
  cases ha : hexNibble a with
  | none => simp [hnone a ha]
  | some na =>
  cases hb : hexNibble b with
  | none => simp [hnone b hb]
  | some nb =>
  cases hc : hexNibble c with
  | none => simp [hnone c hc]
  | some nc =>
  cases hd : hexNibble d with
  | none => simp [hnone d hd]
  | some nd =>
  obtain ⟨hda, rfl⟩ := hexNibble_hexDigit_iff.mp ha
  obtain ⟨hdb, rfl⟩ := hexNibble_hexDigit_iff.mp hb
  obtain ⟨hdc, rfl⟩ := hexNibble_hexDigit_iff.mp hc
  obtain ⟨hdd, rfl⟩ := hexNibble_hexDigit_iff.mp hd
  simp [hda, hdb, hdc, hdd]

theorem fromStrRadix16_four {a b : Char} (h : a ≠ '+') :
    fromStrRadix16 [a, b, c, d] = radix16Digits [a, b, c, d] := by
  unfold fromStrRadix16
  split
  · rename_i heq
    exact absurd (List.cons.inj heq).1 h
  · rfl

theorem unicode_code_lt (a b c d : Char) (ha : HexDigit a) (hb : HexDigit b) (hc : HexDigit c)
    (hd : HexDigit d) : (CharUnit.unicode a b c d).code < 0x10000 := by
  have hvalue : ∀ x : Char, HexDigit x → hexValue x < 16 := by
    intro x hx
    have hle : ∀ y : Char, x ≤ y → x.toNat ≤ y.toNat := fun y h => h
    unfold hexValue
    split_ifs with hdecimal hlower
    · have := hle _ hdecimal.2
      simp only [Char.reduceToNat] at this ⊢
      omega
    · have := hle _ hlower.2
      simp only [Char.reduceToNat] at this ⊢
      omega
    · have hupper : 'A' ≤ x ∧ x ≤ 'F' := (hx.resolve_left hdecimal).resolve_left hlower
      have := hle _ hupper.2
      simp only [Char.reduceToNat] at this ⊢
      omega
  have := hvalue a ha
  have := hvalue b hb
  have := hvalue c hc
  have := hvalue d hd
  simp only [CharUnit.code]
  omega

theorem charFromU32_code (hlt : u.code < 0x10000) :
    charFromU32 u.code = if 0xD800 ≤ u.code ∧ u.code ≤ 0xDFFF then none else some (unitChar u) := by
  unfold charFromU32 unitChar Nat.isValidChar
  by_cases hs : 0xD800 ≤ u.code ∧ u.code ≤ 0xDFFF
  · rw [if_pos hs, if_neg (by omega)]
  · rw [if_neg hs, if_pos (by omega)]

/-- The loop reads one valid character that is no surrogate. -/
theorem stringLoop_unit (out : List Char) (hu : u.Valid) (hs : ¬u.Surrogate) (r : List Char)
    (o : Nat) : ∃ o', stringLoop out (u.text ++ r) o = stringLoop (out ++ [unitChar u]) r o' := by
  cases u with
  | unescaped c =>
    obtain ⟨hlow, hquote, hslash⟩ := hu
    have hchar : unitChar (.unescaped c) = c := Char.ofNat_toNat c
    refine ⟨o + c.utf8Size, ?_⟩
    rw [hchar]
    simp only [CharUnit.text, List.singleton_append]
    rw [stringLoop.eq_def]
    have hcontrol : ¬c.toNat < 0x20 := Nat.not_lt.mpr hlow
    split <;> simp_all
  | escape c =>
    refine ⟨o + 2, ?_⟩
    simp only [CharUnit.Valid] at hu
    simp only [CharUnit.text, List.cons_append, List.nil_append, unitChar, CharUnit.code]
    unfold shortEscape at hu ⊢
    split at hu
    all_goals first
      | rfl
      | cases hu
  | unicode a b c d =>
    obtain ⟨ha, hb, hc, hd⟩ := hu
    refine ⟨o + 6, ?_⟩
    have hradix : fromStrRadix16 [a, b, c, d] = some (CharUnit.unicode a b c d).code := by
      rw [fromStrRadix16_four (hexDigit_ne_plus ha)]
      exact radix16Digits_four.mpr ⟨ha, hb, hc, hd, rfl⟩
    have hchar : charFromU32 (CharUnit.unicode a b c d).code = some (unitChar (.unicode a b c d)) := by
      rw [charFromU32_code (unicode_code_lt a b c d ha hb hc hd)]
      exact if_neg hs
    simp only [CharUnit.text, List.cons_append, List.nil_append, stringLoop]
    rw [if_pos ⟨hexDigit_size ha, hexDigit_size hb, hexDigit_size hc, hexDigit_size hd⟩, hradix]
    simp only [hchar]

theorem stringLoop_units (out : List Char) (hv : ∀ u ∈ units, u.Valid)
    (hs : ∀ u ∈ units, ¬u.Surrogate) (r : List Char) (o : Nat) :
    ∃ o', stringLoop out (units.flatMap CharUnit.text ++ '"' :: r) o =
      .ok (String.ofList (out ++ units.map unitChar), ⟨r, o'⟩) := by
  induction units generalizing out o with
  | nil => exact ⟨o + 1, by simp [stringLoop]⟩
  | cons u units ih =>
    obtain ⟨o₁, h₁⟩ := stringLoop_unit out (hv u List.mem_cons_self) (hs u List.mem_cons_self)
      (units.flatMap CharUnit.text ++ '"' :: r) o
    obtain ⟨o₂, h₂⟩ := ih (out ++ [unitChar u]) (fun v hm => hv v (List.mem_cons_of_mem _ hm))
      (fun v hm => hs v (List.mem_cons_of_mem _ hm)) o₁
    refine ⟨o₂, ?_⟩
    rw [List.flatMap_cons, List.append_assoc, h₁, h₂]
    simp

theorem string_complete (hv : ∀ u ∈ units, u.Valid) (hs : ∀ u ∈ units, ¬u.Surrogate) (r : List Char)
    (o : Nat) : ∃ o', string ⟨stringText units ++ r, o⟩ = .ok (unitsText units, ⟨r, o'⟩) := by
  obtain ⟨o', h⟩ := stringLoop_units [] hv hs r (o + '"'.utf8Size)
  refine ⟨o', ?_⟩
  simp only [stringText, string, expect, peek, advance, List.cons_append, List.append_assoc,
    List.head?_cons, if_true, ok_bind]
  simpa [unitsText] using h

/-! ## The escape the parser adds to JSON -/

/-- Whether an escape of the text is `\u+`. -/
def plusEscape : List Char → Bool
  | '\\' :: 'u' :: '+' :: _ => true
  | '\\' :: _ :: cs => plusEscape cs
  | _ :: cs => plusEscape cs
  | [] => false

theorem plusEscape_cons (hc : c ≠ '\\') (cs : List Char) :
    plusEscape (c :: cs) = plusEscape cs := by
  rw [plusEscape.eq_def]
  split <;> simp_all

theorem plusEscape_plain (hw : ∀ c ∈ w, c ≠ '\\') (r : List Char) :
    plusEscape (w ++ r) = plusEscape r := by
  induction w with
  | nil => rfl
  | cons c w ih =>
    rw [List.cons_append, plusEscape_cons (hw c List.mem_cons_self)]
    exact ih fun d hd => hw d (List.mem_cons_of_mem _ hd)

theorem plusEscape_escape {e : Char} (h : ∀ r, e = 'u' → cs ≠ '+' :: r) :
    plusEscape ('\\' :: e :: cs) = plusEscape cs := plusEscape.eq_2 e cs h

theorem plusEscape_ws (hw : Ws w) (r : List Char) : plusEscape (w ++ r) = plusEscape r := by
  refine plusEscape_plain (fun c hc => ?_) r
  rcases hw c hc with rfl | rfl | rfl | rfl <;> decide

theorem plusEscape_unit (hu : u.Valid) (r : List Char) :
    plusEscape (u.text ++ r) = plusEscape r := by
  cases u with
  | unescaped c => exact plusEscape_cons hu.2.2 r
  | escape c =>
    refine plusEscape_escape fun _ hc => ?_
    subst hc
    cases hu
  | unicode a b c d =>
    obtain ⟨ha, hb, hc, hd⟩ := hu
    have hplain : ∀ x : Char, HexDigit x → x ≠ '\\' := by
      rintro x hx rfl
      revert hx
      unfold HexDigit
      decide
    have hescape : plusEscape ('\\' :: 'u' :: a :: b :: c :: d :: r) =
        plusEscape (a :: b :: c :: d :: r) :=
      plusEscape_escape fun s _ heq => hexDigit_ne_plus ha (List.cons.inj heq).1
    calc plusEscape ('\\' :: 'u' :: a :: b :: c :: d :: r)
        = plusEscape (a :: b :: c :: d :: r) := hescape
      _ = plusEscape r := by
        rw [plusEscape_cons (hplain a ha), plusEscape_cons (hplain b hb),
          plusEscape_cons (hplain c hc), plusEscape_cons (hplain d hd)]

theorem plusEscape_stringText (hv : ∀ u ∈ units, u.Valid) (r : List Char) :
    plusEscape (stringText units ++ r) = plusEscape r := by
  have hunits : ∀ t, plusEscape (units.flatMap CharUnit.text ++ t) = plusEscape t := by
    intro t
    induction units with
    | nil => rfl
    | cons u units ih =>
      rw [List.flatMap_cons, List.append_assoc, plusEscape_unit (hv u List.mem_cons_self)]
      exact ih fun v hm => hv v (List.mem_cons_of_mem _ hm)
  simp only [stringText, List.cons_append, List.append_assoc, List.nil_append]
  rw [plusEscape_cons (by decide), hunits, plusEscape_cons (by decide)]

/-! ## Numbers -/

/-- What may follow a value: nothing, a blank or a separator. -/
def Follows (r : List Char) : Prop :=
  ∀ c cs, r = c :: cs → isBlank c = true ∨ c = ',' ∨ c = ']' ∨ c = '}'

theorem follows_nil : Follows [] := by
  intro c cs h
  cases h

theorem follows_cons (h : isBlank c = true ∨ c = ',' ∨ c = ']' ∨ c = '}') : Follows (c :: cs)   := by
  intro c' cs' heq
  rwa [← (List.cons.inj heq).1]

theorem follows_ws (hw : Ws w) (hr : Follows r) : Follows (w ++ r) := by
  cases w with
  | nil => exact hr
  | cons c w => exact follows_cons (.inl (isBlank_iff.mpr (hw c List.mem_cons_self)))

/-- No follower continues a number. -/
theorem Follows.not_digit (h : Follows (c :: cs)) :
    c.isDigit = false ∧ c ≠ '.' ∧ c ≠ 'e' ∧ c ≠ 'E' := by
  rcases h c cs rfl with hblank | rfl | rfl | rfl
  · rcases isBlank_iff.mp hblank with rfl | rfl | rfl | rfl <;> decide
  all_goals decide

theorem takeWhile_follows (hds : ∀ c ∈ ds, c.isDigit = true) (hr : Follows r) :
    (ds ++ r).takeWhile Char.isDigit = ds ∧ (ds ++ r).dropWhile Char.isDigit = r := by
  have hstop : r.takeWhile Char.isDigit = [] ∧ r.dropWhile Char.isDigit = r := by
    cases r with
    | nil => exact ⟨rfl, rfl⟩
    | cons c cs => simp [hr.not_digit.1]
  rw [List.takeWhile_append_of_pos hds, List.dropWhile_append_of_pos hds, hstop.1, hstop.2]
  simp

theorem follows_peek (hr : Follows r) (o : Nat) :
    ¬(peek ⟨r, o⟩ = some '.' ∨ peek ⟨r, o⟩ = some 'e' ∨ peek ⟨r, o⟩ = some 'E') := by
  cases r with
  | nil => simp [peek]
  | cons c cs =>
    obtain ⟨-, h₁, h₂, h₃⟩ := hr.not_digit
    simp [peek, h₁, h₂, h₃]

/-- No leading zeros: the digits are one digit, or do not begin with a zero. -/
theorem leadingZeros_iff :
    ¬(ds.length > 1 ∧ ds.head? = some '0') ↔ (ds.head? = some '0' → ds = ['0']) := by
  cases ds with
  | nil => simp
  | cons d ds => cases ds <;> simp

/-- `integer` after its sign. -/
theorem integer_digits {p₁ : Parser} {negative : Bool} (hsign : p.sign = (negative, p₁))
    (hp : p₁ = ⟨ds ++ r, o⟩) (hds : Digits ds) (hzero : ds.head? = some '0' → ds = ['0'])
    (hr : Follows r) (hrange : IsI64 (if negative then -(Nat.ofDigitChars 10 ds 0 : Int)
      else Nat.ofDigitChars 10 ds 0)) :
    p.integer = .ok (.integer (if negative then -(Nat.ofDigitChars 10 ds 0 : Int)
      else Nat.ofDigitChars 10 ds 0), ⟨r, o + ds.length⟩) := by
  obtain ⟨htake, hdrop⟩ := takeWhile_follows hds.2 hr
  unfold integer
  rw [hsign]
  subst hp
  simp only [htake, hdrop]
  rw [if_neg hds.1, if_neg (follows_peek hr _), if_neg (leadingZeros_iff.mpr hzero),
    if_pos hrange]

theorem sign_digit (ds : List Char) (o : Nat) (hd : d.isDigit = true) :
    sign ⟨d :: ds, o⟩ = (false, ⟨d :: ds, o⟩) := by
  have hne : d ≠ '-' := by
    rintro rfl
    exact absurd hd (by decide)
  simp [sign, peek, hne]

theorem integer_complete {n : Number} (hn : n.Valid) (hfrac : n.frac = none) (hexp : n.exp = none)
    (hrange : IsI64 n.whole) (hr : Follows r) (o : Nat) :
    ∃ o', integer ⟨n.text ++ r, o⟩ = .ok (.integer n.whole, ⟨r, o'⟩) := by
  obtain ⟨minus, int, frac, exp⟩ := n
  obtain ⟨hdigits, hzero, -, -⟩ := hn
  dsimp only at hfrac hexp hdigits hzero
  subst hfrac hexp
  cases minus with
  | true =>
    refine ⟨o + '-'.utf8Size + int.length, ?_⟩
    have hsign : sign ⟨'-' :: (int ++ r), o⟩ = (true, ⟨int ++ r, o + '-'.utf8Size⟩) := rfl
    simpa [Number.text, Number.whole] using integer_digits hsign rfl hdigits hzero hr hrange
  | false =>
    refine ⟨o + int.length, ?_⟩
    cases int with
    | nil => exact absurd rfl hdigits.1
    | cons d ds =>
      have hsign := sign_digit (ds ++ r) o (hdigits.2 d List.mem_cons_self)
      simpa [Number.text, Number.whole] using integer_digits hsign rfl hdigits hzero hr hrange

/-- A number begins with a minus sign or a digit. -/
theorem number_head {n : Number} (hn : n.Valid) : ∃ c cs, n.text = c :: cs ∧
    (c = '-' ∨ c.isDigit = true) := by
  obtain ⟨minus, int, frac, exp⟩ := n
  obtain ⟨hdigits, -⟩ := hn
  cases minus with
  | true => exact ⟨'-', _, rfl, .inl rfl⟩
  | false =>
    cases int with
    | nil => exact absurd rfl hdigits.1
    | cons d ds => exact ⟨d, _, rfl, .inr (hdigits.2 d List.mem_cons_self)⟩

/-- `value` on a character that opens no literal, string, array or object. -/
theorem value_integer (h : c = '-' ∨ c.isDigit = true) :
    value (n + 1) ⟨c :: cs, o⟩ = integer ⟨c :: cs, o⟩ := by
  have hne : c ≠ 'n' ∧ c ≠ 't' ∧ c ≠ 'f' ∧ c ≠ '"' ∧ c ≠ '[' ∧ c ≠ '{' := by
    rcases h with rfl | h
    · decide
    · refine ⟨?_, ?_, ?_, ?_, ?_, ?_⟩ <;> (rintro rfl; exact absurd h (by decide))
  obtain ⟨h1, h2, h3, h4, h5, h6⟩ := hne
  simp [value, peek, h]

/-! ## What the parser reads: completeness -/

mutual

/-- Fuel enough to read a tree. -/
def cost : Tree → Nat
  | .array elements => 1 + costElements elements
  | .object members => 1 + costMembers members
  | _ => 1

def costElements : List Tree → Nat
  | [] => 0
  | j :: js => 1 + cost j + costElements js

def costMembers : List (List CharUnit × Tree) → Nat
  | [] => 0
  | (_, j) :: members => 1 + cost j + costMembers members

end

/-- A value begins with no blank and with no closing bracket or brace. -/
theorem spells_head (h : Spells j t) :
    ∃ c cs, t = c :: cs ∧ isBlank c = false ∧ c ≠ ']' ∧ c ≠ '}' := by
  cases h with
  | number hn =>
    obtain ⟨c, cs, htext, hc⟩ := number_head hn
    refine ⟨c, cs, htext, ?_⟩
    rcases hc with rfl | hc
    · decide
    · refine ⟨?_, ?_, ?_⟩
      · by_contra hblank
        rw [Bool.not_eq_false, isBlank_iff] at hblank
        rcases hblank with rfl | rfl | rfl | rfl <;> exact absurd hc (by decide)
      · rintro rfl
        exact absurd hc (by decide)
      · rintro rfl
        exact absurd hc (by decide)
  | string hv => exact ⟨'"', _, rfl, by decide⟩
  | null => exact ⟨'n', _, rfl, by decide⟩
  | true => exact ⟨'t', _, rfl, by decide⟩
  | false => exact ⟨'f', _, rfl, by decide⟩
  | emptyArray hw => exact ⟨'[', _, rfl, by decide⟩
  | array helements => exact ⟨'[', _, rfl, by decide⟩
  | emptyObject hw => exact ⟨'{', _, rfl, by decide⟩
  | object hmembers => exact ⟨'{', _, rfl, by decide⟩

theorem spells_unblank (h : Spells j t) : Unblank (t ++ r) := by
  obtain ⟨c, cs, rfl, hblank, -⟩ := spells_head h
  exact unblank_cons _ hblank

/-- The elements of an array begin, after blanks, with no closing bracket. -/
theorem elements_head (h : SpellsElements js t) :
    ∃ w c cs, Ws w ∧ t = w ++ c :: cs ∧ isBlank c = false ∧ c ≠ ']' := by
  cases h with
  | last hw hj hw' =>
    obtain ⟨c, cs, rfl, hblank, hne, -⟩ := spells_head hj
    exact ⟨_, c, _, hw, rfl, hblank, hne⟩
  | more hw hj hw' hrest =>
    obtain ⟨c, cs, rfl, hblank, hne, -⟩ := spells_head hj
    exact ⟨_, c, _, hw, rfl, hblank, hne⟩

theorem elements_cost (h : SpellsElements js t) : 0 < costElements js := by
  cases h <;> simp only [costElements] <;> omega

theorem members_cost (h : SpellsMembers members t) : 0 < costMembers members := by
  cases h <;> simp only [costMembers] <;> omega

/-- The members of an object begin, after blanks, with a quotation mark. -/
theorem members_head (h : SpellsMembers members t) : ∃ w cs, Ws w ∧ t = w ++ '"' :: cs := by
  cases h with
  | last hw hv hw₁ hw₂ hj hw₃ => exact ⟨_, _, hw, rfl⟩
  | more hw hv hw₁ hw₂ hj hw₃ hrest => exact ⟨_, _, hw, rfl⟩

theorem memberKeys_cons (units : List CharUnit) (j : Tree) (members : List (List CharUnit × Tree)) :
    memberKeys ((units, j) :: members) = unitsText units :: memberKeys members := rfl

/-- The loop of an object reads one member, up to the separator behind its value. -/
theorem objectLoop_member {s : Char} {w₁ w₂ w₃ : List Char} {v : Value}
    {entries : List (String × Value)} (hw : Ws w) (hv : ∀ u ∈ units, u.Valid)
    (hs : ∀ u ∈ units, ¬u.Surrogate) (hnew : find (unitsText units) entries = none) (hw₁ : Ws w₁)
    (hw₂ : Ws w₂) (hj : Spells j t) (hw₃ : Ws w₃) (hsep : isBlank s = false)
    (hread : ∀ o, ∃ o', value n ⟨t ++ (w₃ ++ s :: r), o⟩ = .ok (v, ⟨w₃ ++ s :: r, o'⟩)) (o : Nat) :
    ∃ o',
      let p := objectLoop (n + 1) entries
        ⟨w ++ (stringText units ++ (w₁ ++ ':' :: (w₂ ++ (t ++ (w₃ ++ s :: r))))), o⟩
      (s = ',' → p = objectLoop n (put (unitsText units) v entries) ⟨r, o'⟩) ∧
        (s = '}' → p = .ok (.obj (put (unitsText units) v entries), ⟨r, o'⟩)) := by
  obtain ⟨o₁, h₁⟩ := skipWhitespace_blank hw (unblank_cons
    ((units.flatMap CharUnit.text ++ ['"']) ++ (w₁ ++ ':' :: (w₂ ++ (t ++ (w₃ ++ s :: r)))))
    (by decide : isBlank '"' = false)) o
  obtain ⟨o₂, h₂⟩ := string_complete hv hs (w₁ ++ ':' :: (w₂ ++ (t ++ (w₃ ++ s :: r)))) o₁
  obtain ⟨o₃, h₃⟩ := skipWhitespace_blank hw₁
    (unblank_cons (w₂ ++ (t ++ (w₃ ++ s :: r))) (by decide : isBlank ':' = false)) o₂
  obtain ⟨o₄, h₄⟩ := skipWhitespace_blank hw₂ (spells_unblank hj (r := w₃ ++ s :: r))
    (o₃ + ':'.utf8Size)
  obtain ⟨o₅, h₅⟩ := hread o₄
  obtain ⟨o₆, h₆⟩ := skipWhitespace_blank hw₃ (unblank_cons r hsep) o₅
  refine ⟨o₆ + s.utf8Size, ?_⟩
  simp only [stringText, List.append_assoc, List.cons_append, List.nil_append] at h₁ h₂ ⊢
  simp only [objectLoop, h₁, h₂, ok_bind, hnew, Option.isSome_none, Bool.false_eq_true, if_false,
    h₃, expect, peek, List.head?_cons, if_true, advance, h₄, h₅, h₆]
  exact ⟨fun hcomma => hcomma ▸ rfl, fun hclose => hclose ▸ rfl⟩

mutual

/-- The parser reads a restricted value, up to what follows it. -/
theorem value_complete {j : Tree} {t : List Char} : Spells j t → ∀ (n : Nat) (r : List Char)
    (o : Nat), Restricted j → cost j ≤ n → Follows r →
    ∃ o', value n ⟨t ++ r, o⟩ = .ok (treeValue j, ⟨r, o'⟩)
  | h, 0, r, o, _, hn, _ => by cases h <;> simp [cost] at hn
  | .null, n + 1, r, o, _, _, _ => ⟨o + 4, by simp [value, peek, literal, treeValue]⟩
  | .true, n + 1, r, o, _, _, _ => ⟨o + 4, by simp [value, peek, literal, treeValue]⟩
  | .false, n + 1, r, o, _, _, _ => ⟨o + 5, by simp [value, peek, literal, treeValue]⟩
  | .number hn, n + 1, r, o, hj, _, hr => by
    obtain ⟨c, cs, htext, hc⟩ := number_head hn
    obtain ⟨o', h⟩ := integer_complete hn hj.1 hj.2.1 hj.2.2 hr o
    refine ⟨o', ?_⟩
    rw [htext, List.cons_append] at h ⊢
    rw [value_integer hc]
    exact h
  | @Spells.string units hv, n + 1, r, o, hj, _, _ => by
    obtain ⟨o', h⟩ := string_complete hv hj r o
    refine ⟨o', ?_⟩
    have hpeek : peek ⟨stringText units ++ r, o⟩ = some '"' := rfl
    simp only [value, hpeek, h, ok_bind]
    rfl
  | @Spells.emptyArray w hw, n + 1, r, o, _, _, _ => by
    obtain ⟨o', h⟩ := skipWhitespace_blank hw (unblank_cons r (by decide : isBlank ']' = false))
      (o + '['.utf8Size)
    refine ⟨o' + ']'.utf8Size, ?_⟩
    simp only [List.cons_append, List.append_assoc, List.nil_append, value, peek, advance,
      List.head?_cons, h, if_true, treeValue, treeValues]
  | @Spells.array js t helements, n + 1, r, o, hj, hn, _ => by
    simp only [cost] at hn
    have hpos := elements_cost helements
    obtain ⟨o', h⟩ := elements_complete helements n [] r (o + '['.utf8Size) hj (by omega)
    refine ⟨o', ?_⟩
    obtain ⟨w, c, cs, hw, rfl, hblank, hne⟩ := elements_head helements
    obtain ⟨o₁, h₁⟩ := skipWhitespace_blank hw (unblank_cons (cs ++ r) hblank)
      (o + '['.utf8Size)
    have hskip := arrayLoop_skipWhitespace (by omega : 0 < n) [] ⟨w ++ c :: cs ++ r, o + '['.utf8Size⟩
    rw [List.append_assoc, List.cons_append] at hskip h
    rw [h₁] at hskip
    simp only [List.cons_append, List.append_assoc, value, peek, advance, List.head?_cons, h₁,
      Option.some.injEq, hne, if_false, treeValue]
    rw [hskip, h]
    rfl
  | @Spells.emptyObject w hw, n + 1, r, o, _, _, _ => by
    obtain ⟨o', h⟩ := skipWhitespace_blank hw (unblank_cons r (by decide : isBlank '}' = false))
      (o + '{'.utf8Size)
    refine ⟨o' + '}'.utf8Size, ?_⟩
    simp only [List.cons_append, List.append_assoc, List.nil_append, value, peek, advance,
      List.head?_cons, h, if_true, treeValue, treeEntries]
    rfl
  | @Spells.object members t hmembers, n + 1, r, o, hj, hn, _ => by
    simp only [cost] at hn
    have hpos := members_cost hmembers
    obtain ⟨o', h⟩ := members_complete hmembers n [] r (o + '{'.utf8Size) hj.2 hj.1
      (by simp [find]) (by omega)
    refine ⟨o', ?_⟩
    obtain ⟨w, cs, hw, rfl⟩ := members_head hmembers
    obtain ⟨o₁, h₁⟩ := skipWhitespace_blank hw
      (unblank_cons (cs ++ r) (by decide : isBlank '"' = false)) (o + '{'.utf8Size)
    have hskip := objectLoop_skipWhitespace (by omega : 0 < n) [] ⟨w ++ '"' :: cs ++ r, o + '{'.utf8Size⟩
    rw [List.append_assoc, List.cons_append] at hskip h
    rw [h₁] at hskip
    simp only [List.cons_append, List.append_assoc, value, peek, advance, List.head?_cons, h₁,
      Option.some.injEq, Char.reduceEq, if_false, treeValue]
    rw [hskip, h]
    rfl

theorem elements_complete {js : List Tree} {t : List Char} : SpellsElements js t → ∀ (n : Nat)
    (values : List Value) (r : List Char) (o : Nat), RestrictedElements js → costElements js ≤ n →
    ∃ o', arrayLoop n values ⟨t ++ r, o⟩ = .ok (.arr (values ++ treeValues js), ⟨r, o'⟩)
  | h, 0, values, r, o, _, hn => by cases h <;> simp [costElements] at hn
  | @SpellsElements.last w t w' j hw hj hw', n + 1, values, r, o, hr, hn => by
    simp only [costElements] at hn
    have hclose : Follows (']' :: r) := follows_cons (.inr (.inr (.inl rfl)))
    obtain ⟨o₁, h₁⟩ := skipWhitespace_blank hw (spells_unblank hj (r := w' ++ ']' :: r)) o
    obtain ⟨o₂, h₂⟩ := value_complete hj n (w' ++ ']' :: r) o₁ hr.1 (by omega)
      (follows_ws hw' hclose)
    obtain ⟨o₃, h₃⟩ := skipWhitespace_blank hw' (unblank_cons r (by decide : isBlank ']' = false)) o₂
    refine ⟨o₃ + ']'.utf8Size, ?_⟩
    simp only [List.append_assoc, List.cons_append, List.nil_append, arrayLoop, h₁, h₂, ok_bind, h₃,
      peek, List.head?_cons, advance, treeValues]
  | @SpellsElements.more w t w' t' j js hw hj hw' hrest, n + 1, values,
      r, o, hr, hn => by
    simp only [costElements] at hn
    have hcomma : Follows (',' :: (t' ++ r)) := follows_cons (.inr (.inl rfl))
    obtain ⟨o₁, h₁⟩ := skipWhitespace_blank hw (spells_unblank hj (r := w' ++ ',' :: (t' ++ r))) o
    obtain ⟨o₂, h₂⟩ := value_complete hj n (w' ++ ',' :: (t' ++ r)) o₁ hr.1 (by omega)
      (follows_ws hw' hcomma)
    obtain ⟨o₃, h₃⟩ := skipWhitespace_blank hw'
      (unblank_cons (t' ++ r) (by decide : isBlank ',' = false)) o₂
    obtain ⟨o₄, h₄⟩ := elements_complete hrest n (values ++ [treeValue j]) r (o₃ + ','.utf8Size) hr.2
      (by omega)
    refine ⟨o₄, ?_⟩
    simp only [List.append_assoc, List.cons_append, arrayLoop, h₁, h₂, ok_bind, h₃, peek,
      List.head?_cons, advance, treeValues]
    simpa using h₄

theorem members_complete {members : List (List CharUnit × Tree)} {t : List Char} :
    SpellsMembers members t → ∀ (n : Nat) (entries : List (String × Value)) (r : List Char)
    (o : Nat), RestrictedMembers members → (memberKeys members).Nodup →
    (∀ k ∈ memberKeys members, find k entries = none) → costMembers members ≤ n →
    ∃ o', objectLoop n entries ⟨t ++ r, o⟩ =
      .ok (.obj ((treeEntries members).foldl (fun m p => put p.1 p.2 m) entries), ⟨r, o'⟩)
  | h, 0, entries, r, o, _, _, _, hn => by cases h <;> simp [costMembers] at hn
  | @SpellsMembers.last w w₁ w₂ t w₃ units j hw hv hw₁ hw₂ hj hw₃, n + 1, entries, r, o, hr, hkeys, hfresh, hn => by
    simp only [costMembers] at hn
    obtain ⟨o', -, h⟩ := objectLoop_member hw hv hr.1 (hfresh _ List.mem_cons_self) hw₁ hw₂ hj hw₃
      (by decide : isBlank '}' = false) (fun o => value_complete hj n (w₃ ++ '}' :: r) o hr.2.1
        (by omega) (follows_ws hw₃ (follows_cons (.inr (.inr (.inr rfl)))))) o
    refine ⟨o', ?_⟩
    simp only [List.append_assoc, List.cons_append, List.nil_append]
    exact h rfl
  | @SpellsMembers.more w w₁ w₂ t w₃ t' units j members hw hv hw₁ hw₂ hj hw₃ hrest, n + 1, entries, r, o, hr, hkeys, hfresh,
      hn => by
    simp only [costMembers] at hn
    obtain ⟨o', h, -⟩ := objectLoop_member hw hv hr.1 (hfresh _ List.mem_cons_self) hw₁ hw₂ hj hw₃
      (by decide : isBlank ',' = false) (fun o => value_complete hj n (w₃ ++ ',' :: (t' ++ r)) o hr.2.1
        (by omega) (follows_ws hw₃ (follows_cons (.inr (.inl rfl))))) o
    rw [memberKeys_cons, List.nodup_cons] at hkeys
    have hfresh' : ∀ k ∈ memberKeys members, find k (put (unitsText units) (treeValue j) entries) = none := by
      intro k hk
      have hne : k ≠ unitsText units := by
        rintro rfl
        exact hkeys.1 hk
      rw [find_put_of_ne hne]
      exact hfresh k (List.mem_cons_of_mem _ hk)
    obtain ⟨o'', h'⟩ := members_complete hrest n (put (unitsText units) (treeValue j) entries) r o'
      hr.2.2 hkeys.2 hfresh' (by omega)
    refine ⟨o'', ?_⟩
    simp only [List.append_assoc, List.cons_append]
    exact (h rfl).trans h'

end

mutual

theorem cost_le {j : Tree} {t : List Char} : Spells j t → cost j ≤ 2 * t.length
  | .null => by simp [cost]
  | .true => by simp [cost]
  | .false => by simp [cost]
  | .number hn => by
    obtain ⟨c, cs, htext, -⟩ := number_head hn
    simp only [cost, htext, List.length_cons]
    omega
  | .string hv => by
    simp only [cost, stringText, List.length_cons, List.length_append]
    omega
  | .emptyArray hw => by
    simp only [cost, costElements, List.length_cons, List.length_append]
    omega
  | .array helements => by
    have := costElements_le helements
    simp only [cost, List.length_cons]
    omega
  | .emptyObject hw => by
    simp only [cost, costMembers, List.length_cons, List.length_append]
    omega
  | .object hmembers => by
    have := costMembers_le hmembers
    simp only [cost, List.length_cons]
    omega

theorem costElements_le {js : List Tree} {t : List Char} :
    SpellsElements js t → costElements js ≤ 2 * t.length
  | .last hw hj hw' => by
    have := cost_le hj
    simp only [costElements, List.length_append, List.length_cons]
    omega
  | .more hw hj hw' hrest => by
    have := cost_le hj
    have := costElements_le hrest
    simp only [costElements, List.length_append, List.length_cons]
    omega

theorem costMembers_le {members : List (List CharUnit × Tree)} {t : List Char} :
    SpellsMembers members t → costMembers members ≤ 2 * t.length
  | .last hw hv hw₁ hw₂ hj hw₃ => by
    have := cost_le hj
    simp only [costMembers, List.length_append, List.length_cons]
    omega
  | .more hw hv hw₁ hw₂ hj hw₃ hrest => by
    have := cost_le hj
    have := costMembers_le hrest
    simp only [costMembers, List.length_append, List.length_cons]
    omega

end

/-! ## What the parser reads: soundness -/

/-- The rest of a string literal: valid characters, no surrogate among them, and the closing
    quotation mark. -/
def Scanned (out cs : List Char) (text : String) (r : List Char) : Prop :=
  ∃ units : List CharUnit, (∀ u ∈ units, u.Valid) ∧ (∀ u ∈ units, ¬u.Surrogate) ∧
    cs = units.flatMap CharUnit.text ++ '"' :: r ∧ text = String.ofList (out ++ units.map unitChar)

theorem Scanned.nil (out r : List Char) : Scanned out ('"' :: r) (String.ofList out) r :=
  ⟨[], by simp, by simp, rfl, by simp⟩

theorem Scanned.cons {out : List Char} (hu : u.Valid) (hs : ¬u.Surrogate)
    (h : Scanned (out ++ [unitChar u]) cs text r) : Scanned out (u.text ++ cs) text r := by
  obtain ⟨units, hv, hsurrogate, rfl, rfl⟩ := h
  refine ⟨u :: units, ?_, ?_, by simp, by simp⟩
  · intro v hm
    rcases List.mem_cons.mp hm with rfl | hm
    · exact hu
    · exact hv v hm
  · intro v hm
    rcases List.mem_cons.mp hm with rfl | hm
    · exact hs
    · exact hsurrogate v hm

/-- No character is a surrogate. -/
theorem char_not_surrogate (c : Char) : ¬(0xD800 ≤ c.toNat ∧ c.toNat ≤ 0xDFFF) := by
  have hvalid : c.toNat.isValidChar := c.valid
  simp only [Nat.isValidChar] at hvalid
  omega

theorem stringLoop_sound {out : List Char} (h : stringLoop out cs o = .ok (text, p'))
    (hplus : plusEscape cs = false) : Scanned out cs text p'.rest := by
  have hshort : ∀ {e ch : Char} {out cs : List Char}, shortEscape e = some ch →
      Scanned (out ++ [ch]) cs text p'.rest → Scanned out ('\\' :: e :: cs) text p'.rest := by
    intro e ch out cs he hscan
    have hvalid : (CharUnit.escape e).Valid := by rw [CharUnit.Valid, he]; rfl
    have hchar : unitChar (.escape e) = ch := by
      rw [unitChar, CharUnit.code, he]
      exact Char.ofNat_toNat ch
    exact Scanned.cons hvalid (char_not_surrogate _) (hchar.symm ▸ hscan)
  fun_induction stringLoop out cs o with
  | case2 out cs o =>
    obtain ⟨rfl, rfl⟩ := Prod.mk.inj (Except.ok.inj h)
    exact Scanned.nil out cs
  | case6 out a b c d cs o hsize code hcode ch hch ih =>
    have hne : a ≠ '+' := by
      rintro rfl
      simp [plusEscape] at hplus
    rw [fromStrRadix16_four hne] at hcode
    obtain ⟨ha, hb, hc, hd, rfl⟩ := radix16Digits_four.mp hcode
    have hvalid : (CharUnit.unicode a b c d).Valid := ⟨ha, hb, hc, hd⟩
    rw [charFromU32_code (unicode_code_lt a b c d ha hb hc hd)] at hch
    split at hch
    · cases hch
    · rename_i hs
      obtain rfl := Option.some.inj hch
      have hrest := (plusEscape_unit hvalid cs).symm.trans hplus
      exact Scanned.cons hvalid hs (ih h hrest)
  | case9 out cs o ih | case10 out cs o ih | case11 out cs o ih | case12 out cs o ih
  | case13 out cs o ih | case14 out cs o ih | case15 out cs o ih | case16 out cs o ih =>
    exact hshort rfl (ih h ((plusEscape_escape (by simp)).symm.trans hplus))
  | case19 out c cs o hquote hlone _ _ _ _ _ _ _ _ _ _ hescape hcontrol ih =>
    have hslash : c ≠ '\\' := by
      rintro rfl
      cases cs with
      | nil => exact hlone rfl rfl
      | cons e cs => exact hescape e cs rfl rfl
    have hvalid : (CharUnit.unescaped c).Valid := ⟨Nat.not_lt.mp hcontrol, hquote, hslash⟩
    have hchar : unitChar (.unescaped c) = c := Char.ofNat_toNat c
    have hrest := (plusEscape_cons hslash cs).symm.trans hplus
    exact Scanned.cons hvalid (char_not_surrogate c) (hchar.symm ▸ ih h hrest)
  | _ => cases h

theorem string_sound (h : p.string = .ok (text, p')) (hplus : plusEscape p.rest = false) :
    ∃ units : List CharUnit, (∀ u ∈ units, u.Valid) ∧ (∀ u ∈ units, ¬u.Surrogate) ∧
      p.rest = stringText units ++ p'.rest ∧ text = unitsText units := by
  obtain ⟨q, hq, h⟩ := bind_ok h
  obtain ⟨rest, o⟩ := p
  unfold expect at hq
  split at hq
  · rename_i hpeek
    cases rest with
    | nil => cases hpeek
    | cons c cs =>
      obtain rfl := Option.some.inj hpeek
      obtain rfl := Except.ok.inj hq
      obtain ⟨units, hv, hs, hcs, htext⟩ :=
        stringLoop_sound h ((plusEscape_cons (by decide) cs).symm.trans hplus)
      refine ⟨units, hv, hs, ?_, by simpa [unitsText] using htext⟩
      simp only [stringText, List.cons_append, List.append_assoc, List.nil_append]
      exact congrArg _ hcs
  · cases hq

theorem literal_sound {word : String} {v w : Value} (h : p.literal word v = .ok (w, p')) :
    w = v ∧ p.rest = word.toList ++ p'.rest := by
  unfold literal at h
  split at h
  · rename_i hprefix
    obtain ⟨rfl, rfl⟩ := Prod.mk.inj (Except.ok.inj h)
    obtain ⟨r, hr⟩ := List.isPrefixOf_iff_prefix.mp hprefix
    exact ⟨rfl, by rw [← hr]; simp⟩
  · cases h

theorem sign_sound (p : Parser) :
    p.rest = (if p.sign.1 then ['-'] else []) ++ p.sign.2.rest := by
  obtain ⟨rest, o⟩ := p
  unfold sign
  split
  · rename_i hpeek
    cases rest with
    | nil => cases hpeek
    | cons c cs =>
      obtain rfl := Option.some.inj hpeek
      rfl
  · rfl

theorem integer_sound {w : Value} (h : p.integer = .ok (w, p')) :
    ∃ n : Number, n.Valid ∧ n.frac = none ∧ n.exp = none ∧ IsI64 n.whole ∧
      p.rest = n.text ++ p'.rest ∧ w = .integer n.whole := by
  have hsign := sign_sound p
  unfold integer at h
  generalize hp : p.sign = q at h hsign
  obtain ⟨negative, p₁⟩ := q
  simp only [error] at h
  split_ifs at h with hnone hfraction hzeros hneg hrange hrange
  all_goals
    obtain ⟨rfl, rfl⟩ := Prod.mk.inj (Except.ok.inj h)
    refine ⟨⟨negative, p₁.rest.takeWhile Char.isDigit, none, none⟩, ?_, rfl, rfl, ?_, ?_, ?_⟩
    · exact ⟨⟨hnone, fun c hc => List.all_eq_true.mp List.all_takeWhile c hc⟩,
        leadingZeros_iff.mp hzeros, by simp, by simp⟩
    · simpa [Number.whole, hneg] using hrange
    · rw [hsign]
      simp [Number.text, List.takeWhile_append_dropWhile]
    · simp [Number.whole, hneg]

theorem number_plain {n : Number} (hn : n.Valid) : ∀ c ∈ n.text, c ≠ '\\' := by
  have hdigits : ∀ ds : List Char, Digits ds → ∀ c ∈ ds, c ≠ '\\' := by
    rintro ds hds c hc rfl
    exact absurd (hds.2 _ hc) (by decide)
  obtain ⟨minus, int, frac, exp⟩ := n
  obtain ⟨hint, -, hfrac, hexp⟩ := hn
  intro c hc
  simp only [Number.text, List.mem_append] at hc
  rcases hc with ((hc | hc) | hc) | hc
  · cases minus with
    | true =>
      rw [List.mem_singleton.mp hc]
      decide
    | false => cases hc
  · exact hdigits int hint c hc
  · cases frac with
    | none => cases hc
    | some ds =>
      rcases List.mem_cons.mp hc with rfl | hc
      · decide
      · exact hdigits ds (hfrac ds rfl) c hc
  · cases exp with
    | none => cases hc
    | some e =>
      obtain ⟨hmarker, hsign, hds⟩ := hexp e rfl
      simp only [Option.elim, Exponent.text, List.cons_append, List.mem_cons, List.mem_append,
        Option.mem_toList] at hc
      rcases hc with rfl | hc | hc
      · rcases hmarker with h | h <;> rw [h] <;> decide
      · rcases hsign c hc with rfl | rfl <;> decide
      · exact hdigits _ hds c hc

mutual

/-- No JSON value contains an escape `\u+`. -/
theorem plusEscape_spells {j : Tree} {t : List Char} :
    Spells j t → ∀ r, plusEscape (t ++ r) = plusEscape r
  | .null, r => plusEscape_plain (by simp) r
  | .true, r => plusEscape_plain (by simp) r
  | .false, r => plusEscape_plain (by simp) r
  | .number hn, r => plusEscape_plain (number_plain hn) r
  | .string hv, r => plusEscape_stringText hv r
  | .emptyArray hw, r => by
    rw [List.cons_append, List.append_assoc, plusEscape_cons (by decide), plusEscape_ws hw]
    exact plusEscape_cons (by decide) r
  | .array helements, r => by
    rw [List.cons_append, plusEscape_cons (by decide), plusEscape_elements helements]
  | .emptyObject hw, r => by
    rw [List.cons_append, List.append_assoc, plusEscape_cons (by decide), plusEscape_ws hw]
    exact plusEscape_cons (by decide) r
  | .object hmembers, r => by
    rw [List.cons_append, plusEscape_cons (by decide), plusEscape_members hmembers]

theorem plusEscape_elements {js : List Tree} {t : List Char} :
    SpellsElements js t → ∀ r, plusEscape (t ++ r) = plusEscape r
  | .last hw hj hw', r => by
    simp only [List.append_assoc, List.cons_append, List.nil_append]
    rw [plusEscape_ws hw, plusEscape_spells hj, plusEscape_ws hw', plusEscape_cons (by decide)]
  | .more hw hj hw' hrest, r => by
    simp only [List.append_assoc, List.cons_append]
    rw [plusEscape_ws hw, plusEscape_spells hj, plusEscape_ws hw', plusEscape_cons (by decide),
      plusEscape_elements hrest]

theorem plusEscape_members {members : List (List CharUnit × Tree)} {t : List Char} :
    SpellsMembers members t → ∀ r, plusEscape (t ++ r) = plusEscape r
  | .last hw hv hw₁ hw₂ hj hw₃, r => by
    simp only [List.append_assoc, List.cons_append, List.nil_append]
    rw [plusEscape_ws hw, plusEscape_stringText hv, plusEscape_ws hw₁, plusEscape_cons (by decide),
      plusEscape_ws hw₂, plusEscape_spells hj, plusEscape_ws hw₃, plusEscape_cons (by decide)]
  | .more hw hv hw₁ hw₂ hj hw₃ hrest, r => by
    simp only [List.append_assoc, List.cons_append]
    rw [plusEscape_ws hw, plusEscape_stringText hv, plusEscape_ws hw₁, plusEscape_cons (by decide),
      plusEscape_ws hw₂, plusEscape_spells hj, plusEscape_ws hw₃, plusEscape_cons (by decide),
      plusEscape_members hrest]

end

theorem ws_append {w' : List Char} (hw : Ws w) (hw' : Ws w') : Ws (w ++ w') :=
  fun c hc => (List.mem_append.mp hc).elim (hw c) (hw' c)

theorem SpellsElements.blank (hw : Ws w) (h : SpellsElements js t) :
    SpellsElements js (w ++ t) := by
  cases h with
  | last hw₀ hj hw' =>
    rw [← List.append_assoc]
    exact .last (ws_append hw hw₀) hj hw'
  | more hw₀ hj hw' hrest =>
    rw [← List.append_assoc]
    exact .more (ws_append hw hw₀) hj hw' hrest

theorem SpellsMembers.blank (hw : Ws w) (h : SpellsMembers members t) :
    SpellsMembers members (w ++ t) := by
  cases h with
  | last hw₀ hv hw₁ hw₂ hj hw₃ =>
    rw [← List.append_assoc]
    exact .last (ws_append hw hw₀) hv hw₁ hw₂ hj hw₃
  | more hw₀ hv hw₁ hw₂ hj hw₃ hrest =>
    rw [← List.append_assoc]
    exact .more (ws_append hw hw₀) hv hw₁ hw₂ hj hw₃ hrest

/-- The character a parser stands at, and what is behind it. -/
theorem peek_some (h : p.peek = some c) : p.rest = c :: p.advance.rest := by
  obtain ⟨rest, o⟩ := p
  cases rest with
  | nil => cases h
  | cons d cs =>
    obtain rfl := Option.some.inj h
    rfl

theorem expect_sound (h : p.expect c = .ok p') : p.rest = c :: p'.rest := by
  unfold expect at h
  split at h
  · rename_i hpeek
    rw [peek_some hpeek, Except.ok.inj h]
  · cases h

mutual

/-- What `value` reads is a restricted JSON value. -/
theorem value_sound : ∀ (fuel : Nat) {p p' : Parser} {v : Value}, value fuel p = .ok (v, p') →
    plusEscape p.rest = false →
    ∃ j t, Spells j t ∧ Restricted j ∧ treeValue j = v ∧ p.rest = t ++ p'.rest
  | 0, _, _, _, h, _ => by cases h
  | fuel + 1, p, p', v, h, hplus => by
    unfold value at h
    split at h
    · cases h
    · obtain ⟨rfl, hrest⟩ := literal_sound h
      exact ⟨.null, _, .null, trivial, rfl, hrest⟩
    · obtain ⟨rfl, hrest⟩ := literal_sound h
      exact ⟨.bool true, _, .true, trivial, rfl, hrest⟩
    · obtain ⟨rfl, hrest⟩ := literal_sound h
      exact ⟨.bool false, _, .false, trivial, rfl, hrest⟩
    · obtain ⟨⟨text, q⟩, htext, hok⟩ := bind_ok h
      obtain ⟨rfl, rfl⟩ := Prod.mk.inj (Except.ok.inj hok)
      obtain ⟨units, hv, hs, hrest, rfl⟩ := string_sound htext hplus
      exact ⟨.string units, _, .string hv, hs, rfl, hrest⟩
    · rename_i hpeek
      have hopen := peek_some hpeek
      obtain ⟨w, hw, hskip, -⟩ := skipWhitespace_sound p.advance
      rw [hopen, hskip, plusEscape_cons (by decide), plusEscape_ws hw] at hplus
      dsimp only at h
      split at h
      · rename_i hclose
        obtain ⟨rfl, rfl⟩ := Prod.mk.inj (Except.ok.inj h)
        refine ⟨.array [], _, .emptyArray hw, trivial, rfl, ?_⟩
        rw [hopen, hskip, peek_some hclose]
        simp
      · obtain ⟨js, t, hjs, hrestricted, hvalue, hrest⟩ := arrayLoop_sound fuel h hplus
        refine ⟨.array js, _, .array (SpellsElements.blank hw hjs), hrestricted, hvalue.symm, ?_⟩
        rw [hopen, hskip, hrest]
        simp
    · rename_i hpeek
      have hopen := peek_some hpeek
      obtain ⟨w, hw, hskip, -⟩ := skipWhitespace_sound p.advance
      rw [hopen, hskip, plusEscape_cons (by decide), plusEscape_ws hw] at hplus
      dsimp only at h
      split at h
      · rename_i hclose
        obtain ⟨rfl, rfl⟩ := Prod.mk.inj (Except.ok.inj h)
        refine ⟨.object [], _, .emptyObject hw, ⟨List.nodup_nil, trivial⟩, rfl, ?_⟩
        rw [hopen, hskip, peek_some hclose]
        simp
      · obtain ⟨members, t, hm, hrestricted, hkeys, -, hvalue, hrest⟩ :=
          objectLoop_sound fuel h hplus
        refine ⟨.object members, _, .object (SpellsMembers.blank hw hm), ⟨hkeys, hrestricted⟩,
          hvalue.symm, ?_⟩
        rw [hopen, hskip, hrest]
        simp
    · split at h
      · obtain ⟨n, hn, hfrac, hexp, hrange, hrest, rfl⟩ := integer_sound h
        exact ⟨.number n, _, .number hn, ⟨hfrac, hexp, hrange⟩, rfl, hrest⟩
      · cases h

theorem arrayLoop_sound : ∀ (fuel : Nat) {values : List Value} {p p' : Parser} {v : Value},
    arrayLoop fuel values p = .ok (v, p') → plusEscape p.rest = false →
    ∃ js t, SpellsElements js t ∧ RestrictedElements js ∧ v = .arr (values ++ treeValues js) ∧
      p.rest = t ++ p'.rest
  | 0, _, _, _, _, h, _ => by cases h
  | fuel + 1, values, p, p', v, h, hplus => by
    unfold arrayLoop at h
    obtain ⟨⟨u, q⟩, hu, h⟩ := bind_ok h
    obtain ⟨w, hw, hskip, -⟩ := skipWhitespace_sound p
    rw [hskip, plusEscape_ws hw] at hplus
    obtain ⟨j, t, hj, hrestricted, rfl, hread⟩ := value_sound fuel hu hplus
    obtain ⟨w', hw', hskip', -⟩ := skipWhitespace_sound q
    dsimp only at h
    split at h
    · rename_i hcomma
      have hnext : plusEscape q.skipWhitespace.advance.rest = false := by
        rw [hread, plusEscape_spells hj, hskip', plusEscape_ws hw', peek_some hcomma,
          plusEscape_cons (by decide)] at hplus
        exact hplus
      obtain ⟨js, t', hjs, hrest, rfl, hleft⟩ := arrayLoop_sound fuel h hnext
      refine ⟨j :: js, _, .more hw hj hw' hjs, ⟨hrestricted, hrest⟩, by simp [treeValues], ?_⟩
      rw [hskip, hread, hskip', peek_some hcomma, hleft]
      simp
    · rename_i hclose
      obtain ⟨rfl, rfl⟩ := Prod.mk.inj (Except.ok.inj h)
      refine ⟨[j], _, .last hw hj hw', ⟨hrestricted, trivial⟩, by simp [treeValues], ?_⟩
      rw [hskip, hread, hskip', peek_some hclose]
      simp
    · cases h

theorem objectLoop_sound : ∀ (fuel : Nat) {entries : List (String × Value)} {p p' : Parser}
    {v : Value}, objectLoop fuel entries p = .ok (v, p') → plusEscape p.rest = false →
    ∃ members t, SpellsMembers members t ∧ RestrictedMembers members ∧
      (memberKeys members).Nodup ∧ (∀ k ∈ memberKeys members, find k entries = none) ∧
      v = .obj ((treeEntries members).foldl (fun m p => put p.1 p.2 m) entries) ∧
      p.rest = t ++ p'.rest
  | 0, _, _, _, _, h, _ => by cases h
  | fuel + 1, entries, p, p', v, h, hplus => by
    unfold objectLoop at h
    obtain ⟨⟨key, q⟩, hkey, h⟩ := bind_ok h
    obtain ⟨w, hw, hskip, -⟩ := skipWhitespace_sound p
    rw [hskip, plusEscape_ws hw] at hplus
    obtain ⟨units, hv, hs, hname, rfl⟩ := string_sound hkey hplus
    dsimp only at h
    split at h
    · cases h
    rename_i hnew
    rw [Bool.not_eq_true, Option.isSome_eq_false_iff, Option.isNone_iff_eq_none] at hnew
    obtain ⟨q₁, hcolon, h⟩ := bind_ok h
    obtain ⟨w₁, hw₁, hskip₁, -⟩ := skipWhitespace_sound q
    obtain ⟨w₂, hw₂, hskip₂, -⟩ := skipWhitespace_sound q₁
    obtain ⟨⟨u, q₂⟩, hu, h⟩ := bind_ok h
    rw [hname, plusEscape_stringText hv, hskip₁, plusEscape_ws hw₁, expect_sound hcolon,
      plusEscape_cons (by decide), hskip₂, plusEscape_ws hw₂] at hplus
    obtain ⟨j, t, hj, hrestricted, rfl, hread⟩ := value_sound fuel hu hplus
    obtain ⟨w₃, hw₃, hskip₃, -⟩ := skipWhitespace_sound q₂
    have hall : p.rest =
        w ++ (stringText units ++ (w₁ ++ ':' :: (w₂ ++ (t ++ (w₃ ++ q₂.skipWhitespace.rest))))) := by
      rw [hskip, hname, hskip₁, expect_sound hcolon, hskip₂, hread, hskip₃]
    dsimp only at h
    split at h
    · rename_i hcomma
      have hnext : plusEscape q₂.skipWhitespace.advance.rest = false := by
        rw [hread, plusEscape_spells hj, hskip₃, plusEscape_ws hw₃, peek_some hcomma,
          plusEscape_cons (by decide)] at hplus
        exact hplus
      obtain ⟨members, t', hm, hrest, hkeys, hfresh, rfl, hleft⟩ := objectLoop_sound fuel h hnext
      have habsent : unitsText units ∉ memberKeys members := by
        intro hk
        have := hfresh _ hk
        rw [find_put_self] at this
        cases this
      refine ⟨(units, j) :: members, _, .more hw hv hw₁ hw₂ hj hw₃ hm, ⟨hs, hrestricted, hrest⟩,
        List.nodup_cons.mpr ⟨habsent, hkeys⟩, ?_, rfl, ?_⟩
      · intro k hk
        rcases List.mem_cons.mp hk with rfl | hk
        · exact hnew
        · have hne : k ≠ unitsText units := by
            rintro rfl
            exact habsent hk
          have := hfresh k hk
          rwa [find_put_of_ne hne] at this
      · rw [hall, peek_some hcomma, hleft]
        simp
    · rename_i hclose
      obtain ⟨rfl, rfl⟩ := Prod.mk.inj (Except.ok.inj h)
      refine ⟨[(units, j)], _, .last hw hv hw₁ hw₂ hj hw₃, ⟨hs, hrestricted, trivial⟩,
        by simp [memberKeys], ?_, rfl, ?_⟩
      · intro k hk
        rw [List.mem_singleton.mp hk]
        exact hnew
      · rw [hall, peek_some hclose]
        simp
    · cases h

end

end Parser

open Pantheon.Parser

/-- The parser reads every restricted JSON text, as the value it stands for. -/
theorem parse_complete (h : SpellsText j source.toList) (hj : Restricted j) :
    parse source = .ok (treeValue j) := by
  obtain ⟨w, t, w', hw, ht, hw', hsource⟩ := h
  have hcost := cost_le ht
  have hlength : t.length ≤ source.toList.length := by
    rw [hsource, List.length_append, List.length_append]
    omega
  obtain ⟨o₁, h₁⟩ := skipWhitespace_blank hw (spells_unblank ht (r := w')) 0
  obtain ⟨o₂, h₂⟩ := value_complete ht (2 * source.toList.length + 1) w' o₁ hj (by omega)
    (by simpa using follows_ws hw' follows_nil)
  obtain ⟨o₃, h₃⟩ := skipWhitespace_blank hw' unblank_nil o₂
  rw [List.append_nil] at h₃
  unfold parse
  rw [← hsource] at h₁
  simp only [h₁, h₂, ok_bind, h₃]
  rfl

end Pantheon
