import Mathlib.Data.List.Basic
import SurfaceLint.Json
import SurfaceLint.Json.Reader
import SurfaceLint.Proofs.Text.Scan

/-!
# Reading printed strings and numbers

Strings are read back whatever characters they hold: those that would end a string or break a
line are escaped, and no character has the number of a surrogate. Numbers are read back to the
last digit. A number ends where its last digit does only if what follows cannot be a part of
it, so the statements carry the text behind a number along.
-/

namespace SurfaceLint.Json

/-! ## Strings -/

theorem hexValue?_hexDigit {n : Nat} (h : n < 16) : hexValue? (hexDigit n) = some n := by
  have hall : ∀ n < 16, hexValue? (hexDigit n) = some n := by decide
  exact hall n h

theorem hex4?_hexDigit {n : Nat} (h : n < 0x20) :
    hex4? '0' '0' (hexDigit (n / 16)) (hexDigit (n % 16)) = some n := by
  have hzero : hexValue? '0' = some 0 := by decide
  simp only [hex4?, hzero, hexValue?_hexDigit (show n / 16 < 16 by omega),
    hexValue?_hexDigit (show n % 16 < 16 by omega), Option.bind_eq_bind, Option.bind_some]
  exact congrArg some (by omega)

theorem readUnits?_escapeChar (c : Char) (rest : Text) :
    readUnits? (escapeChar c ++ rest) =
      (readUnits? rest).map fun read => (c.toNat :: read.1, read.2) := by
  by_cases hshort : c ∈ ['"', '\\', '\n', '\r', '\t', '\x08', '\x0c']
  · simp only [List.mem_cons, List.not_mem_nil, or_false] at hshort
    rcases hshort with rfl | rfl | rfl | rfl | rfl | rfl | rfl <;>
      cases hread : readUnits? rest <;> simp [escapeChar, readUnits?, escapeValue?, hread]
  · simp only [List.mem_cons, List.not_mem_nil, or_false, not_or] at hshort
    obtain ⟨hquote, hbackslash, hnewline, hreturn, htab, hbackspace, hfeed⟩ := hshort
    simp only [escapeChar, hquote, hbackslash, hnewline, hreturn, htab, hbackspace, hfeed,
      if_false]
    by_cases hcontrol : c.toNat < 0x20
    · rw [if_pos hcontrol]
      simp only [List.cons_append, List.nil_append, readUnits?, hex4?_hexDigit hcontrol]
      cases readUnits? rest <;> rfl
    · rw [if_neg hcontrol]
      cases hread : readUnits? rest <;>
        simp [readUnits?, hbackslash, hcontrol, hread]

theorem readUnits?_flatMap_escapeChar (s rest : Text) :
    readUnits? (s.flatMap escapeChar ++ '"' :: rest) = some (s.map Char.toNat, rest) := by
  induction s with
  | nil => rfl
  | cons c s ih =>
    rw [List.flatMap_cons, List.append_assoc, readUnits?_escapeChar, ih]
    rfl

theorem surrogates_toNat (c : Char) :
    isHighSurrogate c.toNat = false ∧ isLowSurrogate c.toNat = false := by
  have hvalid : c.toNat < 0xD800 ∨ 0xDFFF < c.toNat ∧ c.toNat < 0x110000 := c.valid
  simp only [isHighSurrogate, isLowSurrogate, Bool.and_eq_false_iff, decide_eq_false_iff_not]
  omega

theorem unitChars_map_toNat (s : Text) : unitChars (s.map Char.toNat) = s := by
  induction s with
  | nil => rfl
  | cons c s ih =>
    obtain ⟨hhigh, hlow⟩ := surrogates_toNat c
    cases s with
    | nil => simp [unitChars, hhigh, hlow, Char.ofNat_toNat]
    | cons d s =>
      rw [List.map_cons] at ih
      simp [unitChars, hhigh, hlow, Char.ofNat_toNat, ih]

theorem readString?_escaped (s : String) (rest : Text) :
    readString? (s.toList.flatMap escapeChar ++ '"' :: rest) = some (s, rest) := by
  simp [readString?, readUnits?_flatMap_escapeChar, unitChars_map_toNat]

/-! ## Numbers -/

/-- A number that stands before the text goes no further than its last digit. -/
def EndsNumber (rest : Text) : Prop :=
  ∀ c ∈ rest.head?, c.isDigit = false ∧ c ≠ '.' ∧ c ≠ 'e' ∧ c ≠ 'E'

theorem ne_of_isDigit {c other : Char} (h : c.isDigit = true) (hother : other.isDigit = false) :
    c ≠ other := by
  rintro rfl
  simp [h] at hother

theorem digitsValue_toDigits (n : Nat) : digitsValue (Nat.toDigits 10 n) = n := by
  have hvalue : digitsValue (Nat.toDigits 10 n) = Nat.ofDigitChars 10 (Nat.toDigits 10 n) 0 := by
    simp only [digitsValue, Nat.ofDigitChars_eq_foldl, Nat.mul_comm 10]
    rfl
  rw [hvalue, Nat.ofDigitChars_ten_toDigits]

theorem isDigit_of_mem_toDigits {n : Nat} {c : Char} (h : c ∈ Nat.toDigits 10 n) :
    c.isDigit = true :=
  Nat.isDigit_of_mem_toDigits (by decide) (by decide) h

theorem exists_toDigits_eq_cons (n : Nat) :
    ∃ digit digits, Nat.toDigits 10 n = digit :: digits ∧ digit.isDigit = true := by
  cases hdigits : Nat.toDigits 10 n with
  | nil => exact absurd hdigits Nat.toDigits_ne_nil
  | cons digit digits =>
    exact ⟨digit, digits, rfl, isDigit_of_mem_toDigits (hdigits ▸ List.mem_cons_self)⟩

theorem readDigits?_append {digits rest : Text} (hall : ∀ c ∈ digits, c.isDigit = true)
    (hne : digits ≠ []) (hrest : ∀ c ∈ rest.head?, c.isDigit = false) :
    readDigits? (digits ++ rest) = some (digits, rest) := by
  rw [readDigits?, takeWhile_append_of_stop hall hrest, dropWhile_append_of_stop hall hrest]
  cases digits with
  | nil => exact absurd rfl hne
  | cons digit digits => rfl

theorem readDigits?_toDigits (n : Nat) {rest : Text} (h : ∀ c ∈ rest.head?, c.isDigit = false) :
    readDigits? (Nat.toDigits 10 n ++ rest) = some (Nat.toDigits 10 n, rest) :=
  readDigits?_append (fun _ => isDigit_of_mem_toDigits) Nat.toDigits_ne_nil h

theorem head?_toDigits_ne_zero {n : Nat} (h : 0 < n) : (Nat.toDigits 10 n).head? ≠ some '0' := by
  induction n using Nat.strong_induction_on with
  | _ n ih =>
    rcases Nat.lt_or_ge n 10 with hsmall | hlarge
    · rw [Nat.toDigits_of_lt_base hsmall]
      simpa [Nat.digitChar_eq_zero] using h.ne'
    · rw [Nat.toDigits_of_base_le (by decide) hlarge,
        List.head?_append_of_ne_nil _ Nat.toDigits_ne_nil]
      exact ih (n / 10) (by omega) (by omega)

theorem readWhole?_toDigits (n : Nat) {rest : Text} (h : ∀ c ∈ rest.head?, c.isDigit = false) :
    readWhole? (Nat.toDigits 10 n ++ rest) = some (Nat.toDigits 10 n, rest) := by
  rcases Nat.eq_zero_or_pos n with rfl | hpos
  · rfl
  · rw [← readDigits?_toDigits n h]
    obtain ⟨digit, digits, hdigits, -⟩ := exists_toDigits_eq_cons n
    have hzero : digit ≠ '0' := by simpa [hdigits] using head?_toDigits_ne_zero hpos
    simp [readWhole?, hdigits, hzero]

/-- The digits of a number, behind a sign if it is negative. -/
def signedDigits (negative : Bool) (n : Nat) : Text :=
  (if negative then ['-'] else []) ++ Nat.toDigits 10 n

theorem renderInt_eq (n : Int) : renderInt n = signedDigits (n < 0) n.natAbs := by
  rw [renderInt, Int.toString_eq_repr]
  cases n with
  | ofNat n => simp [Int.repr, signedDigits, Nat.repr_eq_ofList_toDigits]
  | negSucc n => simp [Int.repr, signedDigits, Nat.repr_eq_ofList_toDigits]

theorem renderDecimal_eq (d : Decimal) :
    renderDecimal d = signedDigits d.negative d.digits ++ 'e' :: renderInt d.exponent := by
  simp [renderDecimal, signedDigits]

/-- Digits without a fraction are an integer, or with an exponent a decimal. -/
theorem readNumber?_signedDigits (negative : Bool) (n : Nat) {rest behind : Text}
    {exponent : Option Int} (hdigit : ∀ c ∈ rest.head?, c.isDigit = false)
    (hfraction : readFraction? rest = some ([], rest))
    (hexponent : readExponent? rest = some (exponent, behind)) :
    readNumber? (signedDigits negative n ++ rest) =
      some (exponent.elim (.int (if negative then -(n : Int) else n)) (.real ⟨negative, n, ·⟩),
        behind) := by
  have hwhole := readWhole?_toDigits n hdigit
  cases negative with
  | true =>
    cases exponent <;>
      simp [signedDigits, readNumber?, hwhole, hfraction, hexponent, digitsValue_toDigits]
  | false =>
    obtain ⟨digit, digits, hdigits, hdigit⟩ := exists_toDigits_eq_cons n
    have hminus : digit ≠ '-' := ne_of_isDigit hdigit rfl
    have hvalue : digitsValue (digit :: digits) = n := hdigits ▸ digitsValue_toDigits n
    rw [hdigits, List.cons_append] at hwhole
    cases exponent <;>
      simp [signedDigits, readNumber?, hdigits, hminus, hwhole, hfraction, hexponent, hvalue]

theorem EndsNumber.readFraction? {rest : Text} (h : EndsNumber rest) :
    readFraction? rest = some ([], rest) := by
  cases rest with
  | nil => rfl
  | cons c rest => simp [Json.readFraction?, (h c rfl).2.1]

theorem EndsNumber.readExponent? {rest : Text} (h : EndsNumber rest) :
    readExponent? rest = some (none, rest) := by
  cases rest with
  | nil => rfl
  | cons c rest => simp [Json.readExponent?, (h c rfl).2.2]

theorem readNumber?_renderInt (n : Int) {rest : Text} (h : EndsNumber rest) :
    readNumber? (renderInt n ++ rest) = some (.int n, rest) := by
  rw [renderInt_eq, readNumber?_signedDigits _ _ (fun c hc => (h c hc).1) h.readFraction?
    h.readExponent?]
  have hsign : (if decide (n < 0) = true then -(n.natAbs : Int) else n.natAbs) = n := by
    simp only [decide_eq_true_eq]
    omega
  rw [hsign]
  rfl

theorem readExponent?_renderInt (n : Int) {rest : Text} (h : EndsNumber rest) :
    readExponent? ('e' :: (renderInt n ++ rest)) = some (some n, rest) := by
  have hread := readDigits?_toDigits n.natAbs fun c hc => (h c hc).1
  rw [renderInt_eq]
  by_cases hneg : n < 0
  · have hsign : -(n.natAbs : Int) = n := by omega
    simp only [signedDigits, hneg, decide_true, if_true, List.cons_append, List.nil_append,
      readExponent?, true_or, hread, Option.map_some, digitsValue_toDigits, hsign]
  · obtain ⟨digit, digits, hdigits, hdigit⟩ := exists_toDigits_eq_cons n.natAbs
    have hminus : digit ≠ '-' := ne_of_isDigit hdigit rfl
    have hplus : digit ≠ '+' := ne_of_isDigit hdigit rfl
    have hvalue : digitsValue (digit :: digits) = n.natAbs :=
      hdigits ▸ digitsValue_toDigits n.natAbs
    have hsign : (n.natAbs : Int) = n := by omega
    rw [hdigits, List.cons_append] at hread
    simp only [signedDigits, hneg, decide_false, Bool.false_eq_true, if_false, hdigits,
      List.cons_append, List.nil_append, readExponent?, true_or, if_true, hread, Option.map_some,
      hvalue, hsign]
    simp [hminus, hplus]

theorem readNumber?_renderDecimal (d : Decimal) {rest : Text} (h : EndsNumber rest) :
    readNumber? (renderDecimal d ++ rest) = some (.real d, rest) := by
  rw [renderDecimal_eq, List.append_assoc, List.cons_append,
    readNumber?_signedDigits _ _ (by simp) rfl (readExponent?_renderInt d.exponent h)]
  rfl

end SurfaceLint.Json
