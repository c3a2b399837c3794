import SurfaceLint.Json
import SurfaceLint.Text.Encoding

/-!
# Reading structured values

A reader takes a value from the front of a text and returns the rest. Every value, item
and field takes at least one character, so the length of the text bounds the work. Control
characters inside strings have to be escaped, and a number has no zeros in front.
-/

namespace SurfaceLint.Json

/-- The four characters that may stand between the parts of a value. -/
def isGap (c : Char) : Bool :=
  c == ' ' || c == '\n' || c == '\t' || c == '\r'

def skipGaps (text : Text) : Text :=
  text.dropWhile isGap

/-- The number that four hexadecimal digits write. -/
def hex4? (a b c d : Char) : Option Nat := do
  return (((← hexValue? a) * 16 + (← hexValue? b)) * 16 + (← hexValue? c)) * 16 + (← hexValue? d)

/-- The number of the character that a short escape writes. -/
def escapeValue? (c : Char) : Option Nat :=
  match c with
  | '"' => some 0x22
  | '\\' => some 0x5C
  | '/' => some 0x2F
  | 'b' => some 0x08
  | 'f' => some 0x0C
  | 'n' => some 0x0A
  | 'r' => some 0x0D
  | 't' => some 0x09
  | _ => none

/-- Reads a string up to its closing quote, as numbers: those of characters, and those that
numeric escapes write. -/
def readUnits? : Text → Option (List Nat × Text)
  | [] => none
  | '"' :: rest => some ([], rest)
  | '\\' :: 'u' :: a :: b :: c :: d :: rest => do
    let unit ← hex4? a b c d
    let (units, rest) ← readUnits? rest
    return (unit :: units, rest)
  | '\\' :: c :: rest => do
    let unit ← escapeValue? c
    let (units, rest) ← readUnits? rest
    return (unit :: units, rest)
  | c :: rest =>
    if c.toNat < 0x20 then none
    else do
      let (units, rest) ← readUnits? rest
      return (c.toNat :: units, rest)

def isHighSurrogate (n : Nat) : Bool := 0xD800 ≤ n && n < 0xDC00

def isLowSurrogate (n : Nat) : Bool := 0xDC00 ≤ n && n < 0xE000

def joinSurrogates (high low : Nat) : Char :=
  Char.ofNat (0x10000 + (high - 0xD800) * 0x400 + (low - 0xDC00))

/-- The characters of a list of numbers. Two surrogates may write one character; one without
its partner becomes the replacement character. -/
def unitChars : List Nat → Text
  | [] => []
  | high :: low :: rest =>
    if isHighSurrogate high && isLowSurrogate low then joinSurrogates high low :: unitChars rest
    else if isHighSurrogate high || isLowSurrogate high then '�' :: unitChars (low :: rest)
    else Char.ofNat high :: unitChars (low :: rest)
  | [unit] =>
    if isHighSurrogate unit || isLowSurrogate unit then ['�'] else [Char.ofNat unit]

def readString? (text : Text) : Option (String × Text) :=
  (readUnits? text).map fun (units, rest) => (String.ofList (unitChars units), rest)

def digitsValue (digits : Text) : Nat :=
  digits.foldl (fun n c => n * 10 + (c.toNat - 48)) 0

/-- Reads one or more digits. -/
def readDigits? (text : Text) : Option (Text × Text) :=
  match text.takeWhile Char.isDigit with
  | [] => none
  | digits => some (digits, text.dropWhile Char.isDigit)

/-- Reads the digits of a whole number: a lone zero, or digits without a zero in front. -/
def readWhole? (text : Text) : Option (Text × Text) :=
  match text with
  | '0' :: rest => some (['0'], rest)
  | _ => readDigits? text

/-- Reads the digits behind a decimal point, if there is one. -/
def readFraction? : Text → Option (Text × Text)
  | '.' :: rest => readDigits? rest
  | text => some ([], text)

/-- Reads an exponent, if there is one. -/
def readExponent? (text : Text) : Option (Option Int × Text) :=
  match text with
  | c :: rest =>
    if c = 'e' ∨ c = 'E' then
      match rest with
      | '-' :: rest =>
        (readDigits? rest).map fun (ds, rest) => (some (-(digitsValue ds : Int)), rest)
      | '+' :: rest => (readDigits? rest).map fun (ds, rest) => (some (digitsValue ds), rest)
      | _ => (readDigits? rest).map fun (ds, rest) => (some (digitsValue ds), rest)
    else some (none, text)
  | [] => some (none, [])

def readNumber? (text : Text) : Option (Json × Text) := do
  let (negative, text) :=
    match text with
    | '-' :: rest => (true, rest)
    | _ => (false, text)
  let (whole, text) ← readWhole? text
  let (fraction, text) ← readFraction? text
  let (exponent, text) ← readExponent? text
  match fraction, exponent with
  | [], none =>
    let n : Int := digitsValue whole
    return (.int (if negative then -n else n), text)
  | _, _ =>
    return (.real ⟨negative, digitsValue (whole ++ fraction),
      exponent.getD 0 - fraction.length⟩, text)

/-- What follows a literal. -/
def expect? (literal text : Text) : Option Text :=
  match literal, text with
  | [], text => some text
  | l :: literal, c :: text => if l = c then expect? literal text else none
  | _ :: _, [] => none

mutual

def readValue? : Nat → Text → Option (Json × Text)
  | 0, _ => none
  | fuel + 1, text =>
    match skipGaps text with
    | [] => none
    | 'n' :: rest => (expect? ['u', 'l', 'l'] rest).map (.null, ·)
    | 't' :: rest => (expect? ['r', 'u', 'e'] rest).map (.bool true, ·)
    | 'f' :: rest => (expect? ['a', 'l', 's', 'e'] rest).map (.bool false, ·)
    | '"' :: rest => (readString? rest).map fun (s, rest) => (.string s, rest)
    | '[' :: rest =>
      match skipGaps rest with
      | ']' :: rest => some (.array [], rest)
      | rest => (readItems? fuel rest).map fun (items, rest) => (.array items, rest)
    | '\x7b' :: rest =>
      match skipGaps rest with
      | '\x7d' :: rest => some (.object [], rest)
      | rest => (readFields? fuel [] rest).map fun (fields, rest) => (.object fields, rest)
    | c :: rest => readNumber? (c :: rest)

/-- Reads the items of an array up to its closing bracket. -/
def readItems? : Nat → Text → Option (List Json × Text)
  | 0, _ => none
  | fuel + 1, text => do
    let (item, rest) ← readValue? fuel text
    match skipGaps rest with
    | ',' :: rest =>
      let (items, rest) ← readItems? fuel rest
      return (item :: items, rest)
    | ']' :: rest => return ([item], rest)
    | _ => none

/-- Reads the fields of an object up to its closing brace. -/
def readFields? : Nat → List (String × Json) → Text → Option (List (String × Json) × Text)
  | 0, _, _ => none
  | fuel + 1, fields, text =>
    match skipGaps text with
    | '"' :: rest => do
      let (key, rest) ← readString? rest
      let rest ← expect? [':'] (skipGaps rest)
      let (value, rest) ← readValue? fuel rest
      let fields := insertField key value fields
      match skipGaps rest with
      | ',' :: rest => readFields? fuel fields rest
      | '\x7d' :: rest => return (fields, rest)
      | _ => none
    | _ => none

end

/-- Reads a text that holds one value and nothing else but gaps. -/
def ofText? (text : Text) : Option Json :=
  match readValue? (2 * text.length + 2) text with
  | some (value, rest) => if (skipGaps rest).isEmpty then some value else none
  | none => none

end SurfaceLint.Json
