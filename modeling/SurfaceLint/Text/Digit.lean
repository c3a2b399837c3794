import SurfaceLint.Text.Character

/-!
# Decimal digits and integers

The decimal digits of all scripts in Unicode 14.0. Each script has ten of them in a row,
so the table lists the zeros. An integer may be written with digits of any script, a sign
and single underscores between digits.
-/

namespace SurfaceLint

def decimalZeros : List Nat :=
  [0x30, 0x660, 0x6F0, 0x7C0, 0x966, 0x9E6, 0xA66, 0xAE6, 0xB66, 0xBE6, 0xC66, 0xCE6, 0xD66, 0xDE6,
   0xE50, 0xED0, 0xF20, 0x1040, 0x1090, 0x17E0, 0x1810, 0x1946, 0x19D0, 0x1A80, 0x1A90, 0x1B50,
   0x1BB0, 0x1C40, 0x1C50, 0xA620, 0xA8D0, 0xA900, 0xA9D0, 0xA9F0, 0xAA50, 0xABF0, 0xFF10, 0x104A0,
   0x10D30, 0x11066, 0x110F0, 0x11136, 0x111D0, 0x112F0, 0x11450, 0x114D0, 0x11650, 0x116C0,
   0x11730, 0x118E0, 0x11950, 0x11C50, 0x11D50, 0x11DA0, 0x16A60, 0x16AC0, 0x16B50, 0x1D7CE,
   0x1D7D8, 0x1D7E2, 0x1D7EC, 0x1D7F6, 0x1E140, 0x1E2F0, 0x1E950, 0x1FBF0]

def digitValue? (c : Char) : Option Nat :=
  decimalZeros.findSome? fun first =>
    if first ≤ c.toNat ∧ c.toNat ≤ first + 9 then some (c.toNat - first) else none

def isDecimalDigit (c : Char) : Bool :=
  (digitValue? c).isSome

/-- The values of digits that have at most one underscore between two of them. -/
def digitValues? : Text → Option (List Nat)
  | [] => none
  | [c] => (digitValue? c).map ([·])
  | c :: '_' :: rest => do return (← digitValue? c) :: (← digitValues? rest)
  | c :: rest => do return (← digitValue? c) :: (← digitValues? rest)

/-- Blanks allowed around an integer: all but the information separators. -/
def isPadding (c : Char) : Bool :=
  isBlank c && !(0x1C ≤ c.toNat && c.toNat ≤ 0x1F)

/-- Longer integers are refused. -/
def maxIntegerDigits : Nat := 4300

def readMagnitude? (text : Text) : Option Nat := do
  let digits ← digitValues? text
  guard (digits.length ≤ maxIntegerDigits)
  return digits.foldl (fun n digit => n * 10 + digit) 0

def readInteger? (text : Text) : Option Int :=
  match trimRightWhere isPadding (text.dropWhile isPadding) with
  | '-' :: rest => (readMagnitude? rest).map fun n => -(n : Int)
  | '+' :: rest => (readMagnitude? rest).map fun n => (n : Int)
  | rest => (readMagnitude? rest).map fun n => (n : Int)

/-- A minus sign with digits behind it, perhaps with a decimal point before the last of
them. One newline at the end is overlooked. -/
def isNegativeNumber (text : Text) : Bool :=
  match text with
  | '-' :: rest =>
    let body := if rest.getLast? = some '\n' then rest.dropLast else rest
    match body.dropWhile isDecimalDigit with
    | [] => !body.isEmpty
    | '.' :: fraction => !fraction.isEmpty && fraction.all isDecimalDigit
    | _ => false
  | _ => false

end SurfaceLint
