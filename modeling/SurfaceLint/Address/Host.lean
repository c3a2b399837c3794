import SurfaceLint.Text.Encoding

/-!
# Numeric hosts

A host may be written as numbers in two forms. The dotted form has four decimal numbers, each
of one byte. The hexadecimal form has eight groups of up to four digits between colons; one
run of zero groups may be left out, and the last two groups may be written in the dotted
form. A zone may follow behind a percent sign.
-/

namespace SurfaceLint.Host

def decimalValue (digits : Text) : Nat :=
  digits.foldl (fun value c => 10 * value + (c.toNat - '0'.toNat)) 0

/-- A number of one byte, without leading zeros. -/
def isOctet (text : Text) : Bool :=
  text.all Char.isDigit && (text.length == 1 || text.head? != some '0') &&
    1 ≤ text.length && text.length ≤ 3 && decimalValue text ≤ 255

def isDotted (text : Text) : Bool :=
  let numbers := text.splitOn '.'
  numbers.length == 4 && numbers.all isOctet

def isGroup (text : Text) : Bool :=
  1 ≤ text.length && text.length ≤ 4 && text.all fun c => (hexValue? c).isSome

/-- How many groups are written, where the last piece may be dotted. -/
def groupCount? : List Text → Option Nat
  | [] => some 0
  | [last] => if isDotted last then some 2 else if isGroup last then some 1 else none
  | first :: rest => if isGroup first then (groupCount? rest).map (· + 1) else none

/-- The text before and behind the first double colon. -/
def splitGap? : Text → Option (Text × Text)
  | [] => none
  | ':' :: ':' :: rest => some ([], rest)
  | c :: rest => (splitGap? rest).map fun (front, back) => (c :: front, back)

/-- The pieces on one side of a double colon, where there may be none. -/
def pieces (text : Text) : List Text :=
  if text.isEmpty then [] else text.splitOn ':'

/-- All eight groups, or fewer with a double colon in the place of those left out. -/
def isGroups (text : Text) : Bool :=
  match splitGap? text with
  | none => groupCount? (text.splitOn ':') == some 8
  | some (front, back) =>
    (pieces front).all isGroup &&
      (groupCount? (pieces back)).any fun count => (pieces front).length + count < 8

def isHexadecimal (text : Text) : Bool :=
  match text.splitOn '%' with
  | [groups] => isGroups groups
  | [groups, zone] => isGroups groups && !zone.isEmpty
  | _ => false

/-- A form yet to come: a version in hexadecimal digits, a dot and anything more. -/
def isFuture (text : Text) : Bool :=
  match text with
  | 'v' :: rest =>
    let isHex := fun c => (hexValue? c).isSome
    !(rest.takeWhile isHex).isEmpty &&
      match rest.dropWhile isHex with
      | '.' :: _ :: _ => true
      | _ => false
  | _ => false

end SurfaceLint.Host
