import SurfaceLint.Text.Position
import SurfaceLint.Text.PrintableTable
import SurfaceLint.Text.WordTable

/-!
# Classes of characters

Blanks are the white space of Unicode, with the four information separators U+001C to
U+001F; one set serves trimming and the gaps inside patterns. A word character is a letter,
a number or the underscore. An identifier starts with an ASCII letter, an underscore or a
dollar sign and goes on with word characters and dollar signs; a dollar sign is thus part of
an identifier and yet no word character. Only ASCII letters have their case changed: the
words compared this way are ASCII, and no letter beyond ASCII has a small form that occurs
in one of them.
-/

namespace SurfaceLint

def isBlank (c : Char) : Bool :=
  let n := c.toNat
  (9 ≤ n && n ≤ 13) || (0x1C ≤ n && n ≤ 0x20) || n == 0x85 || n == 0xA0 || n == 0x1680 ||
    (0x2000 ≤ n && n ≤ 0x200A) || n == 0x2028 || n == 0x2029 || n == 0x202F || n == 0x205F ||
    n == 0x3000

def skipBlanks (text : Text) : Text :=
  text.dropWhile isBlank

/-- Drops from the end the characters of a class. -/
def trimRightWhere (drop : Char → Bool) : Text → Text
  | [] => []
  | c :: rest =>
    match trimRightWhere drop rest with
    | [] => if drop c then [] else [c]
    | kept => c :: kept

def trim (text : Text) : Text :=
  trimRightWhere isBlank (skipBlanks text)

def lower (text : Text) : Text :=
  text.map Char.toLower

/-- Whether a code point lies in one of a list of closed intervals. -/
def inRanges (ranges : List (Nat × Nat)) (n : Nat) : Bool :=
  ranges.any fun range => range.1 ≤ n && n ≤ range.2

def isWord (c : Char) : Bool :=
  if c.toNat < 0x80 then c.isAlphanum || c == '_' else inRanges wordRanges c.toNat

def isIdentifierStart (c : Char) : Bool :=
  c.isAlpha || c == '_' || c == '$'

def isIdentifierChar (c : Char) : Bool :=
  isWord c || c == '$'

/-- Reads the longest identifier at the front of a text, and what follows it. -/
def identifier? : Text → Option (Text × Text)
  | [] => none
  | c :: rest =>
    if isIdentifierStart c then
      some (c :: rest.takeWhile isIdentifierChar, rest.dropWhile isIdentifierChar)
    else none

def isIdentifier (text : Text) : Bool :=
  match identifier? text with
  | some (_, []) => true
  | _ => false

/-- The characters that a quoted text shows as themselves: every visible one, and the space. -/
def isPrintable (c : Char) : Bool :=
  if c.toNat < 0x80 then 0x20 ≤ c.toNat && c.toNat < 0x7F else !inRanges hiddenRanges c.toNat

end SurfaceLint
