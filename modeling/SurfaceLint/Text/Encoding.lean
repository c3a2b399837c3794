import SurfaceLint.Text.Character

/-!
# Encodings of a text

Hexadecimal digits are written with small letters and read with either. UTF-8 is read byte
by byte: an ill-formed piece is as long as the bytes that could still have begun a
character, and at least one byte; the byte that spoils a character is read again as the
start of the next. Overlong forms, surrogates and numbers above U+10FFFF are ill-formed. In
an address, a percent sign with two hexadecimal digits behind it writes one byte and
everything else writes itself; the bytes are read as UTF-8.

Texts in error messages are quoted. The quotes are single, unless the text holds a single
quote and no double one. The quote in use, the backslash and characters without a printed
shape are escaped, the latter by number where they have no short form.
-/

namespace SurfaceLint

def hexDigit (n : Nat) : Char :=
  if n < 10 then Char.ofNat (48 + n) else Char.ofNat (87 + n)

/-- The last `width` hexadecimal digits of a number. -/
def hexDigits : (width : Nat) → Nat → Text
  | 0, _ => []
  | width + 1, n => hexDigits width (n / 16) ++ [hexDigit (n % 16)]

def hexValue? (c : Char) : Option Nat :=
  let n := c.toNat
  if 48 ≤ n ∧ n ≤ 57 then some (n - 48)
  else if 97 ≤ n ∧ n ≤ 102 then some (n - 87)
  else if 65 ≤ n ∧ n ≤ 70 then some (n - 55)
  else none

namespace Utf8

/-- A character begun: how many bytes are missing, the bounds of the next one, and the bits
so far. -/
structure Pending where
  missing : Nat
  low : Nat
  high : Nat
  bits : Nat

/-- What the first byte of a character announces. -/
inductive Lead where
  | char (c : Char)
  | pending (state : Pending)
  | bad

def lead (b : Nat) : Lead :=
  if b < 0x80 then .char (Char.ofNat b)
  else if b < 0xC2 then .bad
  else if b < 0xE0 then .pending ⟨1, 0x80, 0xBF, b - 0xC0⟩
  else if b = 0xE0 then .pending ⟨2, 0xA0, 0xBF, 0⟩
  else if b = 0xED then .pending ⟨2, 0x80, 0x9F, 0xD⟩
  else if b < 0xF0 then .pending ⟨2, 0x80, 0xBF, b - 0xE0⟩
  else if b = 0xF0 then .pending ⟨3, 0x90, 0xBF, 0⟩
  else if b < 0xF4 then .pending ⟨3, 0x80, 0xBF, b - 0xF0⟩
  else if b = 0xF4 then .pending ⟨3, 0x80, 0x8F, 4⟩
  else .bad

/-- The characters of a sequence of bytes; `none` stands for an ill-formed piece. -/
def piecesFrom (pending : Option Pending) : List UInt8 → List (Option Char)
  | [] => if pending.isSome then [none] else []
  | byte :: rest =>
    let b := byte.toNat
    let start (before : List (Option Char)) : List (Option Char) :=
      match lead b with
      | .char c => before ++ some c :: piecesFrom none rest
      | .pending state => before ++ piecesFrom (some state) rest
      | .bad => before ++ none :: piecesFrom none rest
    match pending with
    | none => start []
    | some state =>
      if state.low ≤ b ∧ b ≤ state.high then
        let bits := state.bits * 64 + (b - 0x80)
        if state.missing ≤ 1 then some (Char.ofNat bits) :: piecesFrom none rest
        else piecesFrom (some ⟨state.missing - 1, 0x80, 0xBF, bits⟩) rest
      else start [none]

def pieces (bytes : List UInt8) : List (Option Char) :=
  piecesFrom none bytes

/-- The text of well-formed bytes. -/
def decode? (bytes : List UInt8) : Option Text :=
  (pieces bytes).mapM id

/-- The text of any bytes, with U+FFFD for each ill-formed piece. -/
def decodeLossy (bytes : List UInt8) : Text :=
  (pieces bytes).map (·.getD '�')

def encode (text : Text) : List UInt8 :=
  text.flatMap String.utf8EncodeChar

end Utf8

def percentBytes : Text → List UInt8
  | [] => []
  | '%' :: a :: b :: rest =>
    match hexValue? a, hexValue? b with
    | some high, some low => (16 * high + low).toUInt8 :: percentBytes rest
    | _, _ => Utf8.encode ['%'] ++ percentBytes (a :: b :: rest)
  | c :: rest => Utf8.encode [c] ++ percentBytes rest

def percentDecode (s : String) : String :=
  String.ofList (Utf8.decodeLossy (percentBytes s.toList))

/-! ## Quoting -/

def escapeHidden (c : Char) : Text :=
  let n := c.toNat
  if n < 0x100 then "\\x".toList ++ hexDigits 2 n
  else if n < 0x10000 then "\\u".toList ++ hexDigits 4 n
  else "\\U".toList ++ hexDigits 8 n

def quoteChar (quote c : Char) : Text :=
  if c = quote ∨ c = '\\' then ['\\', c]
  else if c = '\n' then "\\n".toList
  else if c = '\r' then "\\r".toList
  else if c = '\t' then "\\t".toList
  else if isPrintable c then [c]
  else escapeHidden c

def quoteFor (text : Text) : Char :=
  if text.contains '\x27' && !text.contains '"' then '"' else '\x27'

def quoted (text : Text) : Text :=
  let quote := quoteFor text
  quote :: (text.flatMap (quoteChar quote) ++ [quote])

def quotedString (s : String) : String :=
  String.ofList (quoted s.toList)

end SurfaceLint
