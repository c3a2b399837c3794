/-!
# Positions in a text

A text is its sequence of characters, so every offset, column and length counts
characters. Lines and columns start at zero. A `Position` addresses a place that
exists; a `Cursor` is what a client asks about and may lie anywhere.
-/

namespace SurfaceLint

abbrev Text := List Char

structure Position where
  line : Nat
  column : Nat
deriving DecidableEq

/-- A half-open span. -/
structure Range where
  start : Position
  stop : Position
deriving DecidableEq

structure Cursor where
  line : Int
  column : Int
deriving DecidableEq

namespace Position

def origin : Position := ⟨0, 0⟩

/-- The position after reading one more character; a newline opens the next line. -/
def advance (p : Position) (c : Char) : Position :=
  if c = '\n' then ⟨p.line + 1, 0⟩ else ⟨p.line, p.column + 1⟩

def toCursor (p : Position) : Cursor := ⟨p.line, p.column⟩

def render (p : Position) : String :=
  toString p.line ++ ":" ++ toString p.column

end Position

/-- The whole text of a line, blanks included. -/
def Range.ofLine (number : Nat) (line : Text) : Range :=
  ⟨⟨number, 0⟩, ⟨number, line.length⟩⟩

end SurfaceLint
