import SurfaceLint.Text.Position

/-!
# Unmatched brackets

One pass over the brackets of a text with a stack of open ones. A closing bracket that
does not fit the innermost open one is reported where it stands and leaves the stack
alone. Brackets still open at the end are reported after all closing ones, in the order
in which they were opened. Strings and comments are not recognised, so a bracket inside
them counts.
-/

namespace SurfaceLint

inductive Bracket where
  | round
  | curly
  | square
deriving DecidableEq

namespace Bracket

def opener : Bracket → Char
  | round => '('
  | curly => '\x7b'
  | square => '['

def closer : Bracket → Char
  | round => ')'
  | curly => '\x7d'
  | square => ']'

def all : List Bracket := [round, curly, square]

def ofOpener? (c : Char) : Option Bracket :=
  all.find? fun b => b.opener == c

def ofCloser? (c : Char) : Option Bracket :=
  all.find? fun b => b.closer == c

end Bracket

inductive Side where
  | opening
  | closing
deriving DecidableEq

/-- One bracket of a text. -/
structure BracketMark where
  side : Side
  bracket : Bracket
  position : Position
deriving DecidableEq

def BracketMark.char (mark : BracketMark) : Char :=
  match mark.side with
  | .opening => mark.bracket.opener
  | .closing => mark.bracket.closer

/-- The bracket that a character writes, if it writes one. -/
def bracketMark? (c : Char) (position : Position) : Option BracketMark :=
  match Bracket.ofOpener? c with
  | some bracket => some ⟨.opening, bracket, position⟩
  | none => (Bracket.ofCloser? c).map fun bracket => ⟨.closing, bracket, position⟩

/-- The brackets of a text that starts at a position, in text order. -/
def bracketMarksFrom (position : Position) : Text → List BracketMark
  | [] => []
  | c :: rest =>
    (bracketMark? c position).toList ++ bracketMarksFrom (position.advance c) rest

def bracketMarks (text : Text) : List BracketMark :=
  bracketMarksFrom .origin text

/-- Brackets without a partner, `open_` being the stack of open ones, innermost first. An
opening mark is reported because nothing closes it, a closing one because it closes
nothing. -/
def unmatchedFrom (open_ : List BracketMark) : List BracketMark → List BracketMark
  | [] => open_.reverse
  | mark :: rest =>
    match mark.side, open_ with
    | .opening, _ => unmatchedFrom (mark :: open_) rest
    | .closing, top :: below =>
      if top.bracket = mark.bracket then unmatchedFrom below rest
      else mark :: unmatchedFrom open_ rest
    | .closing, [] => mark :: unmatchedFrom [] rest

/-- The brackets of a text that have no partner. -/
def unmatchedBrackets (text : Text) : List BracketMark :=
  unmatchedFrom [] (bracketMarks text)

end SurfaceLint
