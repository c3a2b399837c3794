import SurfaceLint.Text.Character

/-!
# Scanning a text for a pattern

A recogniser is tried at one place of a text. It sees the character before the place, if
there is one, and the text from there on. A scan tries it at every place from left to
right; where it succeeds, the scan goes on behind the characters it took, so hits never
overlap. The character before a place is seen even if an earlier hit took it.
-/

namespace SurfaceLint

/-- What a recogniser read, and how many characters that took. -/
structure Hit (α : Type) where
  value : α
  size : Nat

abbrev Recogniser (α : Type) := Option Char → Text → Option (Hit α)

/-- The hits from one place on, each with its offset. While `skip` is positive the scan is
still inside the previous hit. -/
def scanFrom (recogniser : Recogniser α) (before : Option Char) (offset skip : Nat) :
    Text → List (Nat × α)
  | [] => []
  | c :: rest =>
    match skip with
    | skip + 1 => scanFrom recogniser (some c) (offset + 1) skip rest
    | 0 =>
      match recogniser before (c :: rest) with
      | none => scanFrom recogniser (some c) (offset + 1) 0 rest
      | some hit =>
        (offset, hit.value) :: scanFrom recogniser (some c) (offset + 1) (hit.size - 1) rest

/-- All hits of a recogniser in a text, leftmost first. -/
def scan (recogniser : Recogniser α) (text : Text) : List (Nat × α) :=
  scanFrom recogniser none 0 0 text

/-- How many characters of a text are gone when `rest` is left of it. -/
def taken (text rest : Text) : Nat :=
  text.length - rest.length

/-- What follows a literal at the front of a text. -/
def after? (literal : Text) (text : Text) : Option Text :=
  match literal, text with
  | [], text => some text
  | _ :: _, [] => none
  | l :: literal, c :: text => if l = c then after? literal text else none

theorem after?_eq_some_iff {literal text rest : Text} :
    after? literal text = some rest ↔ text = literal ++ rest := by
  induction literal generalizing text with
  | nil => simp [after?]
  | cons l literal ih =>
    cases text with
    | nil => simp [after?]
    | cons c text =>
      by_cases h : l = c
      · simp [after?, h, ih]
      · simp [after?, h, Ne.symm h]

/-- No word character stands right before a place. -/
def atWordStart (before : Option Char) : Bool :=
  !before.any isWord

/-- No character of an identifier stands right before a place. -/
def atIdentifierStart (before : Option Char) : Bool :=
  !before.any isIdentifierChar

/-- No word character stands at the front of a text. -/
def atWordEnd (text : Text) : Bool :=
  !text.head?.any isWord

/-- What follows one or more blanks. -/
def afterGap? (text : Text) : Option Text :=
  match text with
  | [] => none
  | c :: rest => if isBlank c then some (skipBlanks rest) else none

/-- What follows a character, with blanks allowed in front of it. -/
def afterMark? (mark : Char) (text : Text) : Option Text :=
  match skipBlanks text with
  | [] => none
  | c :: rest => if c = mark then some rest else none

end SurfaceLint
