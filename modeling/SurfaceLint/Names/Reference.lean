import SurfaceLint.Text.LineIndex
import SurfaceLint.Text.Scan

/-!
# References

A reference is a bare identifier passed to a call that prints. In scripts that is each
argument of `console.log`, read line by line; in Java the only argument of
`System.out.print` or `System.out.println`. Literals and longer expressions are no
references.

The text behind the opening parenthesis of a `console.log` is cut at the commas of the call
itself: those inside quotes or inside further brackets belong to an argument. Any closing
bracket ends the innermost open one, whatever its shape; the call itself is ended by a
parenthesis only.
-/

namespace SurfaceLint

/-! ## Splitting call arguments -/

/-- Where a reader of arguments stands: `depth` counts the brackets open inside the call,
and inside quotes the character after a backslash means nothing. -/
inductive ArgumentState where
  | code (depth : Nat)
  | quoted (quote : Char) (depth : Nat)
  | escaped (quote : Char) (depth : Nat)
deriving DecidableEq

/-- What one character does. -/
inductive ArgumentStep where
  | inside (next : ArgumentState)
  | comma
  | close
  | broken
deriving DecidableEq

def isQuote (c : Char) : Bool := "\"'`".toList.contains c

def isOpener (c : Char) : Bool := "([\x7b".toList.contains c

def isCloser (c : Char) : Bool := ")]\x7d".toList.contains c

def ArgumentState.step : ArgumentState → Char → ArgumentStep
  | escaped quote depth, _ => .inside (quoted quote depth)
  | quoted quote depth, c =>
    if c = '\\' then .inside (escaped quote depth)
    else if c = quote then .inside (code depth)
    else .inside (quoted quote depth)
  | code depth, c =>
    if isQuote c then .inside (quoted c depth)
    else if isOpener c then .inside (code (depth + 1))
    else if isCloser c then
      match depth with
      | depth + 1 => .inside (code depth)
      | 0 => if c = ')' then .close else .broken
    else if c = ',' ∧ depth = 0 then .comma
    else .inside (code depth)

/-- The pieces up to the end of the call; the first piece is the rest of the argument being
read. A call that is not ended has none. -/
def splitArgumentsFrom (state : ArgumentState) : Text → Option (List Text)
  | [] => none
  | c :: rest =>
    match state.step c with
    | .inside next => (splitArgumentsFrom next rest).map (·.modifyHead (c :: ·))
    | .comma => (splitArgumentsFrom (.code 0) rest).map ([] :: ·)
    | .close => some [[]]
    | .broken => none

/-- The raw arguments of a call whose opening parenthesis stands right before the text. -/
def splitArguments (text : Text) : Option (List Text) :=
  splitArgumentsFrom (.code 0) text

/-- Each argument with the offset at which it starts; one comma stands between two. -/
def argumentOffsets (start : Nat) : List Text → List (Text × Nat)
  | [] => []
  | argument :: rest =>
    (argument, start) :: argumentOffsets (start + argument.length + 1) rest

/-! ## References of a text -/

structure Reference where
  name : Text
  offset : Nat
deriving DecidableEq

def Reference.stop (reference : Reference) : Nat :=
  reference.offset + reference.name.length

def Reference.shift (distance : Nat) (reference : Reference) : Reference :=
  ⟨reference.name, distance + reference.offset⟩

/-- The start of a call, up to its opening parenthesis, and the text behind it. -/
structure CallHead where
  width : Nat
  inside : Text

def consoleCall? : Recogniser CallHead := fun _ text => do
  let rest ← after? "console.log".toList text
  let inside ← afterMark? '(' rest
  return ⟨⟨taken text inside, inside⟩, taken text inside⟩

/-- The identifier that an argument consists of, blanks aside. -/
def bareArgument? (raw : Text) (offset : Nat) : Option Reference :=
  let name := trim raw
  if isIdentifier name then some ⟨name, offset + (raw.takeWhile isBlank).length⟩ else none

/-- The references in one call that starts at an offset. -/
def callReferences (offset : Nat) (call : CallHead) : List Reference :=
  match splitArguments call.inside with
  | none => []
  | some raws =>
    (argumentOffsets (offset + call.width) raws).filterMap fun (raw, start) =>
      bareArgument? raw start

/-- The references in the `console.log` calls of one line. A call inside the arguments of
another is read as well. -/
def consoleArguments (line : Text) : List Reference :=
  (scan consoleCall? line).flatMap fun (offset, call) => callReferences offset call

/-- The references in a list of lines, the first of which starts at an offset. -/
def lineReferences (start : Nat) : List Text → List Reference
  | [] => []
  | line :: rest =>
    (consoleArguments line).map (·.shift start) ++ lineReferences (start + line.length + 1) rest

/-- The references of a script, call by call. -/
def consoleReferences (text : Text) : List Reference :=
  lineReferences 0 (splitLines text)

/-- A printing call with a single identifier; its value is relative to the call. -/
def printCall? : Recogniser Reference := fun _ text => do
  let rest ← after? "System.out.print".toList text
  let rest := (after? "ln".toList rest).getD rest
  let inside ← afterMark? '(' rest
  let argument := skipBlanks inside
  let (name, rest) ← identifier? argument
  let rest ← afterMark? ')' rest
  return ⟨⟨name, taken text argument⟩, taken text rest⟩

/-- The references of Java text, in text order. -/
def printReferences (text : Text) : List Reference :=
  (scan printCall? text).map fun (offset, reference) => reference.shift offset

end SurfaceLint
