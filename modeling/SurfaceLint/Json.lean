import SurfaceLint.Decimal
import SurfaceLint.Text.Encoding

/-!
# Structured values

The value type of the settings that a client sends and of the machine-readable report.
An object keeps its fields in the order in which they were first given. Numbers are exact:
one written with a fraction or an exponent is a `Decimal`, any other an integer.

A value is printed on one line, or with every item and field on a line of its own and two
blanks per level. Quotes, backslashes and control characters are escaped inside strings;
every other character stands for itself.
-/

namespace SurfaceLint

inductive Json where
  | null
  | bool (value : Bool)
  | int (value : Int)
  | real (value : Decimal)
  | string (value : String)
  | array (items : List Json)
  | object (fields : List (String × Json))
deriving Inhabited

namespace Json

def get? (key : String) : Json → Option Json
  | object fields => fields.lookup key
  | _ => none

/-- Sets a field: an existing one keeps its place. -/
def insertField (key : String) (value : Json) : List (String × Json) → List (String × Json)
  | [] => [(key, value)]
  | field :: rest =>
    if field.1 = key then (key, value) :: rest else field :: insertField key value rest

/-! ## Printing -/

inductive Layout where
  | compact
  | indented
deriving DecidableEq

/-- What separates items at a depth. -/
def Layout.lineBreak : Layout → Nat → Text
  | .compact, _ => []
  | .indented, depth => '\n' :: List.replicate (2 * depth) ' '

/-- What separates a field's name from its value. -/
def Layout.colon : Layout → Text
  | .compact => [':']
  | .indented => [':', ' ']

def escapeChar (c : Char) : Text :=
  if c = '"' then ['\\', '"']
  else if c = '\\' then ['\\', '\\']
  else if c = '\n' then ['\\', 'n']
  else if c = '\r' then ['\\', 'r']
  else if c = '\t' then ['\\', 't']
  else if c = '\x08' then ['\\', 'b']
  else if c = '\x0c' then ['\\', 'f']
  else if c.toNat < 0x20 then
    ['\\', 'u', '0', '0', hexDigit (c.toNat / 16), hexDigit (c.toNat % 16)]
  else [c]

def renderString (s : String) : Text :=
  '"' :: (s.toList.flatMap escapeChar ++ ['"'])

def renderInt (n : Int) : Text :=
  (toString n).toList

def renderDecimal (d : Decimal) : Text :=
  (if d.negative then ['-'] else []) ++ (toString d.digits).toList ++ 'e' :: renderInt d.exponent

mutual

/-- Prints a value whose line is indented to `depth`. -/
def render (layout : Layout) (depth : Nat) : Json → Text
  | .null => ['n', 'u', 'l', 'l']
  | .bool true => ['t', 'r', 'u', 'e']
  | .bool false => ['f', 'a', 'l', 's', 'e']
  | .int n => renderInt n
  | .real d => renderDecimal d
  | .string s => renderString s
  | .array [] => ['[', ']']
  | .array (item :: rest) =>
    '[' :: (layout.lineBreak (depth + 1) ++ render layout (depth + 1) item ++
      renderItems layout (depth + 1) rest ++ layout.lineBreak depth ++ [']'])
  | .object [] => ['\x7b', '\x7d']
  | .object ((key, value) :: rest) =>
    '\x7b' :: (layout.lineBreak (depth + 1) ++ renderString key ++ layout.colon ++
      render layout (depth + 1) value ++ renderFields layout (depth + 1) rest ++
      layout.lineBreak depth ++ ['\x7d'])

/-- Prints the items behind the first, each after a comma. -/
def renderItems (layout : Layout) (depth : Nat) : List Json → Text
  | [] => []
  | item :: rest =>
    ',' :: (layout.lineBreak depth ++ render layout depth item ++ renderItems layout depth rest)

/-- Prints the fields behind the first, each after a comma. -/
def renderFields (layout : Layout) (depth : Nat) : List (String × Json) → Text
  | [] => []
  | (key, value) :: rest =>
    ',' :: (layout.lineBreak depth ++ renderString key ++ layout.colon ++
      render layout depth value ++ renderFields layout depth rest)

end

/-- The value on one line. -/
def compact (value : Json) : String :=
  String.ofList (render .compact 0 value)

/-- The value over several lines. -/
def pretty (value : Json) : String :=
  String.ofList (render .indented 0 value)

end Json

end SurfaceLint
