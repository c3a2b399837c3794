import SurfaceLint.Text.Position

/-!
# Lines, offsets and positions

Only a newline ends a line, so a carriage return before it belongs to the line. A text
with `n` newlines has `n + 1` lines; the empty text has one empty line.

A `LineIndex` remembers the offsets at which the lines of one text start, collected in one
pass over its characters. The line of an offset is found among them by binary search; a
position is turned back into an offset by adding its column to the start of its line, where
the start of the next line, or the end of the text, says how far the columns go.
-/

namespace SurfaceLint

/-- What a caller is told about a request that cannot be met: one sentence and, where it
helps, a second line of detail. -/
structure Complaint where
  message : String
  detail : Option String := none
deriving DecidableEq

/-- The detail stands on an indented line of its own; an empty one is left out. -/
def Complaint.render (complaint : Complaint) : String :=
  match complaint.detail with
  | none => complaint.message
  | some detail =>
    if detail.isEmpty then complaint.message else complaint.message ++ "\n    " ++ detail

def splitLines (text : Text) : List Text :=
  text.splitOn '\n'

/-- The lines with their numbers, from zero. -/
def numberedLines (text : Text) : List (Text × Nat) :=
  (splitLines text).zipIdx

/-- Why an offset or a cursor does not address a text. -/
inductive PositionError where
  | offsetOutside (offset : Int) (length : Nat)
  | lineOutside (line : Int)
  | columnOutside (column line : Int)
deriving DecidableEq

def PositionError.message : PositionError → String
  | .offsetOutside offset length =>
    "offset " ++ toString offset ++ " is outside the text (length " ++ toString length ++ ")"
  | .lineOutside line => "line " ++ toString line ++ " is outside the text"
  | .columnOutside column line =>
    "column " ++ toString column ++ " is outside line " ++ toString line

def PositionError.complaint (error : PositionError) : Complaint :=
  ⟨error.message, none⟩

/-- Between two bounds, the first index whose entry exceeds a value, in an array whose entries
increase. -/
def bisectRight (entries : Array Nat) (value low high : Nat) (h : high ≤ entries.size) : Nat :=
  if _ : low < high then
    let middle := (low + high) / 2
    if value < entries[middle] then bisectRight entries value low middle (by omega)
    else bisectRight entries value (middle + 1) high h
  else low
termination_by high - low

theorem bisectRight_le {entries : Array Nat} {value low high : Nat} (h : high ≤ entries.size)
    (hle : low ≤ high) : bisectRight entries value low high h ≤ high := by
  fun_induction bisectRight entries value low high h with
  | case1 low high h hlt middle hbelow ih =>
    have hmiddle := ih (by omega)
    omega
  | case2 low high h hlt middle habove ih => exact ih (by omega)
  | case3 low high h hlt => exact hle

/-- The offsets at which the lines of a text start, the first line among them. -/
structure LineIndex where
  text : Text
  lineStarts : Array Nat
  nonempty : 0 < lineStarts.size

namespace LineIndex

/-- A line starts behind the newline at an offset. -/
def addStart (starts : Array Nat) (entry : Char × Nat) : Array Nat :=
  if entry.1 = '\n' then starts.push (entry.2 + 1) else starts

def startsOf (text : Text) : Array Nat :=
  text.zipIdx.foldl addStart #[0]

theorem size_le_foldl_addStart (entries : List (Char × Nat)) (starts : Array Nat) :
    starts.size ≤ (entries.foldl addStart starts).size := by
  induction entries generalizing starts with
  | nil => exact Nat.le_refl _
  | cons entry rest ih =>
    refine Nat.le_trans ?_ (ih (addStart starts entry))
    unfold addStart
    split
    · rw [Array.size_push]
      exact Nat.le_succ _
    · exact Nat.le_refl _

def ofText (text : Text) : LineIndex :=
  ⟨text, startsOf text, size_le_foldl_addStart text.zipIdx #[0]⟩

def lineCount (index : LineIndex) : Nat :=
  index.lineStarts.size

/-- The number of lines that start at an offset or before it. -/
def linesUpTo (index : LineIndex) (offset : Nat) : Nat :=
  bisectRight index.lineStarts offset 0 index.lineStarts.size (Nat.le_refl _)

theorem linesUpTo_le (index : LineIndex) (offset : Nat) :
    index.linesUpTo offset ≤ index.lineStarts.size :=
  bisectRight_le _ (Nat.zero_le _)

theorem linesUpTo_sub_one_lt (index : LineIndex) (offset : Nat) :
    index.linesUpTo offset - 1 < index.lineStarts.size := by
  have hle := index.linesUpTo_le offset
  have hpos := index.nonempty
  omega

/-- The position of an offset between zero and the length of the text. -/
def positionAt (index : LineIndex) (offset : Int) : Except PositionError Position :=
  if offset < 0 ∨ (index.text.length : Int) < offset then
    .error (.offsetOutside offset index.text.length)
  else
    let line := index.linesUpTo offset.toNat - 1
    have _ : line < index.lineStarts.size := index.linesUpTo_sub_one_lt offset.toNat
    .ok ⟨line, offset.toNat - index.lineStarts[line]⟩

/-- The offset at which a line ends: in front of its newline, or with the text. -/
def lineEnd (index : LineIndex) (number : Nat) : Nat :=
  match index.lineStarts[number + 1]? with
  | some next => next - 1
  | none => index.text.length

/-- The offset of a cursor that stands on a line, at or before its end. -/
def offsetAt (index : LineIndex) (cursor : Cursor) : Except PositionError Nat :=
  if cursor.line < 0 then .error (.lineOutside cursor.line)
  else
    match index.lineStarts[cursor.line.toNat]? with
    | none => .error (.lineOutside cursor.line)
    | some start =>
      if cursor.column < 0 ∨ (index.lineEnd cursor.line.toNat : Int) < start + cursor.column then
        .error (.columnOutside cursor.column cursor.line)
      else .ok (start + cursor.column.toNat)

/-- The span between two offsets. -/
def rangeAt (index : LineIndex) (start stop : Nat) : Except PositionError Range := do
  return ⟨← index.positionAt start, ← index.positionAt stop⟩

end LineIndex

end SurfaceLint
