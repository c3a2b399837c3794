import SurfaceLint.Text.Encoding

/-!
# File paths

A path is a root and its components. Empty components and single dots say nothing and are
dropped; a double dot stays, since what it leads to depends on the files. Exactly two
slashes in front are a root of their own. A path is looked up name by name, and both the
whole and each name may only have so many bytes. A name that is too long is noticed when the
directory before it has been found.
-/

namespace SurfaceLint

structure Path where
  root : String
  parts : List String
deriving DecidableEq

namespace Path

def ofString (s : String) : Path :=
  let slashes := (s.toList.takeWhile (· == '/')).length
  let root := if slashes = 0 then "" else if slashes = 2 then "//" else "/"
  let parts := ((s.toList.splitOn '/').map String.ofList).filter fun part =>
    part != "" && part != "."
  ⟨root, parts⟩

/-- The path as a text; the empty path is the current directory. -/
def render (path : Path) : String :=
  if path.root.isEmpty && path.parts.isEmpty then "."
  else path.root ++ "/".intercalate path.parts

/-- The last component from its last dot on, unless that dot stands first or last. -/
def suffix (path : Path) : Text :=
  match path.parts.getLast? with
  | none => []
  | some name =>
    let reversed := name.toList.reverse
    let extension := (reversed.takeWhile (· ≠ '.')).reverse
    let stem := (reversed.dropWhile (· ≠ '.')).drop 1
    if extension.isEmpty || stem.isEmpty then [] else '.' :: extension

def maxBytes : Nat := 4095

def maxNameBytes : Nat := 255

def isTooLong (path : String) : Bool := maxBytes < path.utf8ByteSize

def isNameTooLong (name : String) : Bool := maxNameBytes < name.utf8ByteSize

def tooLongMessage (path : String) : String :=
  "[Errno 36] File name too long: " ++ quotedString path

end Path

end SurfaceLint
