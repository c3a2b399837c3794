import SurfaceLint.Path
import SurfaceLint.Text.Encoding

/-!
# Files

What stands at a path, and the text of a file. Files are UTF-8, and each of the three usual
line ends is read as a newline. A `FileTree` holds the files below a working directory;
nothing but directories is known above it.
-/

namespace SurfaceLint

/-- What stands at a path; a file may be one that the system does not open. -/
inductive Node where
  | file (bytes : List UInt8)
  | directory
  | sealed (reason : String)

/-- Why a path cannot be looked up, or what it leads to is not read. The system may have reasons
of its own. -/
inductive ReadFailure where
  | nameTooLong
  | isDirectory
  | notUtf8
  | system (reason : String)
deriving DecidableEq

/-- What stands at each path. -/
abbrev Files := Path → Except ReadFailure (Option Node)

def normalizeNewlines : Text → Text
  | [] => []
  | '\r' :: '\n' :: rest => '\n' :: normalizeNewlines rest
  | '\r' :: rest => '\n' :: normalizeNewlines rest
  | c :: rest => c :: normalizeNewlines rest

def Node.read : Node → Except ReadFailure Text
  | .directory => .error .isDirectory
  | .sealed reason => .error (.system reason)
  | .file bytes =>
    match Utf8.decode? bytes with
    | some text => .ok (normalizeNewlines text)
    | none => .error .notUtf8

/-- The files and directories below a working directory, by their components. The
directories on the way to an entry need no entry of their own. -/
structure FileTree where
  entries : List (List String × Node)

namespace FileTree

def node? (tree : FileTree) (parts : List String) : Option Node :=
  match tree.entries.lookup parts with
  | some node => some node
  | none =>
    if parts.isEmpty || tree.entries.any fun entry => parts.isPrefixOf entry.1 then
      some .directory
    else none

/-- A place on the way along a path: below the working directory, a directory above it, none
at all, or one that a name too long would have led to. -/
inductive Place where
  | inside (parts : List String)
  | outside
  | nowhere
  | tooLong

/-- The place of a name that a directory does not have. -/
def Place.absent (name : String) : Place :=
  if Path.isNameTooLong name then .tooLong else .nowhere

/-- Goes one component further, if the place is a directory that has it. -/
def step (tree : FileTree) (place : Place) (part : String) : Place :=
  match place with
  | .outside => if part = ".." then .outside else .absent part
  | .inside parts =>
    match tree.node? parts with
    | some .directory =>
      if part = ".." then
        if parts.isEmpty then .outside else .inside parts.dropLast
      else if (tree.node? (parts ++ [part])).isSome then .inside (parts ++ [part])
      else .absent part
    | _ => .nowhere
  | .nowhere => .nowhere
  | .tooLong => .tooLong

def find (tree : FileTree) : Files := fun path =>
  let start : Place := if path.root.isEmpty then .inside [] else .outside
  if Path.isTooLong path.render then .error .nameTooLong
  else
    match path.parts.foldl tree.step start with
    | .inside parts => .ok (tree.node? parts)
    | .outside => .ok (some .directory)
    | .nowhere => .ok none
    | .tooLong => .error .nameTooLong

end FileTree

end SurfaceLint
