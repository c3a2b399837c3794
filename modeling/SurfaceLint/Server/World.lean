import SurfaceLint.Address
import SurfaceLint.Path

/-!
# Outside the server

Two things that a server does not decide itself. The library that delivers the messages of an
editor refuses some of the places and addresses in them, and may refuse to change a document
that is not open. The disk gives the text of such a document, or a reason why it cannot be read.
A `World` holds the answers of both at one moment; nothing is assumed about them, and they may
be others at the next.

One world is spelled out: a library that takes coordinates up to a fixed bound, addresses that
can be split into their parts and changes of open documents only, over a disk that has
directories and no files.
-/

namespace SurfaceLint

inductive Coordinate where
  | line
  | character
deriving DecidableEq

def Coordinate.name : Coordinate → String
  | line => "line"
  | character => "character"

/-- The greatest coordinate. -/
def Coordinate.bound : Nat := 2147483647

/-- A coordinate that is out of bounds. -/
structure CoordinateError where
  coordinate : Coordinate
  value : Int
deriving DecidableEq

def CoordinateError.message (error : CoordinateError) : String :=
  "Position." ++ error.coordinate.name ++ " should be in range [0:" ++
    toString Coordinate.bound ++ "], but was " ++ toString error.value ++ "."

/-- Why a message is refused or a file is not read. -/
inductive OuterFailure where
  | coordinate (error : CoordinateError)
  | badAddress (error : AddressError)
  | notOpen (key : String)
  | noSuchFile
  | isDirectory
  | nullCharacter
  | nameTooLong (location : String)
  | other (reason : String)
deriving DecidableEq

/-- The text of a failure, where it has one. -/
def OuterFailure.message : OuterFailure → Option String
  | coordinate error => some error.message
  | badAddress error => some error.message
  | notOpen key => some key
  | noSuchFile => none
  | isDirectory => none
  | nullCharacter => some "embedded null byte"
  | nameTooLong location => some (Path.tooLongMessage location)
  | other reason => some reason

structure World where
  /-- Whether a place can be named in a message. -/
  checkCursor : Cursor → Except OuterFailure Unit
  /-- Whether a document can have an address. -/
  checkAddress : String → Except OuterFailure Unit
  /-- Whether a document that is not open can be told to change. -/
  checkChange : String → Except OuterFailure Unit
  /-- The text of the file with an address. -/
  read : String → Except OuterFailure Text

namespace World

def checkCoordinate (coordinate : Coordinate) (value : Int) : Except OuterFailure Unit :=
  if 0 ≤ value ∧ value ≤ Coordinate.bound then .ok ()
  else .error (.coordinate ⟨coordinate, value⟩)

/-- What is wrong with reading from a location where no file is. Nothing but slashes and dots
leads to a directory; the first name leads nowhere, so that only this one is looked at. -/
def readingFailure (location : String) : OuterFailure :=
  if location.toList.contains '\x00' then .nullCharacter
  else if Path.isTooLong location then .nameTooLong location
  else if location = "" then .noSuchFile
  else
    match (Path.ofString location).parts.find? (· ≠ "..") with
    | none => .isDirectory
    | some name => if Path.isNameTooLong name then .nameTooLong location else .noSuchFile

/-- The parts of an address, which is taken as given: only the parts of one are to be
decoded. -/
def split (address : String) : Except OuterFailure Address :=
  (Address.ofText address.toList).mapError .badAddress

/-- The world without files. The line of a place is looked at before its character. -/
def bare : World where
  checkCursor cursor := do
    checkCoordinate .line cursor.line
    checkCoordinate .character cursor.column
  checkAddress address := (split address).map fun _ => ()
  checkChange address := .error (.notOpen (percentDecode address))
  read address := do
    let parts ← split address
    throw (readingFailure parts.location)

end World

end SurfaceLint
