import SurfaceLint.Names.Declaration
import SurfaceLint.Names.Reference
import SurfaceLint.Path
import SurfaceLint.Text.Character
import SurfaceLint.Text.LineIndex

/-!
# Dialects and their profiles

Three dialects are known. Each follows one of two profiles, which say how names are
declared, where references come from and which of the optional checks run.
-/

namespace SurfaceLint

inductive Profile where
  | script
  | java
deriving DecidableEq

namespace Profile

def label : Profile → String
  | script => "scripting"
  | java => "java"

def declared : Profile → Text → List Text
  | script => declaredInScript
  | java => declaredInJava

def references : Profile → Text → List Reference
  | script => consoleReferences
  | java => printReferences

def checksSemicolons : Profile → Bool
  | script => false
  | java => true

def checksUnusedFunctions : Profile → Bool
  | script => true
  | java => false

end Profile

inductive Dialect where
  | javascript
  | typescript
  | java
deriving DecidableEq

/-- A dialect name that is not supported. -/
structure UnsupportedDialect where
  requested : String
  supported : List String
deriving DecidableEq

def UnsupportedDialect.complaint (error : UnsupportedDialect) : Complaint :=
  ⟨"Unsupported dialect '" ++ error.requested ++ "'",
    if error.supported.isEmpty then none
    else some ("supported: " ++ ", ".intercalate error.supported)⟩

namespace Dialect

def all : List Dialect := [javascript, typescript, java]

/-- The id by which editors and users call a dialect. -/
def languageId : Dialect → String
  | javascript => "javascript"
  | typescript => "typescript"
  | java => "java"

def profile : Dialect → Profile
  | javascript => .script
  | typescript => .script
  | java => .java

def isScripting (dialect : Dialect) : Bool :=
  dialect.profile == .script

def ofLanguageId? (id : String) : Option Dialect :=
  all.find? fun dialect => dialect.languageId == id

/-- The file suffixes of a dialect. -/
def suffixes : Dialect → List String
  | javascript => [".js", ".mjs", ".cjs", ".jsx"]
  | typescript => [".ts", ".mts", ".cts", ".tsx"]
  | java => [".java"]

/-- Guesses the dialect of a file from its suffix. -/
def ofPath? (path : Path) : Option Dialect :=
  let suffix := String.ofList (lower path.suffix)
  all.find? fun dialect => dialect.suffixes.contains suffix

/-- The dialect that a user names, in any case and with blanks around it. -/
def parse (name : String) : Except UnsupportedDialect Dialect :=
  match ofLanguageId? (String.ofList (lower (trim name.toList))) with
  | some dialect => .ok dialect
  | none => .error ⟨name, all.map languageId⟩

end Dialect

end SurfaceLint
