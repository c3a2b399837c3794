import SurfaceLint.Diagnostic

/-!
# Notices

A diagnostic in the form that an editor receives: severities are levels, and code that
can be removed is tagged so that the editor fades it out.
-/

namespace SurfaceLint

structure Notice where
  range : Range
  message : String
  severity : Severity
  code : String
  unnecessary : Bool
deriving DecidableEq

namespace Notice

/-- Who reports, as shown beside a notice. -/
def source : String := "hover-errors"

def ofDiagnostic (diagnostic : Diagnostic) : Notice :=
  ⟨diagnostic.range, diagnostic.message, diagnostic.severity, diagnostic.code,
    diagnostic.rule.category == .unused⟩

def level (notice : Notice) : Nat :=
  match notice.severity with
  | .error => 1
  | .warning => 2

def unnecessaryTag : Nat := 1

def tags (notice : Notice) : Option (List Nat) :=
  if notice.unnecessary then some [unnecessaryTag] else none

end Notice

/-- The notices for a document; one in an unknown language gets none. -/
def documentNotices (languageId : String) (text : Text) (language : Language)
    (selection : RuleSelection) : List Notice :=
  match Dialect.ofLanguageId? languageId with
  | none => []
  | some dialect => (diagnose dialect text language selection).map Notice.ofDiagnostic

end SurfaceLint
