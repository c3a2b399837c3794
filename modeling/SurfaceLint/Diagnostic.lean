import SurfaceLint.Finding

/-!
# Diagnostics

A diagnostic is a finding of an enabled rule, worded in one language. Diagnostics come in
a fixed order: brackets, semicolons, undefined references, unused functions.
-/

namespace SurfaceLint

structure Diagnostic where
  issue : Issue
  range : Range
  message : String
deriving DecidableEq

namespace Diagnostic

def rule (diagnostic : Diagnostic) : Rule := diagnostic.issue.rule

def name (diagnostic : Diagnostic) : Option Text := diagnostic.issue.name

def code (diagnostic : Diagnostic) : String := diagnostic.rule.code

def severity (diagnostic : Diagnostic) : Severity := diagnostic.rule.severity

def hint (diagnostic : Diagnostic) (language : Language) : String :=
  diagnostic.rule.kind.hint language

/-- The code, the place counted from one, and the message. -/
def render (diagnostic : Diagnostic) : String :=
  "[" ++ diagnostic.code ++ "] " ++ toString (diagnostic.range.start.line + 1) ++ ":" ++
    toString (diagnostic.range.start.column + 1) ++ ": " ++ diagnostic.message

end Diagnostic

def Finding.word (finding : Finding) (language : Language) : Diagnostic :=
  ⟨finding.issue, finding.range, finding.issue.message language⟩

/-- The diagnostics that a set of checks gives rise to, and the log of the checks that fail. -/
def diagnoseLogged (checks : Checks) (dialect : Dialect) (text : Text) (language : Language)
    (selection : RuleSelection) : Logged (List Diagnostic) :=
  let findings := collectFindings checks dialect.profile text
  let enabled := findings.value.filter fun finding => selection.isEnabled finding.issue.rule
  ⟨enabled.map (·.word language), findings.log⟩

def diagnoseWith (checks : Checks) (dialect : Dialect) (text : Text) (language : Language)
    (selection : RuleSelection) : List Diagnostic :=
  (diagnoseLogged checks dialect text language selection).value

/-- The diagnostics of a text. -/
def diagnose (dialect : Dialect) (text : Text) (language : Language)
    (selection : RuleSelection) : List Diagnostic :=
  diagnoseWith standardChecks dialect text language selection

end SurfaceLint
