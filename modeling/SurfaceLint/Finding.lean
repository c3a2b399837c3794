import SurfaceLint.Brackets
import SurfaceLint.Dialect
import SurfaceLint.Rule

/-!
# Findings

A finding says which issue was seen and where; wording it comes later. Four families of
checks produce findings. A family may fail as a whole, when an offset or a line that it
computed does not exist; this is logged, the family contributes nothing and the others still
report.
-/

namespace SurfaceLint

/-- What is wrong, with the name concerned where there is one. -/
inductive Issue where
  | incompleteBlock
  | missingSemicolon
  | undefinedVariable (name : Text)
  | unusedFunction (name : Text)
deriving DecidableEq

namespace Issue

def rule : Issue → Rule
  | incompleteBlock => .incompleteBlock
  | missingSemicolon => .missingSemicolon
  | undefinedVariable _ => .undefinedVariable
  | unusedFunction _ => .unusedFunction

def name : Issue → Option Text
  | undefinedVariable name => some name
  | unusedFunction name => some name
  | _ => none

/-- Where the wording of an issue needs a name, the issue has one. -/
theorem catalog_message_ne_error (issue : Issue) (language : Language) (missing : MissingName) :
    issue.rule.kind.message language issue.name ≠ .error missing := by
  cases issue <;> cases language <;> exact nofun

/-- The message of an issue, in the words of the catalog. -/
def message (issue : Issue) (language : Language) : String :=
  match h : issue.rule.kind.message language issue.name with
  | .ok text => text
  | .error missing => (issue.catalog_message_ne_error language missing h).elim

theorem catalog_message (issue : Issue) (language : Language) :
    issue.rule.kind.message language issue.name = .ok (issue.message language) := by
  cases issue <;> cases language <;> rfl

end Issue

structure Finding where
  issue : Issue
  range : Range
deriving DecidableEq

inductive CheckFamily where
  | brackets
  | semicolons
  | undefinedReferences
  | unusedFunctions
deriving DecidableEq

def CheckFamily.label : CheckFamily → String
  | brackets => "brackets"
  | semicolons => "semicolons"
  | undefinedReferences => "undefined-references"
  | unusedFunctions => "unused-functions"

/-- Why a family of checks could not report. -/
inductive CheckFailure where
  | position (error : PositionError)
  | noLine (number : Nat)
  | interrupted
deriving DecidableEq

/-! ## The log -/

/-- A check that failed, under the name by which it is logged. -/
structure LogEntry where
  check : String
  failure : CheckFailure
deriving DecidableEq

/-- The line that opens an entry. What the system knows about the failure follows it. -/
def LogEntry.headline (entry : LogEntry) : String :=
  "check '" ++ entry.check ++ "' failed; continuing without it"

/-- A result, with what was logged on the way to it. -/
structure Logged (α : Type) where
  value : α
  log : List LogEntry

/-- The result of a check. One that fails is logged, and something else taken in its place. -/
def runIsolated {α : Type} (check : String) (fallback : α) : Except CheckFailure α → Logged α
  | .ok value => ⟨value, []⟩
  | .error failure => ⟨fallback, [⟨check, failure⟩]⟩

/-! ## The checks -/

/-- Gives a span between two offsets to an issue. -/
def Finding.between (index : LineIndex) (issue : Issue) (start stop : Nat) :
    Except CheckFailure Finding :=
  match index.rangeAt start stop with
  | .ok range => .ok ⟨issue, range⟩
  | .error error => .error (.position error)

/-- Every bracket without a partner, on the whole of its line. -/
def checkBrackets (text : Text) : Except CheckFailure (List Finding) :=
  let lines := splitLines text
  (unmatchedBrackets text).mapM fun mark =>
    match lines[mark.position.line]? with
    | some line => .ok ⟨.incompleteBlock, Range.ofLine mark.position.line line⟩
    | none => .error (.noLine mark.position.line)

def endsStatement (c : Char) : Bool := ";\x7b\x7d".toList.contains c

/-- A line needs no semicolon if it is blank, is a line comment, or already ends in a
semicolon or a curly bracket. -/
def isTerminated (line : Text) : Bool :=
  let kept := trim line
  kept.isEmpty || kept.getLast?.any endsStatement || "//".toList.isPrefixOf kept

/-- Every line that lacks its semicolon. -/
def checkSemicolons (text : Text) : Except CheckFailure (List Finding) :=
  .ok (((numberedLines text).filter fun (line, _) => !isTerminated line).map
    fun (line, number) => ⟨.missingSemicolon, Range.ofLine number line⟩)

/-- Every reference to a name that is not declared. -/
def checkUndefinedReferences (profile : Profile) (text : Text) :
    Except CheckFailure (List Finding) :=
  let declared := profile.declared text
  let index := LineIndex.ofText text
  ((profile.references text).filter fun reference => !declared.contains reference.name).mapM
    fun reference =>
      Finding.between index (.undefinedVariable reference.name) reference.offset reference.stop

/-- Every function that is declared and never called, from its keyword to its name. -/
def checkUnusedFunctions (text : Text) : Except CheckFailure (List Finding) :=
  let index := LineIndex.ofText text
  (unusedFunctions text).mapM fun declaration =>
    Finding.between index (.unusedFunction declaration.name) declaration.start declaration.stop

/-- The families that a profile runs, in reporting order. -/
def Profile.families (profile : Profile) : List CheckFamily :=
  [.brackets] ++ (if profile.checksSemicolons then [.semicolons] else []) ++
    [.undefinedReferences] ++ (if profile.checksUnusedFunctions then [.unusedFunctions] else [])

/-- One check for every family. -/
abbrev Checks := CheckFamily → Profile → Text → Except CheckFailure (List Finding)

def standardChecks : Checks
  | .brackets, _, text => checkBrackets text
  | .semicolons, _, text => checkSemicolons text
  | .undefinedReferences, profile, text => checkUndefinedReferences profile text
  | .unusedFunctions, _, text => checkUnusedFunctions text

/-- The same checks, some of which are cut short. -/
def Checks.interrupt (checks : Checks) (broken : List CheckFamily) : Checks :=
  fun family profile text =>
    if family ∈ broken then .error .interrupted else checks family profile text

/-- The findings of all families of a profile; a family that fails is passed over. -/
def collectFindings (checks : Checks) (profile : Profile) (text : Text) : Logged (List Finding) :=
  let reports := profile.families.map fun family =>
    runIsolated family.label [] (checks family profile text)
  ⟨reports.flatMap Logged.value, reports.flatMap Logged.log⟩

end SurfaceLint
