import SurfaceLint.Finding

/-!
# Explaining a line

Three queries are put to the line under a cursor, in order of priority: incomplete block,
undefined variable, unused function. The first that finds something is explained, in both
languages. A query of a disabled rule is not put, and one that fails is logged and finds
nothing.
-/

namespace SurfaceLint

structure Explanation where
  issue : Issue
  heading : String
  range : Range
deriving DecidableEq

namespace Explanation

def rule (explanation : Explanation) : Rule := explanation.issue.rule

def name (explanation : Explanation) : Option Text := explanation.issue.name

def marker : Severity → String
  | .error => "🔴"
  | .warning => "⚠️"

/-- A bold heading, and the hints in both languages. -/
def markdown (explanation : Explanation) : String :=
  marker explanation.rule.severity ++ " **" ++ explanation.heading ++ "**\n\n" ++
    "📝 " ++ explanation.rule.kind.hint .english ++ "\n" ++
    "🇮🇳 " ++ explanation.rule.kind.hint .hindi

end Explanation

inductive PointQuery where
  | incompleteBlock
  | undefinedVariable
  | unusedFunction
deriving DecidableEq

namespace PointQuery

/-- The queries by falling priority. -/
def all : List PointQuery := [incompleteBlock, undefinedVariable, unusedFunction]

def rule : PointQuery → Rule
  | incompleteBlock => .incompleteBlock
  | undefinedVariable => .undefinedVariable
  | unusedFunction => .unusedFunction

end PointQuery

/-- Something between two offsets that is explained if it is an issue. -/
structure Candidate where
  issue : Issue
  heading : String
  start : Nat
  stop : Nat
  isIssue : Bool

/-- The first candidate that starts on a line and is an issue. Each one is located before it is
looked at any further. -/
def firstOnLine (index : LineIndex) (number : Nat) :
    List Candidate → Except PositionError (Option Explanation)
  | [] => .ok none
  | candidate :: rest => do
    let start ← index.positionAt candidate.start
    if start.line = number ∧ candidate.isIssue = true then
      let stop ← index.positionAt candidate.stop
      return some ⟨candidate.issue, candidate.heading, ⟨start, stop⟩⟩
    else firstOnLine index number rest

/-- A bracket on the line has no partner. -/
def explainBlock (text : Text) (number : Nat) (line : Text) : Option Explanation :=
  if (unmatchedBrackets text).any fun mark => mark.position.line == number then
    some ⟨.incompleteBlock, "Incomplete block", Range.ofLine number line⟩
  else none

/-- A reference on the line has no declaration. -/
def explainReference (profile : Profile) (text : Text) (number : Nat) :
    Except PositionError (Option Explanation) :=
  let declared := profile.declared text
  firstOnLine (LineIndex.ofText text) number
    ((profile.references text).map fun reference =>
      ⟨.undefinedVariable reference.name,
        "Variable '" ++ String.ofList reference.name ++ "' is not defined",
        reference.offset, reference.stop, !declared.contains reference.name⟩)

/-- A function declared on the line is never called. -/
def explainFunction (profile : Profile) (text : Text) (number : Nat) :
    Except PositionError (Option Explanation) :=
  if profile.checksUnusedFunctions then
    firstOnLine (LineIndex.ofText text) number
      ((unusedFunctions text).map fun declaration =>
        ⟨.unusedFunction declaration.name,
          "Function '" ++ String.ofList declaration.name ++ "' is declared but never called",
          declaration.start, declaration.stop, true⟩)
  else .ok none

/-- Answers the queries about a line, given by its number and its text. -/
abbrev Answers :=
  PointQuery → Profile → Text → Nat → Text → Except CheckFailure (Option Explanation)

def standardAnswers : Answers
  | .incompleteBlock, _, text, number, line => .ok (explainBlock text number line)
  | .undefinedVariable, profile, text, number, _ =>
    (explainReference profile text number).mapError .position
  | .unusedFunction, profile, text, number, _ =>
    (explainFunction profile text number).mapError .position

/-- The same answers, some of which are cut short. -/
def Answers.interrupt (answers : Answers) (broken : List PointQuery) : Answers :=
  fun query profile text number line =>
    if query ∈ broken then .error .interrupted else answers query profile text number line

/-- The line under a cursor, with its number. -/
def lineAt? (text : Text) (cursor : Cursor) : Option (Nat × Text) :=
  if cursor.line < 0 then none
  else (splitLines text)[cursor.line.toNat]?.map (cursor.line.toNat, ·)

/-- Puts the queries of enabled rules one after the other, until one finds something. -/
def firstAnswer (selection : RuleSelection)
    (ask : PointQuery → Except CheckFailure (Option Explanation)) :
    List PointQuery → Logged (Option Explanation)
  | [] => ⟨none, []⟩
  | query :: rest =>
    if selection.isEnabled query.rule then
      let answer := runIsolated query.rule.name none (ask query)
      match answer.value with
      | some explanation => ⟨some explanation, answer.log⟩
      | none =>
        let later := firstAnswer selection ask rest
        ⟨later.value, answer.log ++ later.log⟩
    else firstAnswer selection ask rest

/-- The most relevant issue on the line of a cursor, whose column does not matter, and the log
of the queries that fail. -/
def explainLogged (answers : Answers) (dialect : Dialect) (text : Text) (cursor : Cursor)
    (selection : RuleSelection) : Logged (Option Explanation) :=
  match lineAt? text cursor with
  | none => ⟨none, []⟩
  | some (number, line) =>
    firstAnswer selection (fun query => answers query dialect.profile text number line)
      PointQuery.all

def explainWith (answers : Answers) (dialect : Dialect) (text : Text) (cursor : Cursor)
    (selection : RuleSelection) : Option Explanation :=
  (explainLogged answers dialect text cursor selection).value

def explain (dialect : Dialect) (text : Text) (cursor : Cursor) (selection : RuleSelection) :
    Option Explanation :=
  explainWith standardAnswers dialect text cursor selection

end SurfaceLint
