import SurfaceLint.CommandLine.Command
import SurfaceLint.CommandLine.Files
import SurfaceLint.CommandLine.Report
import SurfaceLint.Explanation

/-!
# The program

Runs a command line against an environment. A program writes to its output and to its error
stream and ends with an exit status, or with a failure; what it has written by then stays
written. Checking looks at all files before it prints anything. It succeeds if no diagnostic
is an error. A check or a query that fails on the way is logged to the error stream.
-/

namespace SurfaceLint

structure Environment where
  files : Files
  language : Option String
  noColor : Option String
  terminal : Bool

/-- Failures that end the program without a message of its own. -/
inductive Failure where
  | read (path : Path) (failure : ReadFailure)
  | noNumber
  | noRule
deriving DecidableEq

/-- The text of a failure, where the system has one. -/
def Failure.message : Failure → Option String
  | read path .nameTooLong => some (Path.tooLongMessage path.render)
  | read _ (.system reason) => some reason
  | _ => none

namespace Environment

/-- Colors are for terminals whose user has not asked for none. -/
def palette (environment : Environment) : Palette :=
  if environment.terminal && (environment.noColor.getD "").isEmpty then .ansi else .plain

def messageLanguage (environment : Environment) (requested : Option String) : Language :=
  match requested <|> environment.language with
  | some value => .ofSetting value
  | none => .english

end Environment

/-- What a program has written to its output and to its error stream, text by text. -/
structure Written where
  out : List String
  err : List String
deriving DecidableEq

/-- What is done on the way to a result or to an error, either of which may come after some
writing. -/
abbrev Action (ε : Type) := ExceptT ε (StateM Written)

namespace Action

variable {ε δ α : Type}

/-- Writes to the output. -/
def print (text : String) : Action ε Unit :=
  modify fun written => { written with out := written.out ++ [text] }

/-- Writes to the error stream. -/
def warn (text : String) : Action ε Unit :=
  modify fun written => { written with err := written.err ++ [text] }

/-- Writes a log to the error stream and goes on with the result. -/
def tell (logged : Logged α) : Action ε α := do
  logged.log.forM fun entry => warn (entry.headline ++ "\n")
  return logged.value

/-- Carries out an action, with what was written before. -/
def resume (action : Action ε α) (written : Written) : Except ε α × Written :=
  StateT.run (ExceptT.run action) written

/-- Carries out an action with nothing written before. -/
def perform (action : Action ε α) : Except ε α × Written :=
  action.resume ⟨[], []⟩

/-- An action whose error is part of its result. -/
def attempt (action : Action ε α) : Action δ (Except ε α) :=
  ExceptT.lift (ExceptT.run action)

end Action

namespace Program

open SurfaceLint.Action

/-- The dialect that was asked for, or else the one of the file's suffix. An empty request
is none. -/
def resolveDialect (path : Path) (requested : Option String) : Except Complaint Dialect :=
  let name := requested.getD ""
  if name.isEmpty then
    match Dialect.ofPath? path with
    | some dialect => .ok dialect
    | none =>
      .error ⟨"Cannot tell the dialect of " ++ path.render,
        some "pass --dialect javascript, typescript or java"⟩
  else (Dialect.parse name).mapError UnsupportedDialect.complaint

/-- Why a command is not carried out. -/
inductive Trouble where
  | unknownRule (unknown : UnknownRule)
  | complaint (complaint : Complaint)
  | failure (failure : Failure)

def findSource (files : Files) (path : Path) : Except Trouble Node :=
  match files path with
  | .ok (some node) => .ok node
  | .ok none => .error (.complaint ⟨"File not found: " ++ path.render, none⟩)
  | .error failure => .error (.failure (.read path failure))

/-- The dialect and the text of a file. -/
def loadFile (files : Files) (path : Path) (requested : Option String) :
    Except Trouble (Dialect × Text) := do
  let dialect ← (resolveDialect path requested).mapError .complaint
  let node ← findSource files path
  let source ← node.read.mapError fun failure => .failure (.read path failure)
  return (dialect, source)

def checkFile (files : Files) (requested : Option String) (language : Language)
    (selection : RuleSelection) (input : String) : Action Trouble CheckedFile := do
  let path := Path.ofString input
  let (dialect, source) ← loadFile files path requested
  let diagnostics ← tell (diagnoseLogged standardChecks dialect source language selection)
  return ⟨path, dialect, source, diagnostics⟩

/-- What trouble leads to: one message and the exit status 1, or the failure that it is. -/
def Trouble.report (palette : Palette) : Trouble → Action Failure Nat
  | .unknownRule unknown => do
    warn ("Error: Unknown rule '" ++ unknown.id ++ "'\n")
    return 1
  | .complaint what => do
    warn (palette.red ++ "Error:" ++ palette.reset ++ " " ++ what.render ++ "\n")
    return 1
  | .failure what => throw what

def hasErrors (files : List CheckedFile) : Bool :=
  files.any fun file => file.diagnostics.any fun diagnostic => diagnostic.severity == .error

def allowRule (selection : RuleSelection) : Option String → Except Trouble RuleSelection
  | some id => (selection.allow id).mapError .unknownRule
  | none => .error (.failure .noRule)

/-- All rules but those that are allowed to be broken. -/
def allowRules (ids : List (Option String)) : Except Trouble RuleSelection :=
  ids.foldlM allowRule .everything

/-- Checks all files that a request names, with the rules that it leaves on. -/
def checkFiles (environment : Environment) (language : Language) (request : CheckRequest) :
    Action Trouble (List CheckedFile) := do
  let selection ← allowRules request.allowed
  request.inputs.mapM (checkFile environment.files request.dialect language selection)

/-- Prints what was found, for machines or for people. -/
def printReports (palette : Palette) (language : Language) (json : Bool)
    (files : List CheckedFile) : Action Failure Unit :=
  if json then print ((Report.json files).pretty ++ "\n")
  else files.forM fun file => print (Report.file palette language file)

def check (environment : Environment) (request : CheckRequest) : Action Failure Nat := do
  let palette := environment.palette
  let language := environment.messageLanguage request.language
  match ← (checkFiles environment language request).attempt with
  | .error trouble => trouble.report palette
  | .ok files => do
    printReports palette language request.json files
    return if hasErrors files then 1 else 0

def explain (environment : Environment) (request : ExplainRequest) : Action Failure Nat := do
  let palette := environment.palette
  let path := Path.ofString request.input
  match loadFile environment.files path request.dialect with
  | .error trouble => trouble.report palette
  | .ok (dialect, source) =>
    match request.line, request.column with
    | some line, some column =>
      match ← tell (explainLogged standardAnswers dialect source ⟨line - 1, column - 1⟩
        .everything) with
      | some explanation => print (explanation.markdown ++ "\n")
      | none =>
        print (palette.green ++ "[ok]" ++ palette.reset ++ " " ++ path.render ++ ":" ++
          toString line ++ ":" ++ toString column ++ ": nothing to explain\n")
      return 0
    | _, _ => throw .noNumber

def runCommand (environment : Environment) : Command → Action Failure Nat
  | .check request => check environment request
  | .explain request => explain environment request
  | .rules => do
    print (Report.rules environment.palette)
    return 0

/-- Runs the program; without a command it prints its help. -/
def run (environment : Environment) (arguments : List String) : Action Failure Nat :=
  match Command.parse arguments with
  | .error output => do
    print output.out
    warn output.err
    return output.status
  | .ok none => do
    print Help.program
    return 0
  | .ok (some command) => runCommand environment command

end Program

end SurfaceLint
