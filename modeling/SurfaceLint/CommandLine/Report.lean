import SurfaceLint.Diagnostic
import SurfaceLint.Json
import SurfaceLint.Path

/-!
# Reports

The diagnostics of checked files, for people and for machines. The report for people shows
each diagnostic with the line it is about and closes with a count; the one for machines is
a structured value. Colors are escape codes, or nothing at all.
-/

namespace SurfaceLint

structure Palette where
  red : String
  green : String
  yellow : String
  blue : String
  cyan : String
  bold : String
  reset : String

namespace Palette

def ansi : Palette :=
  ⟨"\x1b[91m", "\x1b[92m", "\x1b[93m", "\x1b[94m", "\x1b[96m", "\x1b[1m", "\x1b[0m"⟩

def plain : Palette := ⟨"", "", "", "", "", "", ""⟩

def level (palette : Palette) : Severity → String
  | .error => palette.red
  | .warning => palette.yellow

end Palette

/-- A file that was checked. -/
structure CheckedFile where
  path : Path
  dialect : Dialect
  source : Text
  diagnostics : List Diagnostic

namespace Report

def unlines (lines : List String) : String :=
  String.join (lines.map (· ++ "\n"))

def padLeft (width : Nat) (s : String) : String :=
  String.ofList (List.replicate (width - s.length) ' ') ++ s

def padRight (width : Nat) (s : String) : String :=
  s ++ String.ofList (List.replicate (width - s.length) ' ')

def errorCount (diagnostics : List Diagnostic) : Nat :=
  (diagnostics.filter fun diagnostic => diagnostic.severity == .error).length

/-- How many characters of its first line a range covers; at least one is marked. -/
def markWidth (range : Range) : Nat :=
  if range.stop.line = range.start.line then max 1 (range.stop.column - range.start.column) else 1

/-- The line that a diagnostic is about, with a mark below the place. -/
def context (palette : Palette) (source : Text) (diagnostic : Diagnostic) : List String :=
  let start := diagnostic.range.start
  match (splitLines source)[start.line]? with
  | none => []
  | some line =>
    let bar := "   " ++ palette.blue ++ "|" ++ palette.reset
    [bar,
      palette.blue ++ padLeft 3 (toString (start.line + 1)) ++ " |" ++ palette.reset ++ " " ++
        String.ofList line,
      bar ++ " " ++ String.ofList (List.replicate start.column ' ') ++
        palette.level diagnostic.severity ++
        String.ofList (List.replicate (markWidth diagnostic.range) '^') ++ palette.reset,
      bar]

def entry (palette : Palette) (language : Language) (file : CheckedFile)
    (diagnostic : Diagnostic) : List String :=
  let start := diagnostic.range.start
  [palette.level diagnostic.severity ++ palette.bold ++ diagnostic.severity.label ++ "[" ++
      diagnostic.code ++ "]" ++ palette.reset ++ ": " ++ palette.bold ++ diagnostic.message ++
      palette.reset,
    "  " ++ palette.blue ++ "-->" ++ palette.reset ++ " " ++ file.path.render ++ ":" ++
      toString (start.line + 1) ++ ":" ++ toString (start.column + 1)] ++
  context palette file.source diagnostic ++
  ["   " ++ palette.blue ++ "=" ++ palette.reset ++ " " ++ palette.green ++ "help:" ++
      palette.reset ++ " " ++ diagnostic.hint language,
    ""]

/-- The line that closes the report of a file with diagnostics. What is no error is a
warning. -/
def summary (file : CheckedFile) : String :=
  let errors := errorCount file.diagnostics
  let warnings := file.diagnostics.length - errors
  file.path.render ++ ": " ++ toString errors ++ " error(s) and " ++ toString warnings ++
    " warning(s)"

/-- The report of one file for people. -/
def file (palette : Palette) (language : Language) (file : CheckedFile) : String :=
  if file.diagnostics.isEmpty then
    unlines [palette.green ++ "[ok]" ++ palette.reset ++ " " ++ file.path.render ++
      ": No issues found"]
  else
    unlines (file.diagnostics.flatMap (entry palette language file) ++ [summary file])

def positionJson (position : Position) : Json :=
  .object [("line", .int position.line), ("column", .int position.column)]

def diagnosticJson (diagnostic : Diagnostic) : Json :=
  .object
    [("rule", .object
        [("code", .string diagnostic.rule.code), ("name", .string diagnostic.rule.name),
          ("category", .string diagnostic.rule.category.label)]),
      ("severity", .string diagnostic.severity.label),
      ("message", .string diagnostic.message),
      ("range", .object
        [("start", positionJson diagnostic.range.start),
          ("end", positionJson diagnostic.range.stop)])]

def fileJson (file : CheckedFile) : Json :=
  .object
    [("file", .string file.path.render), ("dialect", .string file.dialect.languageId),
      ("diagnostics", .array (file.diagnostics.map diagnosticJson))]

/-- The totals of a report. -/
structure Tally where
  errors : Nat
  warnings : Nat
deriving DecidableEq

/-- Counts one more diagnostic. -/
def Tally.count (tally : Tally) (diagnostic : Diagnostic) : Tally :=
  match diagnostic.severity with
  | .error => { tally with errors := tally.errors + 1 }
  | .warning => { tally with warnings := tally.warnings + 1 }

/-- Counts the diagnostics of all files, one file after the other. -/
def tally (files : List CheckedFile) : Tally :=
  files.foldl (fun totals file => file.diagnostics.foldl Tally.count totals) ⟨0, 0⟩

/-- The report of all files for machines. -/
def json (files : List CheckedFile) : Json :=
  let totals := tally files
  .object
    [("files", .array (files.map fileJson)),
      ("summary", .object
        [("errors", .int totals.errors), ("warnings", .int totals.warnings)])]

def ruleLine (palette : Palette) (rule : Rule) : String :=
  "  " ++ rule.code ++ " " ++ padRight 30 rule.name ++ " [" ++ palette.level rule.severity ++
    rule.severity.label ++ palette.reset ++ "]"

/-- The rules, category by category. -/
def rules (palette : Palette) : String :=
  unlines (
    ["", palette.bold ++ "Available Rules" ++ palette.reset,
      String.ofList (List.replicate 60 '=')] ++
    Category.all.flatMap (fun category =>
      ["", palette.cyan ++ category.label.toUpper ++ palette.reset] ++
        (Rule.all.filter fun rule => rule.category == category).map (ruleLine palette)) ++
    [""])

end Report

end SurfaceLint
