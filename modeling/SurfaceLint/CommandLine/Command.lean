import SurfaceLint.CommandLine.Grammar
import SurfaceLint.CommandLine.Help
import SurfaceLint.Catalog

/-!
# Commands

What the command lines of the checker and of the language server ask for, and the grammars
that read it.
-/

namespace SurfaceLint

/-- What to check and how. A rule to allow may have been left out where one was due. -/
structure CheckRequest where
  inputs : List String
  dialect : Option String
  language : Option String
  allowed : List (Option String)
  json : Bool
deriving DecidableEq

/-- What to explain. Line and column count from one; either may have been left out. -/
structure ExplainRequest where
  input : String
  line : Option Int
  column : Option Int
  dialect : Option String
deriving DecidableEq

inductive Command where
  | check (request : CheckRequest)
  | explain (request : ExplainRequest)
  | rules
deriving DecidableEq

/-- A dialect that is left out takes an earlier one back. -/
def dialectOption (set : Option String → σ → σ) : OptionRule σ :=
  ⟨["--dialect"], .value fun value state => .ok (set value state)⟩

namespace CheckRequest

def initial : CheckRequest := ⟨[], none, none, [], false⟩

def grammar : Grammar CheckRequest where
  program := "hovererrors check"
  help := Help.check
  options :=
    [dialectOption fun dialect request => { request with dialect },
      ⟨["--lang"], .value fun value request => do
        let language ← value.mapM (choice (Language.all.map Language.code))
        return { request with language := some (language.getD Language.english.code) }⟩,
      ⟨["--allow"], .value fun value request =>
        .ok { request with allowed := request.allowed ++ [value] }⟩,
      ⟨["--json"], .flag fun request => .ok { request with json := true }⟩]
  operands := .several "inputs" fun inputs request => .ok { request with inputs }

end CheckRequest

namespace ExplainRequest

def initial : ExplainRequest := ⟨"", none, none, none⟩

def grammar : Grammar ExplainRequest where
  program := "hovererrors explain"
  help := Help.explain
  options := [dialectOption fun dialect request => { request with dialect }]
  operands := .slots
    [⟨"input", fun value request => .ok { request with input := value.getD "" }⟩,
      ⟨"line", fun value request => do return { request with line := ← value.mapM integer }⟩,
      ⟨"column", fun value request => do return { request with column := ← value.mapM integer }⟩]

end ExplainRequest

def rulesGrammar : Grammar Unit where
  program := "hovererrors rules"
  help := Help.rules
  options := []
  operands := .slots []

namespace Command

/-- The command read so far, and the arguments that it left over. -/
structure Selected where
  command : Option Command
  extras : List String

/-- Reads the arguments of a command with its own grammar. -/
def select (grammar : Grammar τ) (initial : τ) (wrap : τ → Command) :
    List String → Selected → Except Output Selected :=
  fun arguments _ => do
    let (request, extras) ← grammar.parse initial arguments
    return ⟨some (wrap request), extras⟩

def names : List String := ["check", "c", "explain", "x", "rules"]

def choose (name : String) : Except String (List String → Selected → Except Output Selected) := do
  match ← choice names name with
  | "check" | "c" => return select CheckRequest.grammar .initial .check
  | "explain" | "x" => return select ExplainRequest.grammar .initial .explain
  | _ => return select rulesGrammar () fun _ => .rules

def grammar : Grammar Selected where
  program := "hovererrors"
  help := Help.program
  options := [⟨["-V", "--version"], .flag fun _ => .error ⟨0, Help.version, ""⟩⟩]
  operands := .command "command" choose

/-- The command that arguments ask for, if they ask for one. -/
def parse (arguments : List String) : Except Output (Option Command) := do
  let (selected, extras) ← grammar.parse ⟨none, []⟩ arguments
  match extras ++ selected.extras with
  | [] => return selected.command
  | extras => throw (grammar.unrecognized extras)

end Command

inductive LogLevel where
  | debug
  | info
  | warning
  | error
deriving DecidableEq

namespace LogLevel

def all : List LogLevel := [debug, info, warning, error]

def name : LogLevel → String
  | debug => "debug"
  | info => "info"
  | warning => "warning"
  | error => "error"

def label : LogLevel → String
  | debug => "DEBUG"
  | info => "INFO"
  | warning => "WARNING"
  | error => "ERROR"

def ofName? (name : String) : Option LogLevel := all.find? fun level => level.name == name

end LogLevel

/-- How the language server is to be started. Each value may have been left out where one
was due; without a level the server cannot start. -/
structure ServerRequest where
  tcp : Bool
  host : Option String
  port : Option Int
  logLevel : Option LogLevel
deriving DecidableEq

namespace ServerRequest

def initial : ServerRequest := ⟨false, some "127.0.0.1", some 2088, some .info⟩

def grammar : Grammar ServerRequest where
  program := "hovererrors-lsp"
  help := Help.server
  options :=
    [⟨["--tcp"], .flag fun request => .ok { request with tcp := true }⟩,
      ⟨["--host"], .value fun host request => .ok { request with host }⟩,
      ⟨["--port"], .value fun value request => do
        return { request with port := ← value.mapM integer }⟩,
      ⟨["--log-level"], .value fun value request => do
        let name ← value.mapM (choice (LogLevel.all.map LogLevel.name))
        return { request with logLevel := name.bind LogLevel.ofName? }⟩]
  operands := .slots []

def parse (arguments : List String) : Except Output ServerRequest := do
  let (request, extras) ← grammar.parse initial arguments
  match extras with
  | [] => return request
  | extras => throw (grammar.unrecognized extras)

end ServerRequest

end SurfaceLint
