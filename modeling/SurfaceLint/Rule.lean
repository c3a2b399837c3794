import SurfaceLint.Catalog

/-!
# Rules

Every finding belongs to one of four rules. A rule has a code and a name, and both serve
as its id. A selection says which rules are switched off.
-/

namespace SurfaceLint

inductive Severity where
  | error
  | warning
deriving DecidableEq

def Severity.label : Severity → String
  | error => "error"
  | warning => "warning"

inductive Category where
  | structural
  | style
  | correctness
  | unused
deriving DecidableEq

namespace Category

/-- The categories in listing order. -/
def all : List Category := [structural, style, correctness, unused]

def label : Category → String
  | structural => "structure"
  | style => "style"
  | correctness => "correctness"
  | unused => "unused"

end Category

inductive Rule where
  | incompleteBlock
  | missingSemicolon
  | undefinedVariable
  | unusedFunction
deriving DecidableEq

namespace Rule

/-- All rules, by increasing code. -/
def all : List Rule := [incompleteBlock, missingSemicolon, undefinedVariable, unusedFunction]

def code : Rule → String
  | incompleteBlock => "E0001"
  | missingSemicolon => "E0002"
  | undefinedVariable => "E0003"
  | unusedFunction => "W0001"

/-- The catalog entry that words the findings of a rule. -/
def kind : Rule → MessageKind
  | incompleteBlock => .incompleteBlock
  | missingSemicolon => .missingSemicolon
  | undefinedVariable => .undefinedVariable
  | unusedFunction => .unusedFunction

def name (rule : Rule) : String := rule.kind.key

def category : Rule → Category
  | incompleteBlock => .structural
  | missingSemicolon => .style
  | undefinedVariable => .correctness
  | unusedFunction => .unused

def severity : Rule → Severity
  | unusedFunction => .warning
  | _ => .error

def render (rule : Rule) : String :=
  rule.code ++ " (" ++ rule.name ++ ")"

/-- The rule with a code or a name. -/
def ofId? (id : String) : Option Rule :=
  (all.find? fun rule => rule.code == id) <|> (all.find? fun rule => rule.name == id)

end Rule

/-- An id that names no rule. -/
structure UnknownRule where
  id : String
deriving DecidableEq

/-- Which rules are off: a set of ids, as distinct strings in the order of their arrival. -/
structure RuleSelection where
  disabled : List String
deriving DecidableEq

namespace RuleSelection

/-- Every rule is on. -/
def everything : RuleSelection := ⟨[]⟩

def isEnabled (selection : RuleSelection) (rule : Rule) : Bool :=
  !selection.disabled.contains rule.code && !selection.disabled.contains rule.name

def insert (selection : RuleSelection) (id : String) : RuleSelection :=
  if id ∈ selection.disabled then selection else ⟨selection.disabled ++ [id]⟩

/-- Switches a rule off, by its code. -/
def allow (selection : RuleSelection) (id : String) : Except UnknownRule RuleSelection :=
  match Rule.ofId? id with
  | some rule => .ok (selection.insert rule.code)
  | none => .error ⟨id⟩

/-- Takes ids as they are, whether or not they name a rule. -/
def ofRaw (ids : List String) : RuleSelection :=
  ids.foldl insert everything

/-- Switches off every rule that is named; other ids are passed over. -/
def ofDisabled (ids : List String) : RuleSelection :=
  ids.foldl (fun selection id => (selection.allow id).toOption.getD selection) everything

end RuleSelection

end SurfaceLint
