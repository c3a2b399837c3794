import SurfaceLint.Decimal.Shortest
import SurfaceLint.Json
import SurfaceLint.Rule
import SurfaceLint.Text.Encoding

/-!
# Client settings

A client sends a section with a message language and a list of rules to switch off, bare
or wrapped in an object under the section's name. Fields that are left out keep their
value. The language is taken over before the rules are looked at, so a payload whose rules
cannot be read still changes the language.
-/

namespace SurfaceLint

structure Settings where
  language : Language
  disabledRules : List String
deriving DecidableEq

/-- The rules of a payload are not a collection. -/
inductive SettingsError where
  | notACollection
deriving DecidableEq

/-- Only a string can ask for a language. -/
def Language.ofJson : Json → Language
  | .string value => .ofSetting value
  | _ => .english

mutual

/-- A value as it is written inside a collection: strings are quoted. -/
def Json.spell : Json → Text
  | .null => "None".toList
  | .bool true => "True".toList
  | .bool false => "False".toList
  | .int n => (toString n).toList
  | .real d => (if d.negative then ['-'] else []) ++ d.toDouble.render
  | .string s => quoted s.toList
  | .array items => '[' :: (Json.spellItems items ++ [']'])
  | .object fields => '\x7b' :: (Json.spellFields fields ++ ['\x7d'])

def Json.spellItems : List Json → Text
  | [] => []
  | [item] => item.spell
  | item :: rest => item.spell ++ ',' :: ' ' :: Json.spellItems rest

def Json.spellFields : List (String × Json) → Text
  | [] => []
  | [(key, value)] => quoted key.toList ++ ':' :: ' ' :: value.spell
  | (key, value) :: rest =>
    quoted key.toList ++ ':' :: ' ' :: (value.spell ++ ',' :: ' ' :: Json.spellFields rest)

end

/-- The rule id that an item stands for. -/
def ruleId : Json → String
  | .string s => s
  | item => String.ofList item.spell

/-- The rule ids in a value: the items of a list, the names of an object's fields, the
characters of a string. What is empty or zero has none. -/
def ruleIds : Json → Except SettingsError (List String)
  | .null => .ok []
  | .bool b => if b then .error .notACollection else .ok []
  | .int n => if n = 0 then .ok [] else .error .notACollection
  | .real d => if d.isZero then .ok [] else .error .notACollection
  | .string s => .ok (s.toList.map fun c => String.ofList [c])
  | .array items => .ok (items.map ruleId)
  | .object fields => .ok (fields.map Prod.fst)

namespace Settings

/-- English messages and every rule on. -/
def initial : Settings := ⟨.english, []⟩

def selection (settings : Settings) : RuleSelection :=
  .ofDisabled settings.disabledRules

/-- The section that a payload holds or is. -/
def sectionOf? : Json → Option Json
  | .object fields =>
    match (fields.lookup "hoverErrors").getD (.object fields) with
    | .object fields => some (.object fields)
    | _ => none
  | _ => none

def updateLanguage (settings : Settings) (part : Json) : Settings :=
  match part.get? "language" with
  | some value => { settings with language := .ofJson value }
  | none => settings

/-- The settings after a payload, and whether all of it could be read. -/
def update (settings : Settings) (payload : Json) : Settings × Except SettingsError Unit :=
  match sectionOf? payload with
  | none => (settings, .ok ())
  | some part =>
    let settings := settings.updateLanguage part
    match part.get? "disabledRules" with
    | none => (settings, .ok ())
    | some value =>
      match ruleIds value with
      | .ok ids => ({ settings with disabledRules := ids }, .ok ())
      | .error error => (settings, .error error)

end Settings

end SurfaceLint
