import SurfaceLint.Text.Character

/-!
# The bilingual catalog

Every kind of finding has a short message and a longer hint, each in English and in
transliterated Hindi. Some messages mention the offending name and cannot be worded
without it.
-/

namespace SurfaceLint

inductive Language where
  | english
  | hindi
deriving DecidableEq

def Language.code : Language → String
  | english => "en"
  | hindi => "hi"

def Language.all : List Language := [.english, .hindi]

/-- The preference that a text states; whatever is not Hindi is English. -/
def Language.ofSetting (value : String) : Language :=
  if lower (trim value.toList) = Language.hindi.code.toList then .hindi else .english

inductive MessageKind where
  | missingSemicolon
  | undefinedVariable
  | incompleteBlock
  | incompleteFunctionSignature
  | unusedFunction
deriving DecidableEq

/-- A wording, complete or in need of a name. -/
inductive Wording where
  | fixed (text : String)
  | naming (text : Text → String)

/-- A message that mentions a name was asked for without one. -/
structure MissingName where
  kind : MessageKind
deriving DecidableEq

namespace MessageKind

def all : List MessageKind :=
  [missingSemicolon, undefinedVariable, incompleteBlock, incompleteFunctionSignature,
    unusedFunction]

def key : MessageKind → String
  | missingSemicolon => "missing-semicolon"
  | undefinedVariable => "undefined-variable"
  | incompleteBlock => "incomplete-block"
  | incompleteFunctionSignature => "incomplete-function-signature"
  | unusedFunction => "unused-function"

def wording : MessageKind → Language → Wording
  | missingSemicolon, .english => .fixed "Missing semicolon"
  | missingSemicolon, .hindi => .fixed "Semicolon missing hai!"
  | undefinedVariable, .english =>
    .naming fun name => "Variable '" ++ String.ofList name ++ "' is not defined"
  | undefinedVariable, .hindi =>
    .naming fun name => "Variable '" ++ String.ofList name ++ "' define nahi hai"
  | incompleteBlock, .english =>
    .fixed "Block is incomplete. Missing closing brace, bracket, or parenthesis."
  | incompleteBlock, .hindi =>
    .fixed "Block adhura hai. Closing brace, bracket, ya parenthesis missing hai."
  | incompleteFunctionSignature, .english =>
    .fixed "Function declaration incomplete. Missing parenthesis or opening brace."
  | incompleteFunctionSignature, .hindi =>
    .fixed "Function declaration adhura hai. Parenthesis ya opening brace missing hai."
  | unusedFunction, .english => .fixed "Function is declared but never called."
  | unusedFunction, .hindi => .fixed "Function declare hua hai par kabhi call nahi hua."

def hint : MessageKind → Language → String
  | missingSemicolon, .english => "Add a semicolon at the end of the statement."
  | missingSemicolon, .hindi => "Statement ke end mein semicolon add karo."
  | undefinedVariable, .english =>
    "Make sure this variable is declared with let, const, var, or function parameter."
  | undefinedVariable, .hindi =>
    "Check karo ki variable ko let, const, var ya function parameter se declare kiya hai ya nahi."
  | incompleteBlock, .english =>
    "Block is incomplete. Missing closing brace, bracket, or parenthesis."
  | incompleteBlock, .hindi =>
    "Block adhura hai. Closing brace, bracket, ya parenthesis missing hai."
  | incompleteFunctionSignature, .english =>
    "Function declaration incomplete. Missing parenthesis or opening brace."
  | incompleteFunctionSignature, .hindi =>
    "Function declaration adhura hai. Parenthesis ya opening brace missing hai."
  | unusedFunction, .english => "Function is declared but never called."
  | unusedFunction, .hindi => "Function declare hua hai par kabhi call nahi hua."

/-- The message of a kind; a complete wording takes no notice of the name. -/
def message (kind : MessageKind) (language : Language) (name : Option Text) :
    Except MissingName String :=
  match kind.wording language, name with
  | .fixed text, _ => .ok text
  | .naming text, some name => .ok (text name)
  | .naming _, none => .error ⟨kind⟩

end MessageKind

def MissingName.message (error : MissingName) : String :=
  "message '" ++ error.kind.key ++ "' needs a name"

end SurfaceLint
