import SurfaceLint.Table
import SurfaceLint.Text.Scan

/-!
# Declared names

A function is declared where the keyword `function`, a gap, a name and an opening
parenthesis follow each other. A call site of a name is an occurrence of it with an opening
parenthesis behind it and no part of an identifier in front. The declaration of a function
has that shape too, so a function that is never called has one call site.

The parameter list of a function, named or not, runs from the parenthesis behind the
keyword to the next closing one. Each piece between commas binds one name, which may be
written with a rest marker, a default, a type or a question mark.

Nothing is known of scopes, strings or comments: there is one flat list of names per text,
and a name declared anywhere counts as declared everywhere. Scripts declare with `let`,
`const` and `var`, by function names and by parameters; Java declares with a type keyword,
which need not stand at the start of a word, so that `Point p` declares `p`. Each dialect
has names that are always declared.
-/

namespace SurfaceLint

/-! ## Functions and their calls -/

/-- A declaration runs from its keyword to the end of its name. -/
structure FunctionDeclaration where
  name : Text
  start : Nat
  stop : Nat
deriving DecidableEq

/-- A declared name, with the distance from the keyword to the end of the name. -/
structure FunctionHead where
  name : Text
  width : Nat

def functionHead? : Recogniser FunctionHead := fun before text => do
  guard (atWordStart before)
  let rest ← after? "function".toList text
  let rest ← afterGap? rest
  let (name, afterName) ← identifier? rest
  let rest ← afterMark? '(' afterName
  return ⟨⟨name, taken text afterName⟩, taken text rest⟩

/-- The function declarations of a text, in text order. -/
def functionDeclarations (text : Text) : List FunctionDeclaration :=
  (scan functionHead? text).map fun (offset, head) => ⟨head.name, offset, offset + head.width⟩

def callSite? (name : Text) : Recogniser Unit := fun before text => do
  guard (atIdentifierStart before)
  let rest ← after? name text
  let rest ← afterMark? '(' rest
  return ⟨(), taken text rest⟩

def countCallSites (text name : Text) : Nat :=
  (scan (callSite? name) text).length

/-- The number of call sites of a name, remembered or else counted now, and the numbers to
remember from now on. -/
def recallCount (text : Text) (counts : Table Text Nat) (name : Text) : Nat × Table Text Nat :=
  match counts.get? name with
  | some count => (count, counts)
  | none =>
    let count := countCallSites text name
    (count, counts.insert name count)

/-- The declarations whose names have at most one call site. -/
def unusedAmong (text : Text) (counts : Table Text Nat) :
    List FunctionDeclaration → List FunctionDeclaration
  | [] => []
  | declaration :: rest =>
    let recalled := recallCount text counts declaration.name
    if recalled.1 ≤ 1 then declaration :: unusedAmong text recalled.2 rest
    else unusedAmong text recalled.2 rest

/-- The declarations of functions that are never called. -/
def unusedFunctions (text : Text) : List FunctionDeclaration :=
  unusedAmong text .empty (functionDeclarations text)

/-- The numbers in a table are those of the call sites in a text. -/
def Remembers (text : Text) (counts : Table Text Nat) : Prop :=
  ∀ name count, counts.get? name = some count → count = countCallSites text name

theorem recallCount_spec {text : Text} {counts : Table Text Nat} (h : Remembers text counts)
    (name : Text) :
    (recallCount text counts name).1 = countCallSites text name ∧
      Remembers text (recallCount text counts name).2 := by
  unfold recallCount
  split
  · rename_i count hcount
    exact ⟨h name count hcount, h⟩
  · refine ⟨rfl, ?_⟩
    intro other count hcount
    rw [Table.get?_insert] at hcount
    split at hcount
    · rename_i heq
      rw [← Option.some.inj hcount, heq]
    · exact h other count hcount

theorem unusedAmong_eq_filter {text : Text} {counts : Table Text Nat} (h : Remembers text counts)
    (declarations : List FunctionDeclaration) :
    unusedAmong text counts declarations =
      declarations.filter fun declaration => countCallSites text declaration.name ≤ 1 := by
  induction declarations generalizing counts with
  | nil => rfl
  | cons declaration rest ih =>
    obtain ⟨hcount, hkept⟩ := recallCount_spec h declaration.name
    simp only [unusedAmong, hcount, ih hkept, List.filter_cons, decide_eq_true_eq]

/-- Counting once for each name makes no difference. -/
theorem unusedFunctions_eq_filter (text : Text) :
    unusedFunctions text =
      (functionDeclarations text).filter fun declaration =>
        countCallSites text declaration.name ≤ 1 := by
  have hempty : Remembers text .empty := by
    intro name count hcount
    rw [Table.get?_empty] at hcount
    contradiction
  exact unusedAmong_eq_filter hempty (functionDeclarations text)

/-! ## Parameters -/

def parameterList? : Recogniser Text := fun before text => do
  guard (atWordStart before)
  let rest ← after? "function".toList text
  guard (atWordEnd rest)
  let inside ← afterMark? '(' ((skipBlanks rest).dropWhile isIdentifierChar)
  match inside.dropWhile (· ≠ ')') with
  | [] => none
  | _ :: rest => return ⟨inside.takeWhile (· ≠ ')'), taken text rest⟩

/-- The text before the first occurrence of a character. -/
def upTo (mark : Char) (text : Text) : Text :=
  text.takeWhile (· ≠ mark)

def dropRestMarker (text : Text) : Text :=
  (after? "...".toList text).getD text

/-- The name that one piece of a parameter list binds. Question marks go last, so a blank
in front of one stays. -/
def parameterName (piece : Text) : Text :=
  trimRightWhere (· == '?') (trim (upTo ':' (upTo '=' (dropRestMarker (trim piece)))))

/-- The names bound by the parameter lists of a text. -/
def parameterNames (text : Text) : List Text :=
  (scan parameterList? text).flatMap fun (_, inside) =>
    ((inside.splitOn ',').map parameterName).filter (!·.isEmpty)

/-! ## Declared names -/

/-- The name behind one of a list of keywords and a gap. -/
def keywordName? (keywords : List String) (text : Text) : Option (Hit Text) := do
  let rest ← keywords.findSome? fun keyword => after? keyword.toList text
  let rest ← afterGap? rest
  let (name, rest) ← identifier? rest
  return ⟨name, taken text rest⟩

def scriptBuiltins : List String :=
  ["console", "undefined", "null", "window", "document", "global", "process", "module", "exports"]

def scriptKeywords : List String := ["let", "const", "var"]

def scriptDeclaration? : Recogniser Text := fun before text =>
  if atWordStart before then keywordName? scriptKeywords text else none

/-- The names that JavaScript or TypeScript text binds. -/
def declaredInScript (text : Text) : List Text :=
  scriptBuiltins.map String.toList ++ (scan scriptDeclaration? text).map Prod.snd ++
    (functionDeclarations text).map FunctionDeclaration.name ++ parameterNames text

def javaBuiltins : List String :=
  ["System", "out", "println", "String", "Integer", "Double", "Float", "Boolean", "ArrayList",
    "HashMap"]

def javaKeywords : List String :=
  ["int", "String", "double", "float", "boolean", "long", "short", "byte", "char", "var"]

def javaDeclaration? : Recogniser Text := fun _ text =>
  keywordName? javaKeywords text

/-- The names that Java text binds. -/
def declaredInJava (text : Text) : List Text :=
  javaBuiltins.map String.toList ++ (scan javaDeclaration? text).map Prod.snd

end SurfaceLint
