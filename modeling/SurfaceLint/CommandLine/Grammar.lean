import SurfaceLint.Text.Digit
import SurfaceLint.Text.Encoding
import SurfaceLint.Text.LineIndex

/-!
# Command-line grammars

A grammar says which options a command has and which operands it expects. Arguments are
first sorted into options and operands, all of them before any is acted upon. Then the
operands before an option, the option, and so on are consumed from left to right, each
acting on a state. What nothing consumes is left over.

* A long option may be shortened as long as one option only is meant, and its value may be
  joined to it by an equals sign.
* Short options without values may be written together, with or without an equals sign
  behind the first.
* A lone double dash makes operands of all arguments behind it. As a value it counts as left
  out.
* A negative number, or anything with a space in it, is an operand.
-/

namespace SurfaceLint

/-- What a program leaves behind when it ends. -/
structure Output where
  status : Nat
  out : String
  err : String
deriving DecidableEq

/-- What an option does to the state. A flag may end the program; a value may be wrong, or
left out. -/
inductive Effect (σ : Type) where
  | flag (run : σ → Except Output σ)
  | value (read : Option String → σ → Except String σ)

structure OptionRule (σ : Type) where
  spellings : List String
  effect : Effect σ

/-- A place for one operand, which may be left out as well. -/
structure Slot (σ : Type) where
  name : String
  read : Option String → σ → Except String σ

/-- Which operands a command expects: one for each slot, a run of one or more, or the name
of a further command, which takes all that follows. -/
inductive Operands (σ : Type) where
  | slots (slots : List (Slot σ))
  | several (name : String) (read : List String → σ → Except String σ)
  | command (name : String) (choose : String → Except String (List String → σ → Except Output σ))

structure Grammar (σ : Type) where
  program : String
  help : String
  options : List (OptionRule σ)
  operands : Operands σ

/-- An option that a word means: the rule, its spelling and what else the word holds. -/
structure Meaning (σ : Type) where
  rule : OptionRule σ
  spelling : String
  attached : Option Text

/-- A word that looks like an option; it may mean none. -/
structure OptionWord (σ : Type) where
  text : String
  meaning : Option (Meaning σ)

/-- A word that is no option. -/
inductive PlainWord where
  | operand (text : String)
  | separator
deriving DecidableEq

def PlainWord.text : PlainWord → String
  | operand text => text
  | separator => "--"

inductive Word (σ : Type) where
  | plain (word : PlainWord)
  | option (word : OptionWord σ)

/-- What is left to do and what was passed over. -/
structure Progress (σ : Type) where
  state : σ
  operands : Operands σ
  extras : List String

namespace Grammar

variable {σ : Type}

/-- The usage is the help up to its first blank line. -/
def usage (help : String) : String :=
  String.ofList ((((splitLines help.toList).takeWhile (!·.isEmpty)).flatMap (· ++ ['\n'])))

/-- A mistake is reported under the usage. -/
def misuse (grammar : Grammar σ) (message : String) : Output :=
  ⟨2, "", usage grammar.help ++ grammar.program ++ ": error: " ++ message ++ "\n"⟩

def badArgument (grammar : Grammar σ) (name message : String) : Output :=
  grammar.misuse ("argument " ++ name ++ ": " ++ message)

/-- Every grammar has an option that prints its help. -/
def helpOption (grammar : Grammar σ) : OptionRule σ :=
  ⟨["-h", "--help"], .flag fun _ => .error ⟨0, grammar.help, ""⟩⟩

def allOptions (grammar : Grammar σ) : List (OptionRule σ) :=
  grammar.helpOption :: grammar.options

/-- Every spelling of every option, in the order of declaration. -/
def spellings (grammar : Grammar σ) : List (String × OptionRule σ) :=
  grammar.allOptions.flatMap fun rule => rule.spellings.map (·, rule)

def optionNamed? (grammar : Grammar σ) (spelling : String) : Option (OptionRule σ) :=
  grammar.spellings.lookup spelling

/-- The text before and behind the first equals sign. -/
def splitJoined? (text : Text) : Option (String × Text) :=
  match text.dropWhile (· ≠ '=') with
  | [] => none
  | _ :: value => some (String.ofList (text.takeWhile (· ≠ '=')), value)

/-- The options that a long word may be short for. -/
def longMeanings (grammar : Grammar σ) (text : String) : List (Meaning σ) :=
  let (stem, attached) : String × Option Text :=
    match splitJoined? text.toList with
    | some (stem, value) => (stem, some value)
    | none => (text, none)
  (grammar.spellings.filter fun (spelling, _) => stem.toList.isPrefixOf spelling.toList).map
    fun (spelling, rule) => ⟨rule, spelling, attached⟩

/-- The options that a word with a single dash may mean: its first letter names the option,
and the rest is attached. -/
def shortMeanings (grammar : Grammar σ) (text : String) : List (Meaning σ) :=
  grammar.spellings.filterMap fun (spelling, rule) =>
    if spelling.toList = text.toList.take 2 then
      some ⟨rule, spelling, some (text.toList.drop 2)⟩
    else if text.toList.isPrefixOf spelling.toList then some ⟨rule, spelling, none⟩
    else none

def looksLikeOperand (text : Text) : Bool :=
  isNegativeNumber text || text.contains ' '

/-- Sorts a word that starts with a dash and is no option spelled out. -/
def sortDashed (grammar : Grammar σ) (text : String) : Except Output (Word σ) :=
  let meanings :=
    if "--".toList.isPrefixOf text.toList then grammar.longMeanings text
    else grammar.shortMeanings text
  match meanings with
  | [] =>
    if looksLikeOperand text.toList then .ok (.plain (.operand text))
    else .ok (.option ⟨text, none⟩)
  | [meaning] => .ok (.option ⟨text, some meaning⟩)
  | meanings =>
    .error (grammar.misuse ("ambiguous option: " ++ text ++ " could match " ++
      ", ".intercalate (meanings.map (·.spelling))))

/-- Sorts one word. -/
def sortWord (grammar : Grammar σ) (text : String) : Except Output (Word σ) :=
  match text.toList with
  | '-' :: rest =>
    match grammar.optionNamed? text with
    | some rule => .ok (.option ⟨text, some ⟨rule, text, none⟩⟩)
    | none =>
      if rest.isEmpty then .ok (.plain (.operand text))
      else
        match splitJoined? text.toList with
        | none => grammar.sortDashed text
        | some (spelling, value) =>
          match grammar.optionNamed? spelling with
          | some rule => .ok (.option ⟨text, some ⟨rule, spelling, some value⟩⟩)
          | none => grammar.sortDashed text
  | _ => .ok (.plain (.operand text))

/-- Sorts all words; behind a lone double dash all are operands. -/
def sortWords (grammar : Grammar σ) : List String → Except Output (List (Word σ))
  | [] => .ok []
  | text :: rest =>
    if text = "--" then .ok (.plain .separator :: rest.map fun text => .plain (.operand text))
    else do
      let word ← grammar.sortWord text
      return word :: (← grammar.sortWords rest)

/-- The run of plain words at the front, and each option with the run behind it. -/
def segments : List (Word σ) → List PlainWord × List (OptionWord σ × List PlainWord)
  | [] => ([], [])
  | word :: rest =>
    let (run, more) := segments rest
    match word with
    | .plain word => (word :: run, more)
    | .option word => ([], (word, run) :: more)

/-- Takes the first operand of a run, with the separators around it. -/
def takeOperand? (run : List PlainWord) : Option (List PlainWord × List PlainWord) :=
  let front := run.takeWhile (· == .separator)
  match run.dropWhile (· == .separator) with
  | [] => none
  | word :: rest =>
    some (front ++ word :: rest.takeWhile (· == .separator), rest.dropWhile (· == .separator))

/-- The values of words: the first double dash among them is dropped. -/
def values (words : List PlainWord) : List String :=
  (words.map PlainWord.text).erase "--"

/-- Fills slots from a run for as long as it has operands. -/
def fillSlots (grammar : Grammar σ) (state : σ) :
    List (Slot σ) → List PlainWord → Except Output (σ × List (Slot σ) × List PlainWord)
  | [], run => .ok (state, [], run)
  | slot :: slots, run =>
    match takeOperand? run with
    | none => .ok (state, slot :: slots, run)
    | some (taken, rest) =>
      match slot.read (values taken).head? state with
      | .ok state => grammar.fillSlots state slots rest
      | .error message => .error (grammar.badArgument slot.name message)

/-- Consumes a run; what no operand takes is left over. A further command has its own way,
since it also takes the options behind the run. -/
def consumeRun (grammar : Grammar σ) (progress : Progress σ) (run : List PlainWord) :
    Except Output (Progress σ) :=
  match progress.operands with
  | .slots slots => do
    let (state, slots, rest) ← grammar.fillSlots progress.state slots run
    return ⟨state, .slots slots, progress.extras ++ rest.map PlainWord.text⟩
  | .several name read =>
    if (takeOperand? run).isSome then
      match read (values run) progress.state with
      | .ok state => .ok ⟨state, .slots [], progress.extras⟩
      | .error message => .error (grammar.badArgument name message)
    else .ok { progress with extras := progress.extras ++ run.map PlainWord.text }
  | .command _ _ => .ok { progress with extras := progress.extras ++ run.map PlainWord.text }

/-- The options written in one word: flags, then one that may have a value attached. -/
structure Cluster (σ : Type) where
  flags : List (OptionRule σ)
  last : OptionRule σ
  attached : Option String

def optionName (rule : OptionRule σ) : String := "/".intercalate rule.spellings

def ignoredValue (grammar : Grammar σ) (rule : OptionRule σ) (value : Text) : Output :=
  grammar.badArgument (optionName rule)
    ("ignored explicit argument " ++ String.ofList (quoted value))

/-- Takes a word apart, given what is attached to its first option. A short flag passes it on
to the option that its first letter names. -/
def cluster (grammar : Grammar σ) (rule : OptionRule σ) (short : Bool) :
    Text → Except Output (Cluster σ)
  | [] =>
    match rule.effect with
    | .value _ => .ok ⟨[], rule, some ""⟩
    | .flag _ => .error (grammar.ignoredValue rule [])
  | c :: rest =>
    match rule.effect with
    | .value _ => .ok ⟨[], rule, some (String.ofList (c :: rest))⟩
    | .flag _ =>
      match short, grammar.optionNamed? (String.ofList ['-', c]) with
      | true, some next =>
        if rest.isEmpty then .ok ⟨[rule], next, none⟩
        else do
          let inner ← grammar.cluster next true rest
          return { inner with flags := rule :: inner.flags }
      | _, _ => .error (grammar.ignoredValue rule (c :: rest))

def meaningCluster (grammar : Grammar σ) (meaning : Meaning σ) : Except Output (Cluster σ) :=
  match meaning.attached with
  | none => .ok ⟨[], meaning.rule, none⟩
  | some attached =>
    grammar.cluster meaning.rule (meaning.spelling.toList[1]? != some '-') attached

/-- Gives a value from the run to an option that wants one and has none attached. -/
def takeValue (grammar : Grammar σ) (rule : OptionRule σ) (attached : Option String)
    (run : List PlainWord) : Except Output (Option String × List PlainWord) :=
  match rule.effect, attached with
  | .value _, none =>
    match run with
    | .operand text :: rest => .ok (some text, rest)
    | _ => .error (grammar.badArgument (optionName rule) "expected one argument")
  | _, attached => .ok (attached, run)

def act (grammar : Grammar σ) (rule : OptionRule σ) (value : Option String) (state : σ) :
    Except Output σ :=
  match rule.effect with
  | .flag run => run state
  | .value read =>
    match read (value.filter (· ≠ "--")) state with
    | .ok state => .ok state
    | .error message => .error (grammar.badArgument (optionName rule) message)

/-- Consumes an option, and its value from the run behind it. -/
def consumeOption (grammar : Grammar σ) (progress : Progress σ) (word : OptionWord σ)
    (run : List PlainWord) : Except Output (Progress σ × List PlainWord) :=
  match word.meaning with
  | none => .ok ({ progress with extras := progress.extras ++ [word.text] }, run)
  | some meaning => do
    let cluster ← grammar.meaningCluster meaning
    let (value, run) ← grammar.takeValue cluster.last cluster.attached run
    let state ← cluster.flags.foldlM (fun state rule => grammar.act rule none state) progress.state
    let state ← grammar.act cluster.last value state
    return ({ progress with state }, run)

/-- Hands all words from a run on to a further command. -/
def delegate (grammar : Grammar σ) (progress : Progress σ) (name : String)
    (choose : String → Except String (List String → σ → Except Output σ))
    (texts : List String) : Except Output (Progress σ) :=
  match texts with
  | [] => .ok progress
  | first :: rest =>
    match choose first with
    | .error message => .error (grammar.badArgument name message)
    | .ok run => do
      let state ← run rest progress.state
      return { progress with state, operands := .slots [] }

def segmentTexts (segment : OptionWord σ × List PlainWord) : List String :=
  segment.1.text :: segment.2.map PlainWord.text

/-- Consumes a run and the options behind it, from left to right. -/
def consume (grammar : Grammar σ) (progress : Progress σ) (run : List PlainWord) :
    List (OptionWord σ × List PlainWord) → Except Output (Progress σ)
  | [] =>
    match progress.operands, takeOperand? run with
    | .command name choose, some _ =>
      grammar.delegate progress name choose (run.map PlainWord.text)
    | _, _ => grammar.consumeRun progress run
  | segment :: rest =>
    match progress.operands, takeOperand? run with
    | .command name choose, some _ =>
      grammar.delegate progress name choose
        (run.map PlainWord.text ++ (segment :: rest).flatMap segmentTexts)
    | _, _ => do
      let progress ← grammar.consumeRun progress run
      let (progress, run) ← grammar.consumeOption progress segment.1 segment.2
      grammar.consume progress run rest

/-- The operands that are still missing; a further command need not be given. -/
def missing : Operands σ → List String
  | .slots slots => slots.map (·.name)
  | .several name _ => [name]
  | .command _ _ => []

/-- Reads arguments into a state, and returns those that nothing consumed. -/
def parse (grammar : Grammar σ) (initial : σ) (arguments : List String) :
    Except Output (σ × List String) := do
  let words ← grammar.sortWords arguments
  let (run, more) := segments words
  let progress ← grammar.consume ⟨initial, grammar.operands, []⟩ run more
  match missing progress.operands with
  | [] => return (progress.state, progress.extras)
  | names =>
    throw (grammar.misuse
      ("the following arguments are required: " ++ ", ".intercalate names))

/-- Arguments that nothing consumed are a mistake. -/
def unrecognized (grammar : Grammar σ) (extras : List String) : Output :=
  grammar.misuse ("unrecognized arguments: " ++ " ".intercalate extras)

end Grammar

/-- A value that has to be one of a few. -/
def choice (choices : List String) (value : String) : Except String String :=
  if choices.contains value then .ok value
  else
    .error ("invalid choice: " ++ quotedString value ++ " (choose from " ++
      ", ".intercalate (choices.map quotedString) ++ ")")

/-- A value that has to be an integer. -/
def integer (value : String) : Except String Int :=
  match readInteger? value.toList with
  | some n => .ok n
  | none => .error ("invalid int value: " ++ quotedString value)

end SurfaceLint
