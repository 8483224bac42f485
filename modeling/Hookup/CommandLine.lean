import Hookup.Settings
import Hookup.Time.TimeText

/-!
# The command line

The words after the name of the program: options of the program itself, then a command with its own
options.  `Grammar` says which options a command has, `Grammar.read` sorts the words by it, and
`Invocation.ofWords` reads a whole command line.

An option is written once at most.  Its value follows as the next word, which must not begin with a
hyphen, or after an equals sign.  After `--` all words are operands.

Words are read from left to right.  Someone who asks how the program is used is told so, unless there
is something wrong before that.
-/

namespace Hookup

/-! ## Options -/

/-- Why words make no command. -/
inductive Refusal where
  /-- They ask how the program is used. -/
  | question
  /-- The program does not know what to do with them. -/
  | misuse
deriving DecidableEq

/-- What may follow a command: operands, options with a value, and options without. -/
structure Grammar where
  hasOperands : Bool
  valued : List String
  flags : List String
  /-- Whether an option can have a value. -/
  admits : String → String → Bool

/-- The grammar of options that can have any text for their value, and nothing else. -/
def Grammar.ofValued (valued : List String) : Grammar := ⟨false, valued, [], fun _ _ => true⟩

/-- Words sorted into operands, values of options, and options without values. -/
structure Sorted where
  operands : List String
  values : List (String × String)
  flags : List String

namespace Sorted

/-- No words. -/
def empty : Sorted := ⟨[], [], []⟩

/-- The value of an option. -/
def value? (s : Sorted) (name : String) : Option String := s.values.lookup name

/-- Whether an option is given. -/
def has (s : Sorted) (name : String) : Bool := s.flags.contains name

/-- The words with one more operand. -/
def withOperand (s : Sorted) (word : String) : Sorted := { s with operands := s.operands ++ [word] }

/-- The words with one more option with its value, if that is not there yet. -/
def withValue (s : Sorted) (name value : String) : Except Refusal Sorted :=
  if (s.value? name).isSome then throw .misuse
  else pure { s with values := (name, value) :: s.values }

/-- The words with one more option, if that is not there yet. -/
def withFlag (s : Sorted) (name : String) : Except Refusal Sorted :=
  if s.has name then throw .misuse else pure { s with flags := name :: s.flags }

end Sorted

/-- Whether a word is an option rather than an operand or a value. -/
def looksLikeOption (word : String) : Bool := Text.beginsWith word "-" && word != "-"

/-- Whether a word asks how the program is used. -/
def isQuestion (word : String) : Bool := word == "--help" || Text.beginsWith word "-h"

/-- A word before and after its first equals sign. -/
def splitEquals (word : String) : String × Option String :=
  let cs := word.toList
  match cs.dropWhile (· != '=') with
  | [] => (word, none)
  | _ :: value => (.ofList (cs.takeWhile (· != '=')), some (.ofList value))

namespace Grammar

/-- Add an option with its value. -/
def addValue (g : Grammar) (done : Sorted) (name value : String) : Except Refusal Sorted :=
  if g.admits name value then done.withValue name value else throw .misuse

/-- Sort words into `done`; `pending` is an option that still waits for its value. -/
def sort (g : Grammar) : Option String → List String → Sorted → Except Refusal Sorted
  | none, [], done => pure done
  | some _, [], _ => throw .misuse
  | some name, word :: rest, done =>
    if looksLikeOption word then throw .misuse
    else do g.sort none rest (← g.addValue done name word)
  | none, word :: rest, done =>
    if word = "--" then
      if g.hasOperands || rest.isEmpty then pure { done with operands := done.operands ++ rest }
      else throw .misuse
    else if !looksLikeOption word then
      if g.hasOperands then g.sort none rest (done.withOperand word) else throw .misuse
    else if isQuestion word then throw .question
    else
      let (name, value) := splitEquals word
      if g.valued.contains name then
        match value with
        | none => g.sort (some name) rest done
        | some value => do g.sort none rest (← g.addValue done name value)
      else if g.flags.contains name && value.isNone then do
        g.sort none rest (← done.withFlag name)
      else throw .misuse

/-- Sort the words after a command. -/
def read (g : Grammar) (words : List String) : Except Refusal Sorted := g.sort none words .empty

end Grammar

/-! ## Commands -/

/-- A query for hookups as it is given on the command line. -/
structure HookupQuery where
  names : List String
  pol : PolSelection
  date : TimeText
  exact : Bool
  hookupType : Option String
  useCache : Bool
  strict : Bool
  /-- Whether the answer is printed as JSON. -/
  json : Bool
deriving DecidableEq

/-- What the program is to do. -/
inductive Command where
  | hookup (query : HookupQuery)
  | writeCache (message : String)
  | cacheStatus
  | check
  | recordVersion (gitHash : Option String)
deriving DecidableEq

namespace Command

/-- The options of a query. -/
def hookupGrammar : Grammar where
  hasOperands := true
  valued := ["--pol", "--date", "--hookup-type"]
  flags := ["--exact", "--use-cache", "--strict", "--json"]
  admits name value := name != "--date" || (TimeText.read value).isOk

/-- A query from its words; it has at least one name. -/
def readHookup (words : List String) : Except Refusal Command := do
  let given ← hookupGrammar.read words
  if given.operands.isEmpty then throw .misuse
  let date ← (TimeText.read ((given.value? "--date").getD "now")).mapError fun _ => .misuse
  pure (.hookup {
    names := given.operands
    pol := .ofText ((given.value? "--pol").getD "all")
    date
    exact := given.has "--exact"
    hookupType := given.value? "--hookup-type"
    useCache := given.has "--use-cache"
    strict := given.has "--strict"
    json := given.has "--json" })

/-- The answer to someone who asks about a command by its name among others. -/
def aboutOne (names words : List String) : Refusal :=
  match words with
  | [] => .question
  | [name] => if names.contains name then .question else .misuse
  | _ => .misuse

/-- The names of the commands for the cache. -/
def cacheNames : List String := ["write", "status", "help"]

/-- A command for the cache from its words. -/
def readCache : List String → Except Refusal Command
  | "write" :: words => do
    let given ← (Grammar.ofValued ["--message"]).read words
    pure (.writeCache ((given.value? "--message").getD "manual rebuild"))
  | "status" :: words => do
    let _ ← (Grammar.ofValued []).read words
    pure .cacheStatus
  | "help" :: words => throw (aboutOne cacheNames words)
  | word :: _ => throw (if isQuestion word then .question else .misuse)
  | [] => throw .misuse

/-- The names of all commands. -/
def names : List String := ["hookup", "cache", "check", "version", "help"]

/-- A command from its words. -/
def read : List String → Except Refusal Command
  | "hookup" :: words => readHookup words
  | "cache" :: words => readCache words
  | "check" :: words => do
    let _ ← (Grammar.ofValued []).read words
    pure .check
  | "version" :: words => do
    let given ← (Grammar.ofValued ["--git-hash"]).read words
    pure (.recordVersion (given.value? "--git-hash"))
  | "help" :: "cache" :: words => throw (aboutOne cacheNames words)
  | "help" :: words => throw (aboutOne names words)
  | word :: _ => throw (if isQuestion word then .question else .misuse)
  | [] => throw .misuse

end Command

/-! ## The whole line -/

/-- A command with the path of the settings file. -/
structure Invocation where
  settings : String
  command : Command
deriving DecidableEq

/-- What a command line asks for. -/
inductive Asked where
  | run (invocation : Invocation)
  /-- The version of the program. -/
  | programVersion
  /-- How the program is used. -/
  | usage
  /-- Nothing that the program knows. -/
  | misuse
deriving DecidableEq

namespace Invocation

/-- The path of the settings file unless another is given. -/
def standardSettings : String := "hera-cm.toml"

/-- Read the words after the option for the settings file. -/
def afterSettings (settings : String) (words : List String) : Asked :=
  if words.head?.any fun word => word == "--version" || Text.beginsWith word "-V" then
    .programVersion
  else
    match Command.read words with
    | .ok command => .run ⟨settings, command⟩
    | .error .question => .usage
    | .error .misuse => .misuse

/-- Read the words after an option for a settings file, whose path is not empty. -/
def withSettings (settings : String) (words : List String) : Asked :=
  if settings.isEmpty then .misuse else afterSettings settings words

/-- The path given together with the option for the settings file in one word. -/
def attachedSettings? (word : String) : Option String :=
  if Text.beginsWith word "--config=" then some (.ofList (word.toList.drop 9))
  else if Text.beginsWith word "-c=" then some (.ofList (word.toList.drop 3))
  else if Text.beginsWith word "-c" then some (.ofList (word.toList.drop 2))
  else none

/-- Read the words of a command line. -/
def ofWords : List String → Asked
  | [] => .misuse
  | word :: rest =>
    if word = "--config" ∨ word = "-c" then
      match rest with
      | [] => .misuse
      | path :: rest => if looksLikeOption path then .misuse else withSettings path rest
    else
      match attachedSettings? word with
      | some path => withSettings path rest
      | none => afterSettings standardSettings (word :: rest)

end Invocation

end Hookup
