/-!
# Arguments

What the words of a command line ask for. Words are looked at from left to right, and the first one
that is wrong, or asks for help or the version, settles the matter; what is missing shows only at the
end. An option has a long name and perhaps a letter. Its value stands in the next word, behind an
equals sign, or directly behind the letter; flags can share one word with a last letter that takes a
value.
-/

namespace Groundplan

inductive Format where
  | text
  | json
deriving DecidableEq, Repr

namespace Format

def name : Format → String
  | .text => "text"
  | .json => "json"

def ofName? (name : String) : Option Format := [text, json].find? (·.name == name)

end Format

inductive Command where
  | compile (snapshot : String) (project out : Option String) (format : Format)
  | types (provider : Option String) (format : Format)
  | rules (source target : Option String) (format : Format)
deriving DecidableEq, Repr

inductive CommandName where
  | compile
  | types
  | rules
deriving DecidableEq, Repr

/-- The options that take a value. -/
inductive Setting where
  | project
  | out
  | format
  | provider
  | source
  | target
deriving DecidableEq, Repr

/-- The options that take no value. How much is logged bears on no report. -/
inductive Flag where
  | help
  | version
  | verbose
  | quiet
deriving DecidableEq, Repr

namespace CommandName

def name : CommandName → String
  | .compile => "compile"
  | .types => "types"
  | .rules => "rules"

def all : List CommandName := [.compile, .types, .rules]

def ofName? (name : String) : Option CommandName := all.find? (·.name == name)

def settings : CommandName → List Setting
  | .compile => [.project, .out, .format]
  | .types => [.provider, .format]
  | .rules => [.source, .target, .format]

/-- The number of words that a command takes besides options. -/
def operands : CommandName → Nat
  | .compile => 1
  | .types | .rules => 0

end CommandName

namespace Setting

def name : Setting → String
  | .project => "project"
  | .out => "out"
  | .format => "format"
  | .provider => "provider"
  | .source => "source"
  | .target => "target"

def letter? : Setting → Option Char
  | .project | .provider => some 'p'
  | .out => some 'o'
  | .format | .source | .target => none

/-- Whether a value may be given to the option: a path is not empty and a format has a name. -/
def accepts : Setting → String → Bool
  | .project, value | .out, value => value != ""
  | .format, value => (Format.ofName? value).isSome
  | .provider, _ | .source, _ | .target, _ => true

end Setting

namespace Flag

def name : Flag → String
  | .help => "help"
  | .version => "version"
  | .verbose => "verbose"
  | .quiet => "quiet"

def letter : Flag → Char
  | .help => 'h'
  | .version => 'V'
  | .verbose => 'v'
  | .quiet => 'q'

def all : List Flag := [.help, .version, .verbose, .quiet]

end Flag

/-- What is wrong with a command line. -/
inductive Mistake where
  | missingCommand
  | unknownCommand (word : String)
  | unknownOption (word : String)
  | unexpectedValue (option : String)
  | missingValue (option : String)
  | invalidValue (option value : String)
  | repeatedOption (option : String)
  | unexpectedWord (word : String)
  | missingSnapshot
deriving DecidableEq, Repr

def Mistake.message : Mistake → String
  | .missingCommand => "a command is required"
  | .unknownCommand word => "there is no command '" ++ word ++ "'"
  | .unknownOption word => "there is no option '" ++ word ++ "' here"
  | .unexpectedValue option => "the option '" ++ option ++ "' takes no value"
  | .missingValue option => "the option '" ++ option ++ "' needs a value"
  | .invalidValue option value => "'" ++ value ++ "' is no value for '" ++ option ++ "'"
  | .repeatedOption option => "the option '" ++ option ++ "' is given twice"
  | .unexpectedWord word => "'" ++ word ++ "' is one word too many"
  | .missingSnapshot => "the diagram to compile is not given"

/-- Why a command line asks for no command. -/
inductive Refusal where
  | help
  | version (command : Option CommandName)
  | mistake (m : Mistake)
deriving DecidableEq, Repr

/-- A word by its form. A single dash and the empty word are ordinary words. -/
inductive Word where
  | operand (text : String)
  /-- The word behind which there are no options. -/
  | divider
  | long (name : String) (value : Option String)
  | letters (chars : List Char)
deriving DecidableEq, Repr

/-- The text before the first equals sign, and the text behind it. -/
def splitEquals (text : List Char) : String × Option String :=
  let front := text.takeWhile (· != '=')
  match text.drop front.length with
  | [] => (String.ofList front, none)
  | _ :: value => (String.ofList front, some (String.ofList value))

def Word.ofText (text : String) : Word :=
  match text.toList with
  | ['-', '-'] => .divider
  | '-' :: '-' :: rest => let (name, value) := splitEquals rest; .long name value
  | '-' :: c :: rest => .letters (c :: rest)
  | _ => .operand text

/-- What has been read of the words behind the name of a command, or before it. -/
structure Arguments where
  flags : List Flag := []
  values : List (Setting × String) := []
  operands : List String := []
deriving DecidableEq, Repr, Inhabited

namespace Arguments

def raise (command : Option CommandName) (a : Arguments) : Flag → Except Refusal Arguments
  | .help => throw .help
  | .version => throw (.version command)
  | flag =>
    if a.flags.contains flag then throw (.mistake (.repeatedOption flag.name))
    else return { a with flags := flag :: a.flags }

def value? (a : Arguments) (setting : Setting) : Option String :=
  (a.values.find? (·.1 == setting)).map (·.2)

def give (a : Arguments) (setting : Setting) (value : String) : Except Refusal Arguments :=
  if !setting.accepts value then throw (.mistake (.invalidValue setting.name value))
  else if (a.value? setting).isSome then throw (.mistake (.repeatedOption setting.name))
  else return { a with values := (setting, value) :: a.values }

def addOperand (command : CommandName) (a : Arguments) (word : String) :
    Except Refusal Arguments :=
  if word == "" || command.operands ≤ a.operands.length then
    throw (.mistake (.unexpectedWord word))
  else return { a with operands := a.operands ++ [word] }

/-- The options with a value that may stand at this point. -/
def settingsOf (command : Option CommandName) : List Setting :=
  command.elim [] (·.settings)

/-- Reads a long option. An option that still lacks its value is returned. -/
def readLong (command : Option CommandName) (a : Arguments) (name : String)
    (value : Option String) : Except Refusal (Arguments × Option Setting) :=
  match Flag.all.find? (·.name == name), value with
  | some flag, none => do return (← a.raise command flag, none)
  | some flag, some _ => throw (.mistake (.unexpectedValue flag.name))
  | none, value =>
    match (settingsOf command).find? (·.name == name), value with
    | none, _ => throw (.mistake (.unknownOption ("--" ++ name)))
    | some setting, none => return (a, some setting)
    | some setting, some value => do return (← a.give setting value, none)

/-- Reads letters that share a word. An option that still lacks its value is returned. -/
def readLetters (command : Option CommandName) (a : Arguments) :
    List Char → Except Refusal (Arguments × Option Setting)
  | [] => return (a, none)
  | c :: rest =>
    match Flag.all.find? (·.letter == c) with
    | some flag => do readLetters command (← a.raise command flag) rest
    | none =>
      match (settingsOf command).find? (·.letter? == some c), rest with
      | none, _ => throw (.mistake (.unknownOption (String.ofList ['-', c])))
      | some setting, [] => return (a, some setting)
      | some setting, '=' :: value => do return (← a.give setting (String.ofList value), none)
      | some setting, value => do return (← a.give setting (String.ofList value), none)

/-- Reads a word of options. An option that still lacks its value is returned. -/
def readOption (command : Option CommandName) (a : Arguments) :
    Word → Except Refusal (Arguments × Option Setting)
  | .long name value => a.readLong command name value
  | .letters chars => a.readLetters command chars
  | .operand _ | .divider => return (a, none)

/-- Reads the words behind the name of a command. `waiting` is an option that lacks its value. -/
def readAll (command : CommandName) (waiting : Option Setting) (a : Arguments) :
    List String → Except Refusal Arguments
  | [] =>
    match waiting with
    | some setting => throw (.mistake (.missingValue setting.name))
    | none => return a
  | text :: rest =>
    match waiting, Word.ofText text with
    | some setting, .operand value => do readAll command none (← a.give setting value) rest
    | some setting, _ => throw (.mistake (.missingValue setting.name))
    | none, .operand word => do readAll command none (← a.addOperand command word) rest
    | none, .divider => rest.foldlM (addOperand command) a
    | none, word => do
      let (a, waiting) ← a.readOption (some command) word
      readAll command waiting a rest

def format (a : Arguments) : Format := ((a.value? .format).bind Format.ofName?).getD .text

/-- The command that has been asked for, once all its words have been read. -/
def toCommand (a : Arguments) : CommandName → Except Refusal Command
  | .compile =>
    match a.operands with
    | snapshot :: _ => return .compile snapshot (a.value? .project) (a.value? .out) a.format
    | [] => throw (.mistake .missingSnapshot)
  | .types => return .types (a.value? .provider) a.format
  | .rules => return .rules (a.value? .source) (a.value? .target) a.format

end Arguments

namespace Command

def helpWord : String := "help"

/-- What the words behind the request for help ask for: they name at most one command. -/
def readHelp : List String → Refusal
  | [] => .help
  | [word] => if word == helpWord || (CommandName.ofName? word).isSome then .help
    else .mistake (.unknownCommand word)
  | word :: _ => .mistake (.unknownCommand word)

/-- Reads the words before the name of a command, and then the others. -/
def readFrom (a : Arguments) : List String → Except Refusal Command
  | [] => throw (.mistake .missingCommand)
  | text :: rest =>
    match Word.ofText text with
    | .divider => throw (.mistake (rest.head?.elim .missingCommand .unknownCommand))
    | .operand word =>
      match CommandName.ofName? word with
      | some command => do (← Arguments.readAll command none {} rest).toCommand command
      | none => throw (if word == helpWord then readHelp rest else .mistake (.unknownCommand word))
    | word => do
      let (a, _) ← a.readOption none word
      readFrom a rest

def ofArguments (words : List String) : Except Refusal Command := readFrom {} words

end Command

end Groundplan
