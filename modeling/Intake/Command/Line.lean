/-
Command lines.

Words are read from left to right: options of the program, the name of a
command, and options behind it. Reading ends at the first word that does
not fit, or that asks about the program itself. The configuration may be
named on both sides of the command, where the side behind it wins, but an
option is given once on a side. An option's value is its own word or
follows an equals sign; as its own word it does not look like an option.
-/
namespace Intake

/-- What the program can be asked to do with a configuration. -/
inductive CommandName where
  | run
  | validate
  | stages
  | sources
deriving DecidableEq, Repr

/-- The command with a name. -/
def CommandName.ofText? : String → Option CommandName
  | "run" => some .run
  | "validate" => some .validate
  | "stages" => some .stages
  | "sources" => some .sources
  | _ => none

/-- A command with its options. -/
structure CommandLine where
  command : CommandName
  config : String
  /-- the sources to run, or else all -/
  choice : Option String
deriving DecidableEq, Repr

namespace CommandLine

/-- The configuration of a command line that names none. -/
def defaultConfig : String := "./config/sluice.toml"

/-- What the words of a command line ask for. -/
inductive Request where
  | command (line : CommandLine)
  /-- help, or the version -/
  | about
  | misuse
deriving DecidableEq, Repr

-- ====================================================== words

/-- What a word on the command line looks like before it is known whether an
option takes the word behind it. -/
inductive Word where
  | plain
  /-- one letter after the other behind a hyphen -/
  | letters (letters : List Char)
  /-- a name behind two hyphens, with the value behind its equals sign -/
  | option (name : String) (value : Option String)
  /-- two hyphens, behind which options end -/
  | rest
deriving DecidableEq, Repr

/-- The name of an option and the value behind its equals sign. -/
def optionWord (cs : List Char) : Word :=
  .option (String.ofList (cs.takeWhile (· != '='))) <|
    match cs.dropWhile (· != '=') with
    | _ :: value => some (String.ofList value)
    | [] => none

/-- A word by the hyphens it begins with; a hyphen alone is plain. -/
def Word.ofText (s : String) : Word :=
  match s.toList with
  | ['-', '-'] => .rest
  | '-' :: '-' :: cs => optionWord cs
  | '-' :: c :: cs => .letters (c :: cs)
  | _ => .plain

/-- Reads letters in order; nothing comes of those that set how much is
told. -/
def readLetters (version : Bool) : List Char → Option Request
  | [] => none
  | 'v' :: rest => readLetters version rest
  | 'h' :: _ => some .about
  | 'V' :: _ => some (if version then .about else .misuse)
  | _ :: _ => some .misuse

-- ====================================================== options

/-- The values given on one side of the command. -/
structure Given where
  config : Option String := none
  choice : Option String := none

/-- Takes the value of an option, unless it has one already. -/
def Given.put (given : Given) (command : Option CommandName)
    (name value : String) : Option Given :=
  if name = "config" then
    if given.config.isSome || value.isEmpty then none
    else some { given with config := some value }
  else if name = "connector" && command == some .run then
    if given.choice.isSome then none
    else some { given with choice := some value }
  else none

/-- What an option asks for by itself, if it takes no value. -/
def flag? (command : Option CommandName) (name : String) :
    Option (Option Request) :=
  if name = "verbose" then some none
  else if name = "help" then some (some .about)
  else if name = "version" && command.isNone then some (some .about)
  else none

/-- A question about the program, or about one command. -/
def readHelp : List String → Request
  | [] => .about
  | [name] =>
      if name = "help" || (CommandName.ofText? name).isSome then .about
      else .misuse
  | _ => .misuse

-- ====================================================== lines

/-- What the words asked for, of which the last is read. -/
def finish (command : Option CommandName) (before given : Given) : Request :=
  match command with
  | none => .misuse
  | some command =>
    .command ⟨command, (given.config.or before.config).getD defaultConfig,
      given.choice⟩

/-- Reads words on one side of the command, with what was given before it. -/
def readWords (command : Option CommandName) (before given : Given) :
    List String → Request
  | [] => finish command before given
  | word :: words =>
    match Word.ofText word with
    | .plain =>
      if command.isSome then .misuse
      else if word = "help" then readHelp words
      else match CommandName.ofText? word with
        | some name => readWords (some name) given {} words
        | none => .misuse
    | .letters letters =>
      match readLetters command.isNone letters with
      | some request => request
      | none => readWords command before given words
    | .rest => if words.isEmpty then finish command before given else .misuse
    | .option name (some value) =>
      match given.put command name value with
      | some given => readWords command before given words
      | none => .misuse
    | .option name none =>
      match flag? command name with
      | some (some request) => request
      | some none => readWords command before given words
      | none =>
        match words with
        | [] => .misuse
        | value :: words =>
          if Word.ofText value != .plain then .misuse
          else match given.put command name value with
            | some given => readWords command before given words
            | none => .misuse

/-- Reads the words of a command line. -/
def read (words : List String) : Request := readWords none {} {} words

end CommandLine

end Intake
