import Quizmaster.Command

namespace Quizmaster

namespace CommandLine

/-- What a command line asks for. -/
inductive Order
  | run (command : Command)
  | version
  | help
deriving DecidableEq, Repr

def versionText : String := "quizrun 0.1.0"

def helpText : String :=
  Text.join "\n" [
    "Usage: quizrun <COMMAND>",
    "",
    "  take      [--bank PATH | --code CODE] [--subject S] [--grade G] [--identifier I]",
    "            [--length N] [--output PATH] [--config PATH]",
    "  import    --path PATH | --code CODE  [--config PATH]",
    "  bank      [--clear] [--config PATH]",
    "  validate  --path PATH",
    "  progress  [--reset] [--config PATH]",
    "  init"]

/-- What an option takes. A path is never empty. -/
inductive Value
  | flag
  | text
  | path
deriving DecidableEq, Repr

/-- The options of a command by their names. -/
abbrev Spec := List (String × Value)

/-- Options as they were given, each with its value; a flag's value is empty. -/
abbrev Given := List (String × String)

def startsWithDash (word : String) : Bool := word.toList.head? == some '-'

/-- Whether a word may be the value of the option before it. -/
def isValue (word : String) : Bool := !startsWithDash word || word == "-"

/-- The name and the attached value of an option. -/
def cut? (word : String) : Option (String × Option String) :=
  match word.toList with
  | '-' :: '-' :: rest =>
    let name := String.ofList (rest.takeWhile (· != '='))
    match rest.dropWhile (· != '=') with
    | _ :: value => some (name, some (String.ofList value))
    | [] => some (name, none)
  | _ => none

def isAllowed (kind : Value) (value : String) : Bool := kind != .path || value != ""

/-- Adds an option that has not been given. -/
def addOption? (given : Given) (name value : String) : Option Given :=
  if (given.lookup name).isSome then none else some (given ++ [(name, value)])

/-- Reads options up to the end of the words. Two dashes may end them. -/
def options? (spec : Spec) (given : Given) : List String → Option Given
  | [] => some given
  | ["--"] => some given
  | word :: rest => do
    let (name, attached) ← cut? word
    let kind ← spec.lookup name
    match kind, attached with
    | .flag, some _ => none
    | .flag, none => options? spec (← addOption? given name "") rest
    | kind, some value =>
      if isAllowed kind value then options? spec (← addOption? given name value) rest else none
    | kind, none =>
      match rest with
      | [] => none
      | value :: rest =>
        if isValue value && isAllowed kind value then
          options? spec (← addOption? given name value) rest
        else none

def asksForHelp (word : String) : Bool :=
  word == "--help" || (startsWithDash word && (word.toList.drop 1).head? == some 'h')

/-- The largest number that is read as a length. -/
def maxLength : Nat := Nat.pow 2 64 - 1

/-- A length, if one is given. -/
def length? (given : Given) : Option (Option Nat) :=
  match given.lookup "length" with
  | none => some none
  | some value => (Text.natural? maxLength value.toList).map some

def takeSpec : Spec :=
  [("bank", .path), ("code", .text), ("subject", .text), ("grade", .text), ("identifier", .text),
    ("length", .text), ("output", .path), ("config", .path)]

def poolOf? (given : Given) : Option Command.Pool :=
  match given.lookup "bank", given.lookup "code" with
  | some _, some _ => none
  | some path, none => some (.files path)
  | none, some code => some (.published code)
  | none, none => some .saved

def take? (given : Given) : Option Command :=
  do
    let pool ← poolOf? given
    let length ← length? given
    let filter : Filter :=
      ⟨given.lookup "subject", given.lookup "grade", given.lookup "identifier"⟩
    return .take ⟨pool, filter, length, given.lookup "output", given.lookup "config"⟩

/-- One origin has to be given, and only one. -/
def originOf? (given : Given) : Option Command.Origin :=
  match given.lookup "path", given.lookup "code" with
  | some path, none => some (.files path)
  | none, some code => some (.published code)
  | _, _ => none

def command? (name : String) (words : List String) : Option Command := do
  match name with
  | "take" => take? (← options? takeSpec [] words)
  | "import" =>
    let given ← options? [("path", .path), ("code", .text), ("config", .path)] [] words
    return .add (some (← originOf? given)) (given.lookup "config")
  | "bank" =>
    let given ← options? [("clear", .flag), ("config", .path)] [] words
    return .bank (given.lookup "clear").isSome (given.lookup "config")
  | "validate" =>
    let given ← options? [("path", .path)] [] words
    return .validate (← given.lookup "path")
  | "progress" =>
    let given ← options? [("reset", .flag), ("config", .path)] [] words
    return .progress (given.lookup "reset").isSome (given.lookup "config")
  | "init" =>
    let _ ← options? [] [] words
    return .samples
  | _ => none

def asksForVersion (word : String) : Bool :=
  word == "--version" || (startsWithDash word && (word.toList.drop 1).head? == some 'V')

def commandNames : List String := ["take", "import", "bank", "validate", "progress", "init", "help"]

/-- Reads the words of a command line, a command's name and its options. An option with a value
    takes the next word, or what follows an equals sign; each option may be given once. There is no
    result where they are not used rightly. -/
def parse? (words : List String) : Option Order :=
  match words with
  | [] => none
  | "help" :: rest =>
    match rest with
    | [] => some .help
    | [name] => if commandNames.contains name then some .help else none
    | _ => none
  | first :: rest =>
    if asksForVersion first then some .version
    else if asksForHelp first then some .help
    else
      match rest with
      | [word] => if asksForHelp word then some .help else (command? first rest).map .run
      | _ => (command? first rest).map .run

end CommandLine

end Quizmaster
