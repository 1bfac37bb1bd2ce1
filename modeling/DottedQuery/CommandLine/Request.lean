/-
# DottedQuery.CommandLine.Request -- what the command line asks for

A command line names a command, `compile` or `run`, a specification and options. An option
has a long name, some also a short one; its value is the next argument, or follows in the
same argument. After `--` nothing is an option any more. Arguments are read from left to
right, and the first thing wrong, or a demand for help or for the version, ends the reading.
-/
import DottedQuery.Sql.Dialect

namespace DottedQuery.CommandLine

/-! ## Requests -/

/-- A command with its arguments. -/
inductive Command where
  | compile (spec : String) (catalog database : Option String) (dialect : Option Sql.Dialect)
  | run (spec : String) (database catalog : Option String) (raw : Bool)
  deriving DecidableEq, Repr

/-- A command and the settings file to use. -/
structure Invocation where
  config : Option String
  command : Command
  deriving DecidableEq, Repr

/-- What can be wrong with a command line. -/
inductive UsageError where
  | noCommand
  | unknownCommand (name : String)
  | unknownOption (argument : String)
  | unexpectedWord (argument : String)
  | unexpectedValue (name : String)
  | missingValue (name : String)
  | badValue (name value : String)
  | repeated (name : String)
  | noSpec
  deriving DecidableEq, Repr

/-- What is wrong with the command line. -/
def UsageError.message : UsageError → String
  | noCommand => "a command is required: compile or run"
  | unknownCommand name => "unknown command '" ++ name ++ "'"
  | unknownOption argument => "unknown option '" ++ argument ++ "'"
  | unexpectedWord argument => "unexpected argument '" ++ argument ++ "'"
  | unexpectedValue name => "option '--" ++ name ++ "' takes no value"
  | missingValue name => "option '--" ++ name ++ "' needs a value"
  | badValue name value => "invalid value '" ++ value ++ "' for option '--" ++ name ++ "'"
  | repeated name => "option '--" ++ name ++ "' is given more than once"
  | noSpec => "a specification is required"

/-- Why the reading of a command line ends early. -/
inductive Stop where
  | usage (cause : UsageError)
  | help
  | version
  deriving DecidableEq, Repr

/-! ## Options -/

/-- A kind of option. -/
structure Switch where
  long : String
  short : Option Char := none
  takesValue : Bool := true
  /-- Whether a value is acceptable. -/
  accepts : String → Bool := fun value => value ≠ ""
  /-- Whether the option ends the reading. -/
  stop : Option Stop := none

/-- The option that asks for help. -/
def helpSwitch : Switch :=
  { long := "help", short := some 'h', takesValue := false, stop := some .help }

/-- The option that names the settings file; it may stand before or after the command. -/
def configSwitch : Switch := { long := "config" }

/-- The option that names the catalog file. -/
def catalogSwitch : Switch := { long := "catalog", short := some 'c' }

/-- The option that names the database file. -/
def databaseSwitch : Switch := { long := "database" }

/-- The options before the command. -/
def topSwitches : List Switch :=
  [configSwitch, helpSwitch,
    { long := "version", short := some 'V', takesValue := false, stop := some .version }]

/-- The options of `compile`. -/
def compileSwitches : List Switch :=
  [catalogSwitch, databaseSwitch, configSwitch, helpSwitch,
    { long := "dialect"
      short := some 'd'
      accepts := fun value => (Sql.Dialect.named.lookup value).isSome }]

/-- The options of `run`. -/
def runSwitches : List Switch :=
  [databaseSwitch, catalogSwitch, configSwitch, helpSwitch, { long := "raw", takesValue := false }]

/-! ## Reading arguments -/

/-- Options by name, and the word that stands alone. -/
structure Arguments where
  options : List (String × String) := []
  word : Option String := none

/-- The value of an option. -/
def Arguments.option (a : Arguments) (name : String) : Option String := a.options.lookup name

/-- An argument that looks like an option: a dash and something after it. -/
def looksLikeOption (argument : String) : Bool :=
  argument.startsWith "-" && argument ≠ "-"

/-- What an argument is. -/
inductive Item where
  | word (text : String)
  /-- An option with the value in the same argument, if there is one. -/
  | option (switch : Switch) (value : Option String)

/-- Reads a long option without its dashes. -/
def longOption (switches : List Switch) (body : List Char) : Except UsageError Item :=
  let name := String.ofList (body.takeWhile (· ≠ '='))
  let value := (body.dropWhile (· ≠ '=')).tail?.map String.ofList
  match switches.find? (·.long = name) with
  | some switch => .ok (.option switch value)
  | none => .error (.unknownOption ("--" ++ String.ofList body))

/-- Reads a short option without its dash. What follows the letter is its value; after an
option that ends the reading nothing is looked at. -/
def shortOption (switches : List Switch) (letter : Char) (rest : List Char) :
    Except UsageError Item :=
  match switches.find? (·.short = some letter) with
  | some switch =>
    let value := if rest.head? = some '=' then rest.tail else rest
    let given := !rest.isEmpty && switch.stop.isNone
    .ok (.option switch (if given then some (String.ofList value) else none))
  | none => .error (.unknownOption (String.ofList ['-', letter]))

/-- Reads one argument. -/
def item (switches : List Switch) (argument : String) : Except UsageError Item :=
  match argument.toList with
  | '-' :: '-' :: body => longOption switches body
  | '-' :: letter :: rest => shortOption switches letter rest
  | _ => .ok (.word argument)

/-- Adds an option with its value to the arguments read so far. -/
def Arguments.addOption (a : Arguments) (switch : Switch) (value : String) :
    Except Stop Arguments :=
  if (a.option switch.long).isSome then .error (.usage (.repeated switch.long))
  else if switch.takesValue && !switch.accepts value then
    .error (.usage (.badValue switch.long value))
  else .ok { a with options := a.options ++ [(switch.long, value)] }

/-- Adds a word, of which there may be one. -/
def Arguments.addWord (a : Arguments) (text : String) : Except Stop Arguments :=
  if a.word.isSome then .error (.usage (.unexpectedWord text))
  else if text.isEmpty then .error (.usage .noSpec)
  else .ok { a with word := some text }

/-- Reads arguments to their end, or up to the first word if `leading`. What is left over is
given back. -/
def scan (switches : List Switch) (leading : Bool) (a : Arguments) :
    List String → Except Stop (Arguments × List String)
  | [] => .ok (a, [])
  | "--" :: rest => do return (← rest.foldlM Arguments.addWord a, [])
  | argument :: rest => do
    match ← (item switches argument).mapError Stop.usage with
    | .word text =>
      if leading then return (a, text :: rest)
      else
        let a ← a.addWord text
        scan switches leading a rest
    | .option switch given =>
      match switch.stop, switch.takesValue, given, rest with
      | _, false, some _, _ => .error (.usage (.unexpectedValue switch.long))
      | some stop, _, _, _ => .error stop
      | none, false, none, rest =>
        let a ← a.addOption switch ""
        scan switches leading a rest
      | none, true, some value, rest =>
        let a ← a.addOption switch value
        scan switches leading a rest
      | none, true, none, [] => .error (.usage (.missingValue switch.long))
      | none, true, none, value :: rest =>
        if looksLikeOption value then .error (.usage (.missingValue switch.long))
        else
          let a ← a.addOption switch value
          scan switches leading a rest

/-! ## Commands -/

/-- The one word of a command: its specification. -/
def specOf (a : Arguments) : Except Stop String :=
  match a.word with
  | some spec => .ok spec
  | none => .error (.usage .noSpec)

/-- Reads the arguments of `compile`. -/
def compileCommand (a : Arguments) : Except Stop Command := do
  let dialect := (a.option "dialect").bind (Sql.Dialect.named.lookup ·)
  return .compile (← specOf a) (a.option "catalog") (a.option "database") dialect

/-- Reads the arguments of `run`. -/
def runCommand (a : Arguments) : Except Stop Command := do
  return .run (← specOf a) (a.option "database") (a.option "catalog") (a.option "raw").isSome

/-- The words on which there is help. -/
def helpTopics : List String := ["compile", "run", "help"]

/-- Reads what follows the word `help`: nothing, or one topic. -/
def helpOn : List String → Stop
  | [] => .help
  | topic :: rest =>
    match rest with
    | [] => if topic ∈ helpTopics then .help else .usage (.unknownCommand topic)
    | extra :: _ => .usage (.unexpectedWord (if topic ∈ helpTopics then extra else topic))

/-- Reads what follows the name of a command. -/
def commandOf (name : String) (arguments : List String) :
    Except Stop (Command × Arguments) :=
  if name = "compile" then do
    let (a, _) ← scan compileSwitches false {} arguments
    return (← compileCommand a, a)
  else if name = "run" then do
    let (a, _) ← scan runSwitches false {} arguments
    return (← runCommand a, a)
  else if name = "help" then .error (helpOn arguments)
  else .error (.usage (.unknownCommand name))

/-- Reads a command line. A settings file named after the command wins over one named
before it. -/
def Invocation.ofArguments (arguments : List String) : Except Stop Invocation := do
  let (top, rest) ← scan topSwitches true {} arguments
  match top.word, rest with
  | some extra, _ => .error (.usage (.unexpectedWord extra))
  | none, [] => .error (.usage .noCommand)
  | none, name :: arguments =>
    let (command, inner) ← commandOf name arguments
    return ⟨(inner.option "config").or (top.option "config"), command⟩

end DottedQuery.CommandLine
