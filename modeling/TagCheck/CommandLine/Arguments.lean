import TagCheck.Settings.Basic
import TagCheck.Verbosity

/-!
# Arguments of the command line

The arguments are read from left to right into flags, options with a value, and words. The first word is the
command; what stands before it are options of the program, what follows are those of the command. The
options of the program may stand on both sides, and then those after the command count. The first mistake
ends the reading, and so does a wish for help or for the version: what follows does not matter any more.
-/

namespace TagCheck

/-- The overviews that can be asked for. -/
inductive Overview where
  | lineage
  | signatures
  | problems
  deriving DecidableEq, Repr

def Overview.table : List (String × Overview) :=
  [("lineage", .lineage), ("signatures", .signatures), ("problems", .problems)]

inductive Command where
  | check (snapshot : String) (profile : Option Profile) (arity : Option ArityPolicy)
    (builtins : List String)
  | init (dir : String) (force : Bool)
  deriving DecidableEq, Repr

/-- What the command line asks for. -/
inductive Request where
  | run (command : Command) (verbosity : Verbosity) (overviews : List Overview)
  | help
  /-- The version of the program, or of a command by its name. -/
  | version (command : Option String)

inductive UsageError where
  | unknownArgument (text : String)
  | missingValue (option : String)
  | unexpectedValue (flag : String)
  | invalidValue (option value : String)
  | repeated (option : String)
  | missingArgument (name : String)
  | noCommand

def UsageError.message : UsageError → String
  | .unknownArgument text => "unexpected argument '" ++ text ++ "'"
  | .missingValue option => "'--" ++ option ++ "' needs a value"
  | .unexpectedValue flag => "'--" ++ flag ++ "' takes no value"
  | .invalidValue option value => "invalid value '" ++ value ++ "' for '--" ++ option ++ "'"
  | .repeated option => "'--" ++ option ++ "' cannot be used twice"
  | .missingArgument name => "<" ++ name ++ "> is missing"
  | .noCommand => "a command is missing"

/-- What ends the reading of arguments before their end. -/
inductive Ending where
  | misused (e : UsageError)
  | asked (r : Request)

/-! ### Arguments of one level -/

/-- One argument. -/
inductive CommandLine.Item where
  | flag (name : String)
  | option (name value : String)
  | word (text : String)
  deriving DecidableEq, Repr

namespace CommandLine

/-- What the program itself or one of its commands knows: flags, options, commands, and the number of words
it takes. -/
structure Level where
  name : Option String
  flags : List String
  options : List String
  commands : List String
  words : Nat

def Level.program : Level where
  name := none
  flags := ["debug", "quiet", "verbose", "help", "version"]
  options := ["dump", "debug-trace"]
  commands := ["check", "init", "help"]
  words := 0

def Level.check : Level where
  name := some "check"
  flags := Level.program.flags
  options := Level.program.options ++ ["profile", "arity", "builtin"]
  commands := []
  words := 1

def Level.init : Level where
  name := some "init"
  flags := Level.program.flags ++ ["force"]
  options := Level.program.options
  commands := []
  words := 1

/-- The flags that have a letter. -/
def letters : List (Char × String) :=
  [('q', "quiet"), ('v', "verbose"), ('h', "help"), ('V', "version")]

/-- The flags and options that may stand more than once. -/
def repeatable : List String :=
  ["verbose", "dump", "debug-trace", "builtin"]

/-- Whether an option takes a value. -/
def accepts (name value : String) : Bool :=
  match name with
  | "dump" => (Overview.table.lookup value).isSome
  | "debug-trace" => (Topic.table.lookup value).isSome
  | "profile" => (Profile.table.lookup value).isSome
  | "arity" => (ArityPolicy.table.lookup value).isSome
  | _ => true

def hasFlag (items : List Item) (name : String) : Bool :=
  items.contains (.flag name)

def flagCount (items : List Item) (name : String) : Nat :=
  items.count (.flag name)

/-- The values of an option. -/
def valuesOf (items : List Item) (name : String) : List String :=
  items.filterMap fun
    | .option other value => if other == name then some value else none
    | _ => none

/-- The values of an option that has a choice of values. -/
def choicesOf {α : Type} (table : List (String × α)) (items : List Item) (name : String) : List α :=
  (valuesOf items name).filterMap (List.lookup · table)

def wordsOf (items : List Item) : List String :=
  items.filterMap fun
    | .word text => some text
    | _ => none

/-- Refuses an option whose value it does not take. -/
def checkValue : Item → Except Ending Unit
  | .option name value =>
    if accepts name value then .ok () else .error (.misused (.invalidValue name value))
  | _ => .ok ()

/-- Checks the latest item: a value that is an argument of its own is checked only when the next argument of
its level comes, or when the level ends. -/
def checkLatest (given : List Item) : Except Ending Unit :=
  given.getLast?.elim (.ok ()) checkValue

/-- Refuses a flag or option that stands already and may not be repeated. -/
def checkFresh (given : List Item) (name : String) : Except Ending Unit :=
  let stands := hasFlag given name || !(valuesOf given name).isEmpty
  if stands && !repeatable.contains name then .error (.misused (.repeated name)) else .ok ()

namespace Level

def addFlag (level : Level) (given : List Item) (name : String) : Except Ending (List Item) :=
  match name with
  | "help" => .error (.asked .help)
  | "version" => .error (.asked (.version level.name))
  | name => do
    checkFresh given name
    return given ++ [.flag name]

/-- Adds the flags of the letters behind one dash. -/
def addLetters (level : Level) (given : List Item) : List Char → Except Ending (List Item)
  | [] => .ok given
  | c :: cs =>
    match letters.lookup c with
    | some name => do
      let given ← level.addFlag given name
      level.addLetters given cs
    | none => .error (.misused (.unknownArgument ("-" ++ c.toString)))

def addOption (given : List Item) (name value : String) : Except Ending (List Item) := do
  checkFresh given name
  return given ++ [.option name value]

def addWord (level : Level) (given : List Item) (text : String) : Except Ending (List Item) :=
  if (wordsOf given).length < level.words then .ok (given ++ [.word text])
  else .error (.misused (.unknownArgument text))

end Level

/-- A name, and the value after the first equals sign. -/
def splitValue (cs : List Char) : String × Option String :=
  match cs.span (· != '=') with
  | (name, []) => (String.ofList name, none)
  | (name, _ :: value) => (String.ofList name, some (String.ofList value))

/-- Whether an argument is a flag or an option, so that it cannot be the value of an option. -/
def isDashed (text : String) : Bool :=
  match text.toList with
  | '-' :: _ :: _ => true
  | _ => false

/-- Reads the arguments of a level after those that are `given`, up to a command if the level has any. After
two dashes there are only words. -/
def Level.read (level : Level) (given : List Item) :
    List String → Except Ending (List Item × List String)
  | [] => .ok (given, [])
  | text :: rest => do
    if level.commands.contains text then return (given, text :: rest)
    checkLatest given
    match text.toList with
    | ['-', '-'] => return (← rest.foldlM level.addWord given, [])
    | '-' :: '-' :: cs =>
      match splitValue cs with
      | (name, none) =>
        if level.flags.contains name then
          level.read (← level.addFlag given name) rest
        else if level.options.contains name then
          match rest with
          | [] => throw (.misused (.missingValue name))
          | value :: rest =>
            if isDashed value then throw (.misused (.missingValue name))
            level.read (← addOption given name value) rest
        else throw (.misused (.unknownArgument text))
      | (name, some value) =>
        if level.options.contains name then
          checkValue (.option name value)
          level.read (← addOption given name value) rest
        else if level.flags.contains name then throw (.misused (.unexpectedValue name))
        else throw (.misused (.unknownArgument text))
    | '-' :: c :: cs => level.read (← level.addLetters given (c :: cs)) rest
    | _ => level.read (← level.addWord given text) rest

/-! ### Requests -/

/-- Options of the program that stand before the command and after it: those after it count. -/
def prefer {α : Type} (before after : List α) : List α :=
  if after.isEmpty then before else after

/-- A command with its options and words. -/
def command (name : String) (given : List Item) : Except Ending Command :=
  match name, wordsOf given with
  | "check", [] => .error (.misused (.missingArgument "SNAPSHOT"))
  | "check", snapshot :: _ =>
    .ok (.check snapshot (choicesOf Profile.table given "profile").head?
      (choicesOf ArityPolicy.table given "arity").head? (valuesOf given "builtin"))
  | _, words => .ok (.init (words.head?.getD ".") (hasFlag given "force"))

/-- Help on the program, or on the command that is named. -/
def helpOn : List String → Except Ending Request
  | [] => .ok .help
  | [name] =>
    if Level.program.commands.contains name then .ok .help
    else .error (.misused (.unknownArgument name))
  | _ :: extra :: _ => .error (.misused (.unknownArgument extra))

/-- The command with the given name, after the options of the program before it. -/
def runOf (before : List Item) (name : String) (arguments : List String) : Except Ending Request := do
  let level := if name == "check" then Level.check else Level.init
  let (after, _) ← level.read [] arguments
  checkLatest after
  let asked ← command name after
  checkLatest before
  let marks := flagCount after "verbose"
  let verbosity : Verbosity :=
    { quiet := hasFlag before "quiet" || hasFlag after "quiet"
      debug := hasFlag before "debug" || hasFlag after "debug"
      verbose := min 255 (if marks == 0 then flagCount before "verbose" else marks)
      topics := prefer (choicesOf Topic.table before "debug-trace")
        (choicesOf Topic.table after "debug-trace") }
  return .run asked verbosity
    (prefer (choicesOf Overview.table before "dump") (choicesOf Overview.table after "dump"))

/-- What a list of arguments asks for, unless the reading ends early. -/
def readRequest (arguments : List String) : Except Ending Request := do
  match ← Level.program.read [] arguments with
  | (_, []) => throw (.misused .noCommand)
  | (_, "help" :: path) => helpOn path
  | (before, name :: rest) => runOf before name rest

/-- What a list of arguments asks for. -/
def request (arguments : List String) : Except UsageError Request :=
  match readRequest arguments with
  | .ok r | .error (.asked r) => .ok r
  | .error (.misused e) => .error e

end CommandLine

end TagCheck
