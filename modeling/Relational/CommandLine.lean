import Relational.Settings
import Relational.Shell

/-!
# The command line

Options and one directory. The long name of an option may be cut where no other option starts the same way, and
its value may follow after `=`; the value of a short option may follow at once, and so may further short options
after one without a value. What starts with a hyphen and is neither an option nor a negative number nor a text with
blanks is unknown. After `--` nothing is an option.
-/

namespace Relational.CommandLine

open Text

/-! ## Options -/

/-- The options. -/
inductive Flag where
  | help
  | dataDirectory
  | logLevel
  | logFile
  | command
  deriving Repr, DecidableEq

/-- The long names of the options. -/
def longNames : List (String × Flag) :=
  [("--help", .help), ("--data-dir", .dataDirectory), ("--log-level", .logLevel), ("--log-file", .logFile),
    ("--command", .command)]

/-- The short names of options. -/
def shortNames : List (Char × Flag) :=
  [('h', .help), ('c', .command)]

/-- What an argument is. -/
inductive Argument where
  | positional
  /-- Every further argument is positional. -/
  | separator
  | option (flag : Flag) (value : Option String)
  /-- The short option for the help with further short options after it. -/
  | helpWith (letters : List Char)
  | ambiguous
  | unknown
  deriving Repr, DecidableEq

/-- The text before the first `=` and the text after it. -/
def splitValue (cs : List Char) : List Char × Option String :=
  match cs.dropWhile (· != '=') with
  | [] => (cs, none)
  | _ :: value => (cs.takeWhile (· != '='), some (String.ofList value))

/-- Nothing, or a single line end. -/
def isFinished (cs : List Char) : Bool :=
  cs.isEmpty || cs == ['\n']

/-- A negative number. A single line end after it is let through. -/
def isNegativeNumber : List Char → Bool
  | '-' :: cs =>
    let whole := cs.takeWhile isDecimalDigit
    match cs.drop whole.length with
    | '.' :: cs =>
      let fraction := cs.takeWhile isDecimalDigit
      !fraction.isEmpty && isFinished (cs.drop fraction.length)
    | cs => !whole.isEmpty && isFinished cs
  | _ => false

/-- An argument that starts with a hyphen and is no option. -/
def notAnOption (cs : List Char) : Argument :=
  if isNegativeNumber cs || cs.contains ' ' then .positional else .unknown

/-- An argument that starts with two hyphens. -/
def longOption (cs : List Char) : Argument :=
  let (written, value) := splitValue cs
  match longNames.find? fun entry => entry.1.toList == written with
  | some (_, flag) => .option flag value
  | none =>
    match longNames.filter fun entry => written.isPrefixOf entry.1.toList with
    | [] => notAnOption cs
    | [(_, flag)] => .option flag value
    | _ => .ambiguous

/-- An argument that starts with one hyphen and the character `c`. -/
def shortOption (c : Char) (cs : List Char) : Argument :=
  let attached := match cs with
    | '=' :: value => value
    | _ => cs
  match shortNames.lookup c, cs with
  | some flag, [] => .option flag none
  | some .help, _ => .helpWith attached
  | some flag, _ => .option flag (some (String.ofList attached))
  | none, _ => notAnOption ('-' :: c :: cs)

/-- What an argument is. -/
def classify (argument : String) : Argument :=
  match argument.toList with
  | ['-', '-'] => .separator
  | '-' :: '-' :: cs => longOption ('-' :: '-' :: cs)
  | '-' :: c :: cs => shortOption c cs
  | _ => .positional

/-! ## Reading arguments -/

/-- How a run ends before it starts: with the help, or because the arguments make no sense. -/
inductive Ending where
  | help
  | misuse
  deriving Repr, DecidableEq

/-- The exit code of an ending. -/
def Ending.code : Ending → Nat
  | .help => 0
  | .misuse => 2

/-- The arguments of a run. Of an option given twice the later value counts. -/
structure Arguments where
  directory : Option String := none
  dataDirectory : Option String := none
  logLevel : Option LogLevel := none
  logFile : Option String := none
  command : Option String := none
  /-- There are arguments that nothing takes. -/
  excess : Bool := false
  deriving Repr, DecidableEq

namespace Arguments

/-- The arguments with a positional one; only the first is taken. -/
def addPositional (arguments : Arguments) (value : String) : Arguments :=
  match arguments.directory with
  | none => { arguments with directory := some value }
  | some _ => { arguments with excess := true }

/-- The arguments with those after the separator. One that stands alone is taken with a directory, and is in excess
where the directory was given before. -/
def addSeparated (arguments : Arguments) (values : List String) : Arguments :=
  match arguments.directory with
  | none => values.foldl addPositional arguments
  | some _ => { arguments with excess := true }

/-- The arguments with the value of an option. The separator as a value stands for an empty one of any option. -/
def set (arguments : Arguments) (flag : Flag) (value : String) : Except Ending Arguments :=
  let separated := value == "--"
  let value := if separated then "" else value
  match flag with
  | .help => .error .misuse
  | .dataDirectory => .ok { arguments with dataDirectory := some value }
  | .logLevel =>
    match LogLevel.ofName? value with
    | some level => .ok { arguments with logLevel := some level }
    | none => if separated then .ok { arguments with logLevel := none } else .error .misuse
  | .logFile => .ok { arguments with logFile := some value }
  | .command => .ok { arguments with command := some value }

/-- The arguments, if something takes each of them. -/
def finish (arguments : Arguments) : Except Ending Arguments :=
  if arguments.excess then .error .misuse else .ok arguments

/-- The arguments go on with a positional one. -/
def startsPositional (texts : List String) : Bool :=
  (texts.head?.map classify) == some .positional

/-- How a run ends that asks for the help among other short options: each of them must be one, and one with a value
must have it. -/
def helpEnding (rest : List String) : List Char → Ending
  | [] => .misuse
  | ['h'] => .help
  | 'h' :: letters => helpEnding rest letters
  | ['c'] => if startsPositional rest then .help else .misuse
  | 'c' :: _ => .help
  | _ :: _ => .misuse

/-- Reads arguments from left to right. A separator right after the directory belongs to it. -/
def readFrom (arguments : Arguments) : List String → Except Ending Arguments
  | [] => arguments.finish
  | text :: rest =>
    match classify text with
    | .positional =>
      let arguments := arguments.addPositional text
      if rest.head? == some "--" then (rest.tail.foldl addPositional arguments).finish
      else readFrom arguments rest
    | .separator => (arguments.addSeparated rest).finish
    | .unknown => readFrom { arguments with excess := true } rest
    | .ambiguous => .error .misuse
    | .helpWith letters => .error (helpEnding rest letters)
    | .option .help none => .error .help
    | .option flag (some value) => do readFrom (← arguments.set flag value) rest
    | .option flag none =>
      match rest with
      | [] => .error .misuse
      | value :: rest =>
        if classify value == .positional then do readFrom (← arguments.set flag value) rest
        else .error .misuse

/-- Reads arguments. An ambiguous option before the separator is refused before anything else. -/
def read (texts : List String) : Except Ending Arguments :=
  if (texts.takeWhile (· != "--")).any fun text => classify text == .ambiguous then .error .misuse
  else readFrom {} texts

/-- A text that is given and not empty. -/
def given (text : Option String) : Option String :=
  text.bind Settings.filled

/-- The settings with those that the arguments replace. -/
def apply (arguments : Arguments) (settings : Settings) : Settings where
  dataDirectory := ((given arguments.dataDirectory).or (given arguments.directory)).getD settings.dataDirectory
  logLevel := (arguments.logLevel.map LogLevel.name).getD settings.logLevel
  logFile := match arguments.logFile with
    | some file => Settings.filled file
    | none => settings.logFile

end Arguments

/-! ## Runs -/

/-- What a run does. -/
inductive Task where
  /-- Says what is wrong with the settings. -/
  | complain (reason : String)
  | statement (directory sql : String)
  | shell (directory : String)
  deriving Repr, DecidableEq

/-- The task of some arguments. -/
def Arguments.task (arguments : Arguments) (settings : Settings) : Task :=
  let settings := arguments.apply settings
  match settings.level with
  | .error reason => .complain reason
  | .ok _ =>
    match given arguments.command with
    | some sql => .statement settings.dataDirectory sql
    | none => .shell settings.dataDirectory

/-- What a run leaves: its exit code and what it printed. -/
structure Output where
  code : Nat
  out : String
  err : String
  deriving Repr, DecidableEq

/-- The output of a complaint. -/
def complaint (reason : String) : Output :=
  ⟨1, "", "Error: " ++ reason ++ "\n"⟩

/-- Runs a single statement on a session. -/
def runStatement (session : Session) (now : Timestamp) (sql : String) : Except Failure Output × Session :=
  let (outcome, session) := Shell.statement session now sql
  (outcome.map fun (r, text) => ⟨if r.success then 0 else 1, text, ""⟩, session)

/-- Runs the shell on a session. -/
def runShell (session : Session) (now : Timestamp) (input : String) : Except Failure Output × Session :=
  let (text, session) := Shell.runInput session now input
  (text.map fun text => ⟨0, text, ""⟩, session)

/-- Directories under their paths. -/
abbrev Disk := List (String × Directory)

/-- Runs something on the tables of a directory. One that is not there is made. -/
def runIn (disk : Disk) (now : Timestamp) (path : String)
    (run : Session → Except Failure Output × Session) : Except Failure Output × Disk :=
  let d := (disk.lookup path).getD (.empty path)
  match Database.ofDirectory d now with
  | .error failure => (.error failure, setEntry path d disk)
  | .ok db =>
    let (outcome, session) := run (.ofDatabase db)
    (outcome, setEntry path (session.database.directory.getD d) disk)

/-- Carries out a task on the directories of a disk. -/
def Task.perform (disk : Disk) (now : Timestamp) (input : String) : Task → Except Failure Output × Disk
  | .complain reason => (.ok (complaint reason), disk)
  | .statement path sql => runIn disk now path fun session => runStatement session now sql
  | .shell path => runIn disk now path fun session => runShell session now input

end Relational.CommandLine
