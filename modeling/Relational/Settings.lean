import Relational.Text.Case

/-!
# Settings

Where tables are kept, and how much is logged and where. Settings come from the environment and can be replaced
on the command line.
-/

namespace Relational

/-- The settings of a run. Without a log file nothing is logged to a file. -/
structure Settings where
  dataDirectory : String
  logLevel : String
  logFile : Option String
  deriving Repr, DecidableEq

/-- How much is logged. -/
inductive LogLevel where
  | debug
  | info
  | warning
  | error
  | critical
  deriving Repr, DecidableEq

namespace LogLevel

/-- Every level. -/
def all : List LogLevel :=
  [.debug, .info, .warning, .error, .critical]

/-- The name of a level. -/
def name : LogLevel → String
  | .debug => "DEBUG"
  | .info => "INFO"
  | .warning => "WARNING"
  | .error => "ERROR"
  | .critical => "CRITICAL"

/-- How severe a record is at a level. -/
def severity : LogLevel → Nat
  | .debug => 10
  | .info => 20
  | .warning => 30
  | .error => 40
  | .critical => 50

/-- The level of a name, in any case. -/
def ofName? (name : String) : Option LogLevel :=
  all.find? fun level => level.name == Text.upper name

end LogLevel

namespace Settings

/-- A text, unless it is empty. -/
def filled (text : String) : Option String :=
  if text.isEmpty then none else some text

/-- The settings of an environment. An empty log file is none. -/
def ofEnvironment (valueOf : String → Option String) : Settings where
  dataDirectory := (valueOf "SIMPLERDBMS_DATA_DIR").getD "./data"
  logLevel := Text.upper ((valueOf "SIMPLERDBMS_LOG_LEVEL").getD "INFO")
  logFile := filled ((valueOf "SIMPLERDBMS_LOG_FILE").getD "./simplerdbms.log")

/-- The log level, or what is wrong with it. -/
def level (settings : Settings) : Except String LogLevel :=
  match LogLevel.ofName? settings.logLevel with
  | some level => .ok level
  | none => .error ("Unknown log level: " ++ settings.logLevel)

end Settings

end Relational
