import Relational.Report
import Relational.Session

/-!
# The shell

The shell reads lines. A line that starts with a dot, where a statement could start, is a command of the shell;
any other lines are collected, without the blanks around them and with one blank between them, up to one that
ends with a semicolon, and run as a statement.
-/

namespace Relational

open Text

namespace Shell

/-! ## Texts -/

/-- Lines of output. -/
def printed (lines : List String) : String :=
  String.join (lines.map (· ++ "\n"))

/-- The double line of the banner. -/
def doubleLine : String :=
  String.ofList (List.replicate 60 '=')

/-- What the shell says at its start. -/
def banner : String :=
  printed [doubleLine, "  SimpleRDBMS - Interactive SQL Shell", doubleLine,
    "Type SQL commands or special commands:",
    "  Multi-line input supported - end with semicolon (;)",
    "  .help     - Show help",
    "  .tables   - List all tables",
    "  .schema TABLE - Show table schema",
    "  .exit or .quit - Exit REPL",
    doubleLine, ""]

/-- The help. -/
def help : String :=
  printed ["", "--- Help ---",
    "SQL Commands:",
    "  CREATE TABLE [IF NOT EXISTS] name (col TYPE constraints, ...)",
    "  DROP TABLE [IF EXISTS] name",
    "  CREATE [UNIQUE] INDEX name ON table (columns)",
    "  INSERT INTO table [(cols...)] VALUES (vals...), ...",
    "  SELECT cols FROM table [WHERE condition] [ORDER BY col [DESC]] [LIMIT n]",
    "  UPDATE table SET col = expr, ... [WHERE condition]",
    "  DELETE FROM table [WHERE condition]",
    "  BEGIN / COMMIT",
    "",
    "Special Commands:",
    "  .help     - Show this help",
    "  .tables   - List all tables",
    "  .schema TABLE - Show schema for TABLE",
    "  .stats    - Show database statistics",
    "  .exit / .quit - Exit REPL",
    ""]

/-! ## Commands -/

/-- The tables with their numbers of rows. -/
def tableList (db : Database) : String :=
  match db.tableNames with
  | [] => printed ["", "No tables.", ""]
  | names =>
    printed (["", "Tables:"] ++ names.map (fun name =>
      "  - " ++ name ++ " (" ++ Decimal.natText (db.rows name).length ++ " rows)") ++ [""])

/-- The definition of a table. -/
def tableReport (db : Database) (name : String) : String :=
  match db.table? name with
  | none => printed ["Error: Table '" ++ name ++ "' does not exist", ""]
  | some t => printed ["", Report.schema t.schema, ""]

/-- The numbers of rows. -/
def statistics (db : Database) : Except Failure String := do
  let counts ← db.rowCounts
  pure (printed (["", "Database Statistics:"]
    ++ counts.map (fun (name, count) => "  " ++ name ++ ": " ++ Decimal.natText count ++ " rows")
    ++ [""]))

/-- Whether the shell reads on. -/
inductive Next where
  | goOn
  | stop
  deriving Repr, DecidableEq

/-- The words of a command, without the semicolons at its end. -/
def commandWords (text : String) : List String :=
  words (String.ofList (dropRightWhile (· == ';') (stripChars text.toList)))

/-- Carries out a command and answers what it prints. -/
def command (db : Database) (text : String) : Except Failure (String × Next) :=
  match commandWords text with
  | [] => fail .position
  | word :: arguments =>
    let name := lower word
    if name == ".exit" || name == ".quit" then .ok (printed ["Goodbye!"], .stop)
    else if name == ".help" then .ok (help, .goOn)
    else if name == ".tables" then .ok (tableList db, .goOn)
    else if name == ".schema" then
      match arguments with
      | [] => .ok (printed ["Usage: .schema TABLE_NAME"], .goOn)
      | table :: _ => .ok (tableReport db table, .goOn)
    else if name == ".stats" then (statistics db).map fun text => (text, .goOn)
    else .ok (printed ["Unknown command: " ++ name, "Type .help for available commands", ""], .goOn)

/-! ## Statements -/

/-- The first word of a statement in capitals. -/
def operation (sql : String) : String :=
  upper ((words sql).headD "")

/-- Runs a statement and answers its result and what is printed of it. -/
def statement (session : Session) (now : Timestamp) (sql : String) : Except Failure (Result × String) × Session :=
  let (outcome, session) := session.run now sql
  let shown := do
    let r ← outcome
    pure (r, printed [← Report.result r (operation sql)])
  (shown, session)

end Shell

/-! ## Reading lines -/

/-- A shell: its session, and the lines of a statement that is not complete. -/
structure Shell where
  session : Session
  pending : List String
  deriving Repr, DecidableEq

namespace Shell

/-- A shell at its start. -/
def ofSession (session : Session) : Shell :=
  ⟨session, []⟩

/-- What stands before the next line. At a terminal the lines of a statement are marked. -/
def prompt (shell : Shell) (terminal : Bool) : String :=
  if shell.pending.isEmpty then "sql> " else if terminal then "    -> " else ""

/-- The text starts with a dot. -/
def isCommand (text : String) : Bool :=
  text.toList.head? == some '.'

/-- The text ends with a semicolon. -/
def isComplete (text : String) : Bool :=
  text.toList.getLast? == some ';'

/-- The lines so far make a command or a whole statement. -/
def isReady (pending : List String) (line : String) : Bool :=
  pending.isEmpty && isCommand line || isComplete line

/-- Carries out a command or a statement and answers what is printed. -/
def perform (session : Session) (now : Timestamp) (text : String) : Except Failure (String × Next) × Session :=
  if isCommand text then (command session.database text, session)
  else
    let (outcome, session) := statement session now text
    (outcome.map fun (_, text) => (text ++ "\n", .goOn), session)

/-- Reads a line and answers what is printed. -/
def read (shell : Shell) (now : Timestamp) (line : String) : Except Failure (String × Next) × Shell :=
  let line := strip line
  if line.isEmpty then (.ok ("", .goOn), shell)
  else
    let collected := shell.pending ++ [line]
    if isReady shell.pending line then
      let (outcome, session) := perform shell.session now (" ".intercalate collected)
      (outcome, ⟨session, []⟩)
    else (.ok ("", .goOn), ⟨shell.session, collected⟩)

/-- What is printed where the lines end. -/
def farewell : String :=
  printed ["", "Goodbye!"]

/-- Reads lines up to a command that stops the shell, and answers all that is printed. -/
def transcript (now : Timestamp) (shell : Shell) : List String → Except Failure String × Shell
  | [] => (.ok (shell.prompt false ++ farewell), shell)
  | line :: lines =>
    match shell.read now line with
    | (.error failure, shell) => (.error failure, shell)
    | (.ok (text, .stop), after) => (.ok (shell.prompt false ++ text), after)
    | (.ok (text, .goOn), after) =>
      let (rest, last) := transcript now after lines
      (rest.map fun more => shell.prompt false ++ text ++ more, last)

/-- The lines of an input. What follows the last line end is a line unless it is empty. -/
def inputLines (input : String) : List String :=
  let pieces := splitAt '\n' input.toList
  let whole := if pieces.getLast? == some [] then pieces.dropLast else pieces
  whole.map String.ofList

/-- Runs a shell on an input. -/
def runInput (session : Session) (now : Timestamp) (input : String) : Except Failure String × Session :=
  let (text, shell) := transcript now (ofSession session) (inputLines input)
  (text.map fun text => banner ++ text, shell.session)

end Shell

end Relational
