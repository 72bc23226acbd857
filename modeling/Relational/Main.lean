import Relational.CommandLine
import Std.Time.Format

/-!
# The program

Reads the settings and the command line, opens the directory of tables, and runs one statement or the shell.
What the program does is decided elsewhere; here files are read and written, and lines come in and go out.
-/

namespace Relational.Program

open CommandLine

/-- The present moment. -/
def now : IO Timestamp := do
  let moment ← Std.Time.PlainDateTime.now
  let date : Date := ⟨moment.date.year.toInt.toNat, moment.date.month.toNat, moment.date.day.toNat⟩
  pure ⟨date, ⟨moment.time.hour.toNat, moment.time.minute.toNat, moment.time.second.toNat⟩⟩

/-! ## Directories -/

/-- A directory and what is in it. A path that is not there is made. -/
def openDirectory (path : String) : IO Directory := do
  IO.FS.createDirAll path
  let entries ← ((← IO.currentDir) / path).readDir
  let entries ← entries.toList.mapM fun entry => do
    if ← entry.path.isDir then pure (entry.fileName, DirectoryEntry.folder)
    else pure (entry.fileName, DirectoryEntry.file (← IO.FS.readFile entry.path))
  pure ⟨path, entries, []⟩

/-- Writes a file as a whole, beside the old one and then in its place. -/
def writeFile (path text : String) : IO Unit := do
  let draft := path ++ ".tmp"
  IO.FS.writeFile draft text
  IO.FS.rename draft path

/-- Makes the changes between two states of a directory. -/
def syncDirectory (old new : Directory) : IO Unit := do
  for (name, entry) in new.entries do
    match entry with
    | .file text => if old.read? name != some text then writeFile (new.pathOf name) text
    | .folder => pure ()
  for (name, _) in old.entries do
    if !new.exists? name then IO.FS.removeFile (old.pathOf name)

/-- Makes the changes of the directory between two sessions. -/
def syncSession (old new : Session) : IO Unit :=
  match old.database.directory, new.database.directory with
  | some d, some e => syncDirectory d e
  | _, _ => pure ()

/-- A session on the tables of a directory. -/
def openSession (path : String) : IO Session := do
  match Database.ofDirectory (← openDirectory path) (← now) with
  | .ok db => pure (.ofDatabase db)
  | .error failure => throw (IO.userError failure.message)

/-! ## Running -/

/-- Runs one statement. -/
def runOne (path sql : String) : IO UInt32 := do
  let session ← openSession path
  let (output, after) := runStatement session (← now) sql
  syncSession session after
  match output with
  | .ok output =>
    IO.print output.out
    pure (UInt32.ofNat output.code)
  | .error failure => throw (IO.userError failure.message)

/-- Runs the shell on the lines of an input up to its end. -/
partial def runLines (input : IO.FS.Stream) (shell : Shell) : IO Unit := do
  IO.print (shell.prompt (← input.isTty))
  (← IO.getStdout).flush
  let line ← input.getLine
  if line.isEmpty then IO.print Shell.farewell
  else
    let (output, after) := shell.read (← now) line
    syncSession shell.session after.session
    match output with
    | .ok (text, next) =>
      IO.print text
      if next == .goOn then runLines input after
    | .error failure => throw (IO.userError failure.message)

/-- Runs the shell. -/
def runAll (path : String) : IO UInt32 := do
  let session ← openSession path
  IO.print Shell.banner
  runLines (← IO.getStdin) (.ofSession session)
  pure 0

/-- How the program is called. -/
def usage : String :=
  "usage: relational [-h] [--data-dir DIR] [--log-level LEVEL] [--log-file FILE] [-c STATEMENT] [DIR]\n"

/-- The settings of the environment. -/
def settings : IO Settings := do
  let names := ["SIMPLERDBMS_DATA_DIR", "SIMPLERDBMS_LOG_LEVEL", "SIMPLERDBMS_LOG_FILE"]
  let values ← names.mapM fun name => do pure (name, ← IO.getEnv name)
  pure (.ofEnvironment fun name => (values.lookup name).join)

end Relational.Program

open Relational CommandLine in
/-- Runs the program with its arguments. -/
def main (texts : List String) : IO UInt32 := do
  match Arguments.read texts with
  | .error .help =>
    IO.print Program.usage
    pure 0
  | .error .misuse =>
    IO.eprint Program.usage
    pure 2
  | .ok arguments =>
    match arguments.task (← Program.settings) with
    | .complain reason =>
      let output := complaint reason
      IO.eprint output.err
      pure (UInt32.ofNat output.code)
    | .statement path sql => Program.runOne path sql
    | .shell path => Program.runAll path
