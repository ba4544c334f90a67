import MailboxKeeper.Cli.Run
import MailboxKeeper.Disk
import MailboxKeeper.Json.Printer
import MailboxKeeper.Store.Snapshot

/-!
# The program

Runs a command line on the system it is started on. Settings and databases are files there, a
database as a snapshot of its table; random bytes come from the system. The system offers neither
a keyring nor a network, so a keyring is out of reach and no request is answered.
-/

namespace MailboxKeeper.Cli.LocalHost

/-- The value of a variable that names a directory. -/
def directory? (name : String) : IO (Option String) := do
  return (← IO.getEnv name).filter fun path => path.startsWith "/"

/-- The directory that a variable names, or a place below the home of the user. -/
def directory (name belowHome : String) : IO String := do
  match ← directory? name with
  | some path => return path
  | none =>
    match ← directory? "HOME" with
    | some home => return Settings.below home belowHome
    | none => return "."

/-- What the program finds around it. -/
def environment : IO Environment := do
  let found ← Settings.variableNames.filterMapM fun name => do
    return (← IO.getEnv name).map fun value => (name, value)
  let configDirectory ← directory "XDG_CONFIG_HOME" ".config"
  let dataDirectory ← directory "XDG_DATA_HOME" ".local/share"
  return { lookup := fun name => List.lookup name found, configDirectory, dataDirectory }

/-- What can be read at a path. -/
def readFile (path : String) : IO FileContent := do
  try
    return .bytes (← IO.FS.readBinFile path).toList
  catch
    | .noFileOrDirectory .. => return .missing
    | _ => return .unreadable

/-- Writes a table to the file where it is kept. -/
def keep (path : String) (table : Store.Table) : IO Unit :=
  IO.FS.writeBinFile path ⟨table.snapshot.toArray⟩

/-- Does an action succeed? -/
def succeeds (action : IO Unit) : IO Bool := do
  try
    action
    return true
  catch _ => return false

/-- Makes the directory that a path lies in. -/
def makeParent (path : String) : IO Bool := do
  let names := Disk.way path
  if names.isEmpty then return true
  let root := if path.startsWith "/" then "/" else ""
  succeeds (IO.FS.createDirAll (root ++ "/".intercalate names))

/-- Opens the database at a path, and makes one if nothing is there and one may be made. -/
def openFile (path : String) (access : Database.Access) :
    IO (Except Database.Error Disk.Opening) := do
  let make : IO (Except Database.Error Disk.Opening) := do
    if !access.mayWrite then return .error .readOnly
    else if ← succeeds (keep path .empty) then return .ok ⟨some path, true, .empty⟩
    else return .error .cannotOpen
  match ← readFile path with
  | .missing => if access.mayCreate then make else return .error .cannotOpen
  | .unreadable => return .error (if access.readOnly then .cannotRead else .cannotOpen)
  | .bytes content =>
    if content.isEmpty then make
    else
      match Store.Table.ofSnapshot? content with
      | some table => return .ok ⟨some path, access.mayWrite, table⟩
      | none => return .error .notADatabase

/-- Opens the database at a location. -/
def openDatabase (location : String) : IO (Except Database.Error Disk.Opening) := do
  match Database.Location.ofText location with
  | .ok .transient => return .ok ⟨none, true, .empty⟩
  | .ok (.file path access) => openFile (Disk.resolve (← IO.currentDir).toString path) access
  | .error e => return .error e

/-- Answers a statement about the table of the open database. -/
def execute (database : IO.Ref Disk.Opening) (statement : Store.Statement) :
    IO statement.Answer := do
  let opened ← database.get
  if !opened.mayWrite then return opened.table.executeReadOnly statement
  let (answer, table) := opened.table.execute statement
  database.set { opened with table }
  if !statement.isRead then opened.path.forM fun path => keep path table
  return answer

/-- Why no keyring can be used. -/
def keyringFailure : Keyring.Error := .platformFailure "no keyring on this system"

/-- Answers a question for secrets. -/
def access : (a : Credential.Keychain.Access) → IO a.Answer
  | .randomBytes count => do return (← IO.getRandomBytes count.toUSize).toList
  | .openEntry _ => return .error keyringFailure
  | .read _ => return .error keyringFailure
  | .write .. => return .error keyringFailure
  | .erase _ => return .error keyringFailure

/-- The first line of the standard input. -/
def readLine : IO (Option (List UInt8)) := do
  try
    return some (Text.bytes (← (← IO.getStdin).getLine))
  catch _ => return none

/-- Answers a question of the program. -/
def answer (database : IO.Ref Disk.Opening) : (q : Query) → IO q.Answer
  | .readFile path => readFile path
  | .readLine => readLine
  | .makeParent path => makeParent path
  | .openDatabase location => do
    match ← openDatabase location with
    | .ok opened =>
      database.set opened
      return .ok ()
    | .error e => return .error e
  | .table statement => execute database statement
  | .send _ => return .noConnection
  | .secret a => access a

end MailboxKeeper.Cli.LocalHost

/-- Runs the command line, prints the document that it ends with, and exits with its code. -/
def main (arguments : List String) : IO UInt32 := do
  let database ← IO.mkRef ⟨none, true, .empty⟩
  let environment ← MailboxKeeper.Cli.LocalHost.environment
  let outcome ←
    MailboxKeeper.Cli.run (MailboxKeeper.Cli.LocalHost.answer database) environment arguments
  outcome.output.forM fun document => IO.println document.renderPretty
  return outcome.exitCode.toUInt32
