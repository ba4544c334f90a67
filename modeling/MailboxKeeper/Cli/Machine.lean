import MailboxKeeper.Cli.Run
import MailboxKeeper.Disk

/-!
# A host as a value

A machine has a disk, a keyring, random bytes, an input and a network, and answers the questions
of the program from them. What a question changes is in the machine after it.
-/

namespace MailboxKeeper.Cli

/-- A host. -/
structure Machine where
  disk : Disk
  workingDirectory : String
  keyring : Keyring
  /-- Why the keyring is out of reach, if it is. -/
  keyringFailure : Option Keyring.Error
  source : Credential.ByteSource
  input : List UInt8
  /-- The reply to a request, by the number of requests before it. -/
  network : Nat → Http.Request → Http.Reply
  /-- The requests that were sent, in their order. -/
  requests : List Http.Request
  /-- The open database. -/
  database : Disk.Opening

namespace Machine

/-- What can be read at a path. A database is no text. -/
def read (machine : Machine) (path : String) : FileContent :=
  match machine.disk.find? machine.workingDirectory path with
  | none => .missing
  | some (.file content) => .bytes content
  | some .directory | some (.database _) => .unreadable

/-- The first line of the input, with its end, and the machine that has read it. -/
def readLine (machine : Machine) : List UInt8 × Machine :=
  let isRest := fun b : UInt8 => b != 10
  let line := machine.input.takeWhile isRest ++ (machine.input.dropWhile isRest).take 1
  (line, { machine with input := machine.input.drop line.length })

/-- Makes the directory that a path lies in. -/
def makeParent (machine : Machine) (path : String) : Bool × Machine :=
  match machine.disk.makeParent machine.workingDirectory path with
  | some disk => (true, { machine with disk })
  | none => (false, machine)

/-- Opens a database. -/
def openDatabase (machine : Machine) (location : String) :
    Except Database.Error Unit × Machine :=
  match machine.disk.openNamed machine.workingDirectory location with
  | (.ok database, disk) => (.ok (), { machine with disk, database })
  | (.error e, disk) => (.error e, { machine with disk })

/-- The table of the open database. -/
def table (machine : Machine) : Store.Table :=
  match machine.database.path.bind machine.disk.node? with
  | some (.database table) => table
  | _ => machine.database.table

/-- The machine with another table in the open database. -/
def withTable (machine : Machine) (table : Store.Table) : Machine :=
  match machine.database.path with
  | some path => { machine with disk := machine.disk.put path (.database table) }
  | none => { machine with database := { machine.database with table } }

/-- The answer to a statement, and the machine after it. -/
def execute (machine : Machine) (statement : Store.Statement) : statement.Answer × Machine :=
  if machine.database.mayWrite then
    let (answer, table) := machine.table.execute statement
    (answer, machine.withTable table)
  else (machine.table.executeReadOnly statement, machine)

/-- The answer of the keyring, and the machine after it. -/
def access (machine : Machine) :
    (a : Credential.Keychain.Access) → a.Answer × Machine
  | .randomBytes count =>
    (machine.source.peek count, { machine with source := machine.source.skip count })
  | .openEntry _ =>
    match machine.keyringFailure with
    | some e => (.error e, machine)
    | none => (.ok (), machine)
  | .read key =>
    match machine.keyringFailure with
    | some e => (.error e, machine)
    | none => (machine.keyring.read key, machine)
  | .write key secret =>
    match machine.keyringFailure with
    | some e => (.error e, machine)
    | none => (.ok (), { machine with keyring := machine.keyring.write key secret })
  | .erase key =>
    match machine.keyringFailure with
    | some e => (.error e, machine)
    | none =>
      match machine.keyring.erase key with
      | .ok keyring => (.ok (), { machine with keyring })
      | .error e => (.error e, machine)

/-- The answer to a question, and the machine after it. -/
def step (machine : Machine) : (q : Query) → q.Answer × Machine
  | .readFile path => (machine.read path, machine)
  | .readLine =>
    let (line, machine) := machine.readLine
    (some line, machine)
  | .makeParent path => machine.makeParent path
  | .openDatabase location => machine.openDatabase location
  | .table statement => machine.execute statement
  | .send request =>
    (machine.network machine.requests.length request,
      { machine with requests := machine.requests ++ [request] })
  | .secret a => machine.access a

/-- The answer to a question, as an action on the machine. -/
def host (q : Query) : StateM Machine q.Answer := fun machine => machine.step q

/-- Runs a command line on a machine. -/
def run (machine : Machine) (env : Environment) (arguments : List String) : Outcome × Machine :=
  StateT.run (Cli.run host env arguments) machine

end Machine

end MailboxKeeper.Cli
