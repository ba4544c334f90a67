import MailboxKeeper.Credential.Keychain
import MailboxKeeper.Engine.Call

/-!
# What the program asks of its host

Files, the database, the network, the keyring and random bytes are not the program's own: it asks
the host for each, and goes on with the answer.
-/

namespace MailboxKeeper.Cli

/-- What can be read at a path. -/
inductive FileContent where
  | missing
  | unreadable
  | bytes (content : List UInt8)
  deriving DecidableEq, Repr

/-- A question to the host. -/
inductive Query where
  | readFile (path : String)
  /-- The first line of the standard input. -/
  | readLine
  /-- Make the directory that a path lies in, if it is missing. -/
  | makeParent (path : String)
  | openDatabase (location : String)
  | table (statement : Store.Statement)
  | send (request : Http.Request)
  | secret (access : Credential.Keychain.Access)
  deriving DecidableEq, Repr

/-- What a question is answered by. -/
def Query.Answer : Query → Type
  | readFile _ => FileContent
  | readLine => Option (List UInt8)
  | makeParent _ => Bool
  | openDatabase _ => Except Database.Error Unit
  | table statement => statement.Answer
  | send _ => Http.Reply
  | secret access => access.Answer

/-- Why a command was not carried out. -/
inductive Failure where
  /-- The program could not be set up. -/
  | setup (reason : String)
  /-- The engine ended with a fault. -/
  | fault (fault : Fault)

/-- A part of the program. -/
abbrev Program (α : Type) := Dialogue Query Query.Answer Failure α

end MailboxKeeper.Cli
