import MailboxKeeper.Dialogue
import MailboxKeeper.Provisioning.Service
import MailboxKeeper.Store.Statement

/-!
# Collaborators of the engine

The engine works by calls to three collaborators: the account table, the provisioning service and
the encryption of passwords. Each call is answered by a result or by that collaborator's failure.
-/

namespace MailboxKeeper.Engine

/-- A call to a collaborator. -/
inductive Call where
  | table (statement : Store.Statement)
  | service (call : Provisioning.Call)
  | encrypt (plaintext : String)
  deriving DecidableEq, Repr

/-- What a call is answered by. -/
def Call.Answer : Call → Type
  | table statement => statement.Answer
  | service call => call.Answer
  | encrypt _ => Except Credential.Error String

/-- An operation of the engine: calls to collaborators that end with a value or a fault. -/
abbrev Operation (α : Type) := Dialogue Call Call.Answer Fault α

namespace Operation

variable {α ε : Type}

/-- An answer, with a failure put as a fault. -/
def orFault (toFault : ε → Fault) : Except ε α → Operation α
  | .ok a => .done a
  | .error e => .fail (toFault e)

/-- A statement about the account table. -/
def table (s : Store.Statement) : Operation s.Result :=
  .ask (.table s) (orFault Store.Error.toFault)

/-- A call to the provisioning service. -/
def service (c : Provisioning.Call) : Operation c.Result :=
  .ask (.service c) (orFault Provisioning.Failure.toFault)

/-- A call to the service whose failure is no fault. -/
def tryService (c : Provisioning.Call) : Operation c.Answer := .ask (.service c) .done

/-- The encrypted form of a text. -/
def encrypt (plaintext : String) : Operation String :=
  .ask (.encrypt plaintext) (orFault Credential.Error.toFault)

/-- The user's account with an id; it is a fault if there is none. -/
def requireAccount (userId : String) (id : AccountId) : Operation Account := do
  match ← table (.findById userId id) with
  | some account => return account
  | none => .fail (Fault.accountNotFound id.text)

/-- Writes an account to its row, or to a new one if it has none. -/
def write (account : Account) : Operation Account :=
  if account.isSaved then table (.update account) else table (.save account)

/-- The endpoint of a server, with its password encrypted. -/
def encryptEndpoint (server : MailServer) : Operation Endpoint := do
  let password ← encrypt (server.password.getD "")
  return ⟨server.host, server.port, server.security, server.username, password⟩

end Operation

end MailboxKeeper.Engine
