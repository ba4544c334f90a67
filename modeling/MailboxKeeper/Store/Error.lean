import MailboxKeeper.Credential.Error

/-!
# Failures of the account table

The database reports a code and a text for what it refuses; the pool of connections to it has
failures of its own. On top of these an update can name an account that is not there.
-/

namespace MailboxKeeper

/-- Why the database did not do what it was asked for. -/
inductive Database.Error where
  /-- The user has another account with that address. -/
  | duplicateAddress
  /-- There is another row with that id. -/
  | duplicateId
  /-- No id is left. -/
  | idsExhausted
  /-- The file cannot be opened as a database. -/
  | cannotOpen
  /-- The file cannot be read. -/
  | cannotRead
  /-- The file holds something else than a database. -/
  | notADatabase
  /-- The database must not be written to. -/
  | readOnly
  /-- The location of the database makes no sense. -/
  | configuration (reason : String)
  /-- The database does not take its location. -/
  | refusedLocation (reason : String)
  /-- The location asks for more than it has allowed before. -/
  | notAllowed (reason : String)
  /-- The location cannot be handed to the database. -/
  | communication (reason : String)
  | rowNotFound
  | poolTimedOut
  | poolClosed
  | protocol (reason : String)
  deriving DecidableEq, Repr

/-- The text for what a statement was refused for. -/
def Database.refusal (code : Nat) (reason : String) : String :=
  s!"error returned from database: (code: {code}) {reason}"

def Database.Error.message : Database.Error → String
  | duplicateAddress => refusal 2067 "UNIQUE constraint failed: accounts.user_id, accounts.email"
  | duplicateId => refusal 1555 "UNIQUE constraint failed: accounts.id"
  | idsExhausted => refusal 13 "database or disk is full"
  | cannotOpen => refusal 14 "unable to open database file"
  | cannotRead => refusal 266 "disk I/O error"
  | notADatabase => refusal 26 "file is not a database"
  | readOnly => refusal 8 "attempt to write a readonly database"
  | configuration reason => s!"error with configuration: {reason}"
  | refusedLocation reason => refusal 1 reason
  | notAllowed reason => refusal 3 reason
  | communication reason => s!"error communicating with database: {reason}"
  | rowNotFound => "no rows returned by a query that expected to return at least one row"
  | poolTimedOut => "pool timed out while waiting for an open connection"
  | poolClosed => "attempted to acquire a connection on a closed pool"
  | protocol reason => s!"encountered unexpected or invalid data: {reason}"

namespace Store

/-- Why the account table did not do what it was asked for. -/
inductive Error where
  | database (error : Database.Error)
  | accountNotFound (account : String)
  | credential (error : Credential.Error)
  deriving DecidableEq, Repr

namespace Error

def message : Error → String
  | database error => s!"Database error: {error.message}"
  | accountNotFound account => s!"Account not found: {account}"
  | credential error => s!"Credential error: {error.message}"

/-- The fault that a requester is told of. -/
def toFault : Error → Fault
  | credential error => error.toFault
  | accountNotFound account => Fault.accountNotFound account
  | e => Fault.new .storage e.message

end Error

end Store

end MailboxKeeper
