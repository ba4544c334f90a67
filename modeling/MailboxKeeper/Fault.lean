import MailboxKeeper.AccountRequest
import MailboxKeeper.Json.Basic
import MailboxKeeper.Redaction

/-!
# Faults

What a requester is told when an operation fails: a kind, a status in the manner of HTTP, a
message that names no server, perhaps details, and the chain of faults that led to it, the nearest
first.
-/

namespace MailboxKeeper

namespace Fault

/-- What went wrong. -/
inductive Kind where
  /-- The request was malformed. -/
  | validation
  /-- The provisioning service failed. -/
  | remote
  /-- The user's remote mailbox has another address. -/
  | conflict
  /-- Local and remote state disagree beyond repair. -/
  | inconsistency
  /-- The account table failed. -/
  | storage
  /-- A password could not be encrypted. -/
  | encryption
  /-- There is no such account or provider. -/
  | notFound
  deriving DecidableEq, Repr

namespace Kind

/-- The name under which a kind is shown. -/
def name : Kind → String
  | validation => "validation"
  | remote => "remote"
  | conflict => "conflict"
  | inconsistency => "inconsistency"
  | storage => "storage"
  | encryption => "encryption"
  | notFound => "not_found"

/-- The status of a fault of this kind, unless the remote service set another. -/
def defaultStatus : Kind → Nat
  | validation | remote => 400
  | notFound => 404
  | conflict => 409
  | inconsistency | storage | encryption => 500

end Kind

/-- One failure, without what led to it. -/
structure Incident where
  kind : Kind
  status : Nat
  message : String
  data : Option Json

end Fault

/-- A failure and the chain of failures that led to it. -/
structure Fault extends Fault.Incident where
  causes : List Fault.Incident

namespace Fault

/-- The fault of a kind, with the servers that its message names redacted. -/
def new (kind : Kind) (message : String) : Fault :=
  ⟨⟨kind, kind.defaultStatus, Redaction.redact message, none⟩, []⟩

/-- The same fault with details. -/
def withData (f : Fault) (data : Json) : Fault := { f with data := some data }

/-- The same fault, raised because of another. -/
def withCause (f cause : Fault) : Fault :=
  { f with causes := cause.toIncident :: cause.causes }

/-- The rules that a request breaks, as details of a fault. -/
def violationData (violations : List AccountRequest.Violation) : Json :=
  .object [("errors", .array (violations.map fun v =>
    .object [("field", .string v.field), ("message", .string v.message)]))]

/-- The fault of a request that breaks rules. -/
def ofViolations (violations : List AccountRequest.Violation) : Fault :=
  (new .validation (String.intercalate "; " (violations.map fun v => v.message))).withData
    (violationData violations)

/-- The fault of a user whose remote mailbox has another address than the expected one. -/
def emailMismatch (expected existing : String) : Fault :=
  (new .conflict
    s!"A mailbox already exists for this user under {existing}, not {expected}").withData
    (.object [("expected_email", .string expected), ("existing_email", .string existing)])

/-- The fault of a local account without a remote mailbox. -/
def missingMailbox (email : String) : Fault :=
  new .inconsistency s!"Local account {email} has no remote mailbox"

/-- The fault of an account that is not there. -/
def accountNotFound (account : String) : Fault := new .notFound s!"Account not found: {account}"

/-- The fault of a request about an account outside the provisioning domain. -/
def notManaged (email : String) : Fault := new .validation s!"{email} is not a managed mailbox"

/-- Is the fault the requester's to mend? -/
def isClientError (f : Fault) : Bool := 400 ≤ f.status && f.status < 500

/-- All failures of a chain, the fault itself in front. -/
def chain (f : Fault) : List Incident := f.toIncident :: f.causes

/-- What a failure shows of itself. -/
def Incident.members (i : Incident) : List (String × Json) :=
  [("kind", .string i.kind.name), ("status", .nat i.status), ("message", .string i.message)]
    ++ (i.data.map fun d => ("data", d)).toList

/-- A failure with the chain that led to it, each member within the one it led to. -/
def chainToJson (i : Incident) : List Incident → Json
  | [] => .object i.members
  | cause :: causes => .object (i.members ++ [("cause", chainToJson cause causes)])

def toJson (f : Fault) : Json := chainToJson f.toIncident f.causes

@[simp] theorem chain_withCause (f cause : Fault) :
    (f.withCause cause).chain = f.toIncident :: cause.chain := rfl

end Fault

end MailboxKeeper
