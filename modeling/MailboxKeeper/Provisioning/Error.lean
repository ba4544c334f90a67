import MailboxKeeper.Provisioning.Failure
import MailboxKeeper.Url.Parser

/-!
# Errors of the client of the provisioning service

A configuration can be refused, a request can fail on its way, and the service can refuse it.
-/

namespace MailboxKeeper.Provisioning

/-- Why a request and its answer did not get through. -/
inductive TransportError where
  /-- The URL is not one that requests can be sent to. -/
  | unsendable (url : String)
  | notSent (url : String)
  | undecodable
  deriving DecidableEq, Repr

def TransportError.message : TransportError → String
  | unsendable url => s!"builder error for url ({url})"
  | notSent url => s!"error sending request for url ({url})"
  | undecodable => "error decoding response body"

/-- Why the client did not get what it asked for. -/
inductive Error where
  | transport (error : TransportError)
  | refused (status : Nat) (message : String)
  | invalidConfig (reason : String)
  | invalidUrl (error : Url.ParseError)
  deriving DecidableEq, Repr

namespace Error

def message : Error → String
  | transport error => s!"HTTP error: {error.message}"
  | refused status message => s!"Provisioning API error {status}: {message}"
  | invalidConfig reason => s!"Invalid configuration: {reason}"
  | invalidUrl error => s!"URL error: {error.message}"

/-- The status that the service answered with, if it answered. -/
def status? : Error → Option Nat
  | refused status _ => some status
  | _ => none

/-- Did the service report that the mailbox exists already? -/
def isConflict (e : Error) : Bool := e.status? == some 409

/-- Did the service report a failure of its own? -/
def isServerError (e : Error) : Bool := (e.status?.map fun s => 500 ≤ s && s < 600).getD false

/-- What is reported of the call that failed: the service's own words if it refused. -/
def toFailure : Error → Failure
  | refused status message => ⟨some status, message⟩
  | e => ⟨e.status?, e.message⟩

end Error

end MailboxKeeper.Provisioning
