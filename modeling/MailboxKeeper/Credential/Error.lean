import MailboxKeeper.Fault
import MailboxKeeper.Text.Base64

/-!
# Failures of credential handling

A keyring can be out of reach or refuse an entry, a master key can be malformed, and encryption
can fail.
-/

namespace MailboxKeeper

/-- Why a keyring did not do what it was asked for. -/
inductive Keyring.Error where
  | platformFailure (cause : String)
  | noAccess (cause : String)
  | noEntry
  | attributeTooLong (name : String) (limit : Nat)
  | invalidAttribute (name reason : String)
  | notText
  deriving DecidableEq, Repr

def Keyring.Error.message : Keyring.Error → String
  | platformFailure cause => s!"Platform secure storage failure: {cause}"
  | noAccess cause => s!"Couldn't access platform secure storage: {cause}"
  | noEntry => "No matching entry found in secure storage"
  | attributeTooLong name limit =>
    s!"Attribute '{name}' is longer than platform limit of {limit} chars"
  | invalidAttribute name reason => s!"Attribute {name} is invalid: {reason}"
  | notText => "Data is not UTF-8 encoded"

namespace Credential

/-- What makes a text no master key. -/
inductive KeyError where
  | notBase64 (error : Text.Base64.Error)
  | wrongLength (length : Nat)
  | other (reason : String)
  deriving DecidableEq, Repr

def KeyError.message : KeyError → String
  | notBase64 error => s!"invalid base64 key: {error.message}"
  | wrongLength length => s!"key must be 32 bytes, got {length}"
  | other reason => reason

/-- Why a credential could not be handled. -/
inductive Error where
  | keyring (error : Keyring.Error)
  | invalidKey (error : KeyError)
  | encryption (reason : String)
  | missingScope
  deriving DecidableEq, Repr

namespace Error

def message : Error → String
  | keyring error => s!"Keyring error: {error.message}"
  | invalidKey error => s!"Invalid master key: {error.message}"
  | encryption reason => s!"Encryption failed: {reason}"
  | missingScope => "Credential scope must not be empty"

/-- The fault that a requester is told of. -/
def toFault (e : Error) : Fault := Fault.new .encryption e.message

end Error

end Credential

end MailboxKeeper
