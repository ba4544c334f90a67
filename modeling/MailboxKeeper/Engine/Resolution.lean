import MailboxKeeper.AccountRequest
import MailboxKeeper.Address
import MailboxKeeper.Engine.Call

/-!
# How a request relates to the remote mailbox

A user has at most one remote mailbox. A request for an address either finds it there, finds
another one in its place, or finds none.
-/

namespace MailboxKeeper.Engine

/-- What the provisioning service holds for the user of a request. -/
inductive Resolution where
  /-- The mailbox that was asked for: it can be taken over. -/
  | retry (mailbox : Mailbox)
  | noExistingAccount
  | emailMismatch (expected existing : String)
  deriving DecidableEq, Repr

namespace Resolution

/-- The resolution of a request for the address `expected`. -/
def ofMailbox (expected : String) : Option Mailbox → Resolution
  | none => noExistingAccount
  | some mailbox =>
    if Address.same mailbox.email expected then retry mailbox
    else emailMismatch expected mailbox.email

/-- Can the remote mailbox be taken over? -/
def canRetry : Resolution → Bool
  | retry _ => true
  | _ => false

/-- Is there a remote mailbox under another address? -/
def hasEmailMismatch : Resolution → Bool
  | emailMismatch .. => true
  | _ => false

/-- The mailbox to take over. -/
def mailbox? : Resolution → Option Mailbox
  | retry mailbox => some mailbox
  | _ => none

def toJson : Resolution → Json
  | retry mailbox => .object [("resolution", .string "retry"), ("config", mailbox.toJson)]
  | noExistingAccount => .object [("resolution", .string "no_existing_account")]
  | emailMismatch expected existing =>
    .object [("resolution", .string "email_mismatch"), ("expected", .string expected),
      ("existing", .string existing)]

end Resolution

/-- Looks up how a request relates to the user's remote mailbox. -/
def resolve (domain userId localPart : String) : Operation Resolution := do
  let mailbox ← Operation.service (.get userId)
  return Resolution.ofMailbox (Address.ofParts localPart domain) mailbox

/-- Does the same after checking the user id and the local part. -/
def resolveChecked (domain userId localPart : String) : Operation Resolution :=
  match AccountRequest.identityViolations userId localPart with
  | [] => resolve domain userId localPart
  | violations => .fail (Fault.ofViolations violations)

end MailboxKeeper.Engine
