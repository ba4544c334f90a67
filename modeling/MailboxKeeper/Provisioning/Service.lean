import MailboxKeeper.Address
import MailboxKeeper.Mailbox
import MailboxKeeper.Provisioning.Exchange

/-!
# The provisioning service as the engine sees it

The documents of the service become mailboxes: the address must be well-formed and loses the
blanks around it, and the transport security is read from free text. A mailbox that is not there
counts as deleted.
-/

namespace MailboxKeeper

/-- The server that a document describes. -/
def MailServer.ofDocument (d : Provisioning.ServerDocument) : MailServer :=
  ⟨d.host, d.port, Security.ofMode d.sslMode, d.username, d.password⟩

/-- The mailbox that a document describes. -/
def Mailbox.ofDocument (d : Provisioning.MailboxDocument) :
    Except Provisioning.Failure Mailbox :=
  if Address.isWellFormed d.email then
    .ok ⟨Text.trim d.email, .ofDocument d.imap, .ofDocument d.smtp⟩
  else
    .error ⟨some 502, s!"Provisioning service returned an invalid address: {d.email}"⟩

namespace Provisioning

/-- A call to the service. -/
inductive Call where
  | create (userId localPart : String)
  | get (userId : String)
  | delete (userId : String)
  | resetPassword (userId : String)
  deriving DecidableEq, Repr

namespace Call

/-- What a call yields when it succeeds. -/
def Result : Call → Type
  | create .. => Mailbox
  | get _ => Option Mailbox
  | delete _ => Bool
  | resetPassword _ => String

/-- What a call is answered by. -/
abbrev Answer (c : Call) : Type := Except Failure c.Result

/-- The user whose mailbox a call is about. -/
def userId : Call → String
  | create userId _ | get userId | delete userId | resetPassword userId => userId

end Call

/-- The outcome of an exchange, in the words of the engine. -/
def outcome {α β : Type} (f : α → Except Failure β) : Except Error α → Except Failure β
  | .ok a => f a
  | .error e => .error e.toFailure

/-- The mailbox that the service found, if it found one. -/
def foundMailbox : Option MailboxDocument → Except Failure (Option Mailbox)
  | some d => (Mailbox.ofDocument d).map some
  | none => .ok none

/-- The answer to a call, by an exchange with the service. -/
def Call.perform {m : Type → Type} [Monad m] (send : Http.Request → m Http.Reply) (c : Config) :
    (call : Call) → m call.Answer
  | create userId localPart => do
    return outcome Mailbox.ofDocument
      (← Provisioning.perform send (createMailbox c userId localPart))
  | get userId => do
    return outcome foundMailbox (← Provisioning.perform send (getMailbox c userId))
  | delete userId => do
    return outcome (fun _ => .ok true) (← Provisioning.perform send (deleteMailbox c userId))
  | .resetPassword userId => do
    return outcome .ok (← Provisioning.perform send (Provisioning.resetPassword c userId))

end Provisioning

end MailboxKeeper
