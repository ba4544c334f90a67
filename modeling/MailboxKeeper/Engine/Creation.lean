import MailboxKeeper.Engine.Resolution

/-!
# Creating accounts

A request for an account either makes a mailbox and a local record of it, or repairs the local
record that is there. When the service refuses to make a mailbox, the user may have one already:
then it is taken over if it has the requested address. The table is read before the first remote
call and written after the last.
-/

namespace MailboxKeeper.Engine

/-- The mailbox with passwords: its own, or a new one if it lacks any. -/
def withIssuedPassword (userId : String) (mailbox : Mailbox) : Operation Mailbox :=
  if mailbox.hasCredentials then .done mailbox
  else do
    let password ← Operation.service (.resetPassword userId)
    return mailbox.withPassword password

/-- Writes a mailbox into the local record of an account. -/
def persist (account : Account) (mailbox : Mailbox) (displayName : String) : Operation Account := do
  let mailbox ← withIssuedPassword account.userId mailbox
  let inbound ← Operation.encryptEndpoint mailbox.imap
  let outbound ← Operation.encryptEndpoint mailbox.smtp
  Operation.write { account with
    displayName := Text.trim displayName, authMethod := .password, inbound, outbound }

/-- Brings the local record of an account in step with the remote mailbox. -/
def repair (domain localPart displayName : String) (account : Account) : Operation Account := do
  match ← resolve domain account.userId localPart with
  | .retry mailbox => persist account mailbox displayName
  | .emailMismatch expected existing => .fail (Fault.emailMismatch expected existing)
  | .noExistingAccount => .fail (Fault.missingMailbox account.email)

/-- Goes on after the service has refused to make a mailbox, for the reason `refusal`. -/
def recover (domain userId localPart displayName : String) (refusal : Fault) :
    Operation Account := do
  let resolution ← (resolve domain userId localPart).mapError fun f => f.withCause refusal
  match resolution with
  | .retry mailbox => persist (.new userId mailbox.email) mailbox displayName
  | .emailMismatch expected existing =>
    .fail ((Fault.emailMismatch expected existing).withCause refusal)
  | .noExistingAccount => .fail refusal

/-- Makes a mailbox and a local record of it. -/
def provision (domain userId localPart displayName : String) : Operation Account := do
  match ← Operation.tryService (.create userId localPart) with
  | .ok mailbox => persist (.new userId (Mailbox.email mailbox)) mailbox displayName
  | .error failure => recover domain userId localPart displayName failure.toFault

/-- Creates the user's account, or repairs the record that is there. -/
def createOrUpdate (domain userId localPart displayName : String) : Operation Account :=
  match AccountRequest.violations userId localPart displayName with
  | [] => do
    match ← Operation.table (.findByAddress userId (Address.ofParts localPart domain)) with
    | some account => repair domain localPart displayName account
    | none => provision domain userId localPart displayName
  | violations => .fail (Fault.ofViolations violations)

end MailboxKeeper.Engine
