import MailboxKeeper.Address
import MailboxKeeper.Engine.Call

/-!
# Deleting accounts

With a local account goes the remote mailbox, but only if it is the one that the account points
at. Whatever becomes of the mailbox, the local record is removed.
-/

namespace MailboxKeeper.Engine

/-- What became of the remote mailbox of a deleted account. -/
inductive DeletionOutcome where
  | deleted
  /-- The account lies outside the provisioning domain. -/
  | foreignDomain
  | noRemoteMailbox
  /-- The user's remote mailbox has another address and was left alone. -/
  | addressMismatch
  /-- A remote call failed. -/
  | failed
  deriving DecidableEq, Repr

/-- The name under which an outcome is shown. -/
def DeletionOutcome.name : DeletionOutcome → String
  | deleted => "deleted"
  | foreignDomain => "foreign_domain"
  | noRemoteMailbox => "no_remote_mailbox"
  | addressMismatch => "address_mismatch"
  | failed => "failed"

/-- Removes the user's remote mailbox if it has the given address. -/
def deleteMailboxAt (userId email : String) : Option Mailbox → Operation DeletionOutcome
  | none => return .noRemoteMailbox
  | some mailbox =>
    if Address.same mailbox.email email then do
      match ← Operation.tryService (.delete userId) with
      | .ok true => return .deleted
      | .ok false | .error _ => return .failed
    else return .addressMismatch

/-- Removes the remote mailbox that an account of the user points at. -/
def reconcileDeletion (domain userId : String) (account : Account) : Operation DeletionOutcome :=
  if Address.inDomain account.email domain then do
    match ← Operation.tryService (.get userId) with
    | .ok mailbox => deleteMailboxAt userId account.email mailbox
    | .error _ => return .failed
  else return .foreignDomain

/-- Deletes one of the user's accounts. -/
def deleteAccount (domain userId : String) (id : AccountId) : Operation DeletionOutcome := do
  let account ← Operation.requireAccount userId id
  let outcome ← reconcileDeletion domain userId account
  Operation.table (.delete userId id)
  return outcome

end MailboxKeeper.Engine
