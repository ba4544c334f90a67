import MailboxKeeper.Address
import MailboxKeeper.Engine.Call

/-!
# Resetting passwords

A new password is issued for the remote mailbox of one of the user's accounts and stored with the
account, encrypted once for each endpoint.
-/

namespace MailboxKeeper.Engine

/-- The server of an endpoint, with a new password. -/
def serverOf (e : Endpoint) (password : String) : MailServer :=
  ⟨e.host, e.port, e.security, e.user, some password⟩

/-- Issues a new password for one of the user's accounts. -/
def resetAccountPassword (domain userId : String) (id : AccountId) : Operation Account := do
  let account ← Operation.requireAccount userId id
  if Address.inDomain account.email domain then
    let password ← Operation.service (.resetPassword userId)
    let inbound ← Operation.encryptEndpoint (serverOf account.inbound password)
    let outbound ← Operation.encryptEndpoint (serverOf account.outbound password)
    Operation.table (.update { account with inbound, outbound })
  else .fail (Fault.notManaged account.email)

end MailboxKeeper.Engine
