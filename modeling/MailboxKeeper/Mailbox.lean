import MailboxKeeper.Account.Json

/-!
# Remote mailboxes

A mailbox as the provisioning service describes it: its address and the servers for reading and
sending mail. The service names a password only when it has just issued one.
-/

namespace MailboxKeeper

/-- One server of a mailbox, with the password if the service has just issued it. -/
structure MailServer where
  host : String
  port : UInt16
  security : Security
  username : String
  password : Option String
  deriving DecidableEq, Repr

/-- A mailbox of the provisioning service. -/
structure Mailbox where
  email : String
  imap : MailServer
  smtp : MailServer
  deriving DecidableEq, Repr

namespace MailServer

/-- The same server with a password. -/
def withPassword (s : MailServer) (password : String) : MailServer :=
  { s with password := some password }

/-- What may be shown of a server: everything but the password. -/
def toJson (s : MailServer) : Json :=
  .object [("host", .string s.host), ("port", portToJson s.port), ("security", s.security.toJson),
    ("username", .string s.username)]

end MailServer

namespace Mailbox

/-- Are both passwords there? -/
def hasCredentials (m : Mailbox) : Bool := m.imap.password.isSome && m.smtp.password.isSome

/-- The same mailbox with one password for both servers. -/
def withPassword (m : Mailbox) (password : String) : Mailbox :=
  { m with imap := m.imap.withPassword password, smtp := m.smtp.withPassword password }

/-- What may be shown of a mailbox: everything but the passwords. -/
def toJson (m : Mailbox) : Json :=
  .object [("email", .string m.email), ("imap", m.imap.toJson), ("smtp", m.smtp.toJson)]

@[simp] theorem hasCredentials_withPassword (m : Mailbox) (password : String) :
    (m.withPassword password).hasCredentials = true := rfl

end Mailbox

end MailboxKeeper
