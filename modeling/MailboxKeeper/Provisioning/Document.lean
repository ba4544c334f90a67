import MailboxKeeper.Account.Json

/-!
# Documents of the provisioning service

What the service and its clients send each other, as JSON. A server's transport security is free
text that may be missing; its password is there only when it has just been issued.
-/

namespace MailboxKeeper.Provisioning

/-- A server of a mailbox, in the words of the service. -/
structure ServerDocument where
  host : String
  port : UInt16
  sslMode : String
  username : String
  password : Option String
  deriving DecidableEq, Repr

/-- A mailbox, in the words of the service. -/
structure MailboxDocument where
  email : String
  imap : ServerDocument
  smtp : ServerDocument
  deriving DecidableEq, Repr

/-- A newly issued password. -/
structure PasswordDocument where
  password : String
  deriving DecidableEq, Repr

/-- A request for a mailbox. -/
structure CreationDocument where
  localPart : String
  domain : String
  deriving DecidableEq, Repr

namespace ServerDocument

def toJson (s : ServerDocument) : Json :=
  .object ([("host", .string s.host), ("port", portToJson s.port), ("sslMode", .string s.sslMode),
    ("username", .string s.username)]
    ++ (s.password.map fun p => ("password", Json.string p)).toList)

def ofJson? (j : Json) : Option ServerDocument := do
  let r ← j.record? ["host", "port", "sslMode", "username", "password"]
  let host ← r.required? "host" Json.text?
  let port ← r.required? "port" portOfJson?
  let sslMode ← r.withDefault? "sslMode" Json.text? ""
  let username ← r.required? "username" Json.text?
  let password ← r.optional? "password" Json.text?
  return ⟨host, port, sslMode, username, password⟩

end ServerDocument

namespace MailboxDocument

def toJson (m : MailboxDocument) : Json :=
  .object [("email", .string m.email), ("imap", m.imap.toJson), ("smtp", m.smtp.toJson)]

def ofJson? (j : Json) : Option MailboxDocument := do
  let r ← j.record? ["email", "imap", "smtp"]
  let email ← r.required? "email" Json.text?
  let imap ← r.required? "imap" ServerDocument.ofJson?
  let smtp ← r.required? "smtp" ServerDocument.ofJson?
  return ⟨email, imap, smtp⟩

end MailboxDocument

namespace PasswordDocument

def toJson (p : PasswordDocument) : Json := .object [("password", .string p.password)]

def ofJson? (j : Json) : Option PasswordDocument := do
  let r ← j.record? ["password"]
  let password ← r.required? "password" Json.text?
  return ⟨password⟩

end PasswordDocument

namespace CreationDocument

def toJson (c : CreationDocument) : Json :=
  .object [("localPart", .string c.localPart), ("domain", .string c.domain)]

def ofJson? (j : Json) : Option CreationDocument := do
  let r ← j.record? ["localPart", "domain"]
  let localPart ← r.required? "localPart" Json.text?
  let domain ← r.required? "domain" Json.text?
  return ⟨localPart, domain⟩

end CreationDocument

end MailboxKeeper.Provisioning
