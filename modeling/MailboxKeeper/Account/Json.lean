import MailboxKeeper.Account.Basic
import MailboxKeeper.Json.Record

/-!
# Accounts as JSON

The JSON form of an account shows everything but the encrypted passwords. Read back, an endpoint
has an empty one, unless the text names one.
-/

namespace MailboxKeeper

open Json (Record)

namespace AccountId

def toJson (id : AccountId) : Json := .int id.value.toInt

def ofJson? (j : Json) : Option AccountId :=
  (j.intBetween? Int64.minValue.toInt Int64.maxValue.toInt).map fun i => ⟨Int64.ofInt i⟩

end AccountId

/-- The port number that a value is. -/
def portOfJson? (j : Json) : Option UInt16 := (j.natUpTo? 65535).map UInt16.ofNat

/-- A port number as a value. -/
def portToJson (port : UInt16) : Json := .nat port.toNat

namespace Security

def toJson (s : Security) : Json := .string s.name

def ofJson? (j : Json) : Option Security := j.choice? ofName?

end Security

namespace AuthMethod

def toJson (m : AuthMethod) : Json := .string m.name

def ofJson? (j : Json) : Option AuthMethod := j.choice? ofName?

end AuthMethod

namespace Endpoint

def toJson (e : Endpoint) : Json :=
  .object [("host", .string e.host), ("port", portToJson e.port), ("security", e.security.toJson),
    ("user", .string e.user)]

def ofJson? (j : Json) : Option Endpoint := do
  let r ← j.record? ["host", "port", "security", "user", "encrypted_password"]
  let host ← r.required? "host" Json.text?
  let port ← r.required? "port" portOfJson?
  let security ← r.required? "security" Security.ofJson?
  let user ← r.required? "user" Json.text?
  let encryptedPassword ← r.withDefault? "encrypted_password" Json.text? ""
  return ⟨host, port, security, user, encryptedPassword⟩

end Endpoint

namespace Account

def toJson (a : Account) : Json :=
  .object [("id", .orNull AccountId.toJson a.id), ("user_id", .string a.userId),
    ("display_name", .string a.displayName), ("email", .string a.email),
    ("auth_method", a.authMethod.toJson), ("inbound", a.inbound.toJson),
    ("outbound", a.outbound.toJson)]

def ofJson? (j : Json) : Option Account := do
  let r ← j.record?
    ["id", "user_id", "display_name", "email", "auth_method", "inbound", "outbound"]
  let id ← r.optional? "id" AccountId.ofJson?
  let userId ← r.required? "user_id" Json.text?
  let displayName ← r.required? "display_name" Json.text?
  let email ← r.required? "email" Json.text?
  let authMethod ← r.required? "auth_method" AuthMethod.ofJson?
  let inbound ← r.required? "inbound" Endpoint.ofJson?
  let outbound ← r.required? "outbound" Endpoint.ofJson?
  return ⟨id, userId, displayName, email, authMethod, inbound, outbound⟩

end Account

end MailboxKeeper
