import MailboxKeeper.Text.Lower

/-!
# Transport security of a mail server

Provisioning services describe the transport security of a server in free text. Any mention of
TLS means TLS; otherwise a mention of SSL means SSL; everything else means none. Letter case does
not count.
-/

namespace MailboxKeeper

/-- How a connection to a mail server is protected. -/
inductive Security where
  | cleartext
  | tls
  | ssl
  deriving DecidableEq, Repr

namespace Security

/-- Does `needle` stand somewhere in `cs`? -/
def mentions (needle : List Char) : List Char → Bool
  | [] => needle.isEmpty
  | c :: cs => needle.isPrefixOf (c :: cs) || mentions needle cs

/-- The security that a free text describes. -/
def ofMode (mode : String) : Security :=
  let cs := Text.lowerChars mode.toList
  if mentions "tls".toList cs then tls
  else if mentions "ssl".toList cs then ssl
  else cleartext

/-- The name under which a security is stored and shown. -/
def name : Security → String
  | cleartext => "none"
  | tls => "tls"
  | ssl => "ssl"

/-- The security of a name. -/
def ofName? : String → Option Security
  | "none" => some cleartext
  | "tls" => some tls
  | "ssl" => some ssl
  | _ => none

/-- The security that a stored text stands for: none, unless it is one of the other names. -/
def ofStored (s : String) : Security := (ofName? s).getD cleartext

@[simp] theorem ofName?_name (s : Security) : ofName? s.name = some s := by cases s <;> rfl

@[simp] theorem ofStored_name (s : Security) : ofStored s.name = s := by simp [ofStored]

end Security

end MailboxKeeper
