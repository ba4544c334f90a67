import MailboxKeeper.Security

/-!
# Local accounts

A local account ties a user to a mailbox: its address, a display name, and the endpoints through
which mail is read and sent. An account that has been saved carries the id of its row.
-/

namespace MailboxKeeper

/-- The id of a saved account. -/
structure AccountId where
  value : Int64
  deriving DecidableEq, Repr

/-- The decimal text of an id. -/
def AccountId.text (id : AccountId) : String := toString id.value.toInt

namespace AccountId

/-- The id with a value, if it is one that an id can have. -/
def ofInt? (n : Int) : Option AccountId :=
  if Int64.minValue.toInt ≤ n ∧ n ≤ Int64.maxValue.toInt then some ⟨Int64.ofInt n⟩ else none

/-- The number of decimal digits. -/
def digits? (cs : List Char) : Option Nat :=
  if cs.isEmpty || !cs.all Char.isDigit then none
  else some (cs.foldl (fun n c => n * 10 + (c.toNat - 48)) 0)

/-- The id that a decimal text gives, with or without a sign. -/
def ofText? (text : String) : Option AccountId :=
  match text.toList with
  | '-' :: cs => (digits? cs).bind fun n => ofInt? (-(n : Int))
  | '+' :: cs => (digits? cs).bind fun n => ofInt? n
  | cs => (digits? cs).bind fun n => ofInt? n

end AccountId

/-- How a mail client logs in. -/
inductive AuthMethod where
  | password
  | oauth2
  deriving DecidableEq, Repr

namespace AuthMethod

/-- The name under which a method is stored and shown. -/
def name : AuthMethod → String
  | password => "password"
  | oauth2 => "oauth2"

/-- The method of a name. -/
def ofName? : String → Option AuthMethod
  | "password" => some password
  | "oauth2" => some oauth2
  | _ => none

/-- The method that a stored text stands for: the password, unless it is the other name. -/
def ofStored (s : String) : AuthMethod := (ofName? s).getD password

@[simp] theorem ofName?_name (m : AuthMethod) : ofName? m.name = some m := by cases m <;> rfl

@[simp] theorem ofStored_name (m : AuthMethod) : ofStored m.name = m := by simp [ofStored]

end AuthMethod

/-- Where one protocol of a mailbox is served, and the login for it. -/
structure Endpoint where
  host : String
  port : UInt16
  security : Security
  user : String
  encryptedPassword : String
  deriving DecidableEq, Repr

/-- The endpoint of an account that has none yet. -/
def Endpoint.blank : Endpoint := ⟨"", 0, .cleartext, "", ""⟩

/-- A user's mail account. -/
structure Account where
  id : Option AccountId
  userId : String
  displayName : String
  email : String
  authMethod : AuthMethod
  inbound : Endpoint
  outbound : Endpoint
  deriving DecidableEq, Repr

namespace Account

/-- The unsaved account of a user at an address. -/
def new (userId email : String) : Account :=
  ⟨none, userId, "", email, .password, .blank, .blank⟩

/-- Has the account been saved? -/
def isSaved (a : Account) : Bool := a.id.isSome

end Account

end MailboxKeeper
