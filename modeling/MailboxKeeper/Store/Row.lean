import MailboxKeeper.Account.Basic
import MailboxKeeper.Text.Blank
import MailboxKeeper.Text.Fold

/-!
# Rows of the account table

A row holds texts and numbers as they were written, be it by this program or another. Written
from an account it gives the account back; any other row is read as an account too: a port by its
low sixteen bits, an unknown security as none and an unknown method as the password.
-/

namespace MailboxKeeper.Store

/-- The columns of one endpoint. -/
structure StoredEndpoint where
  host : String
  port : Int64
  security : String
  user : String
  password : String
  deriving DecidableEq, Repr

/-- What a row holds besides its id. -/
structure Entry where
  userId : String
  displayName : String
  email : String
  authMethod : String
  inbound : StoredEndpoint
  outbound : StoredEndpoint
  deriving DecidableEq, Repr

/-- A row of the account table. -/
structure Row where
  id : AccountId
  entry : Entry
  deriving DecidableEq, Repr

namespace StoredEndpoint

/-- The columns that an endpoint is written to. -/
def ofEndpoint (e : Endpoint) : StoredEndpoint :=
  ⟨e.host, e.port.toUInt64.toInt64, e.security.name, e.user, e.encryptedPassword⟩

/-- The endpoint that is read from columns. -/
def toEndpoint (s : StoredEndpoint) : Endpoint :=
  ⟨s.host, s.port.toUInt64.toUInt16, Security.ofStored s.security, s.user, s.password⟩

@[simp] theorem toEndpoint_ofEndpoint (e : Endpoint) : (ofEndpoint e).toEndpoint = e := by
  simp [ofEndpoint, toEndpoint]

end StoredEndpoint

/-- What an account is written as. -/
def Entry.ofAccount (a : Account) : Entry :=
  ⟨a.userId, a.displayName, a.email, a.authMethod.name, .ofEndpoint a.inbound,
    .ofEndpoint a.outbound⟩

/-- The account that a row is read as. -/
def Row.toAccount (r : Row) : Account :=
  ⟨some r.id, r.entry.userId, r.entry.displayName, r.entry.email,
    AuthMethod.ofStored r.entry.authMethod, r.entry.inbound.toEndpoint,
    r.entry.outbound.toEndpoint⟩

@[simp] theorem toAccount_ofAccount (id : AccountId) (a : Account) :
    (Row.mk id (.ofAccount a)).toAccount = { a with id := some id } := by
  simp [Row.toAccount, Entry.ofAccount]

/-- The part of an address that is compared letter by letter: all before the first U+0000. -/
def comparedChars (email : String) : List Char :=
  Text.fold (email.toList.takeWhile fun c => c.toNat != 0)

/-- Do two addresses count as one in the table? They do when they agree up to the case of ASCII
letters, as far as the first U+0000, and have the same number of bytes. -/
def sameAddress (a b : String) : Bool :=
  comparedChars a == comparedChars b && a.utf8ByteSize == b.utf8ByteSize

@[simp] theorem sameAddress_self (a : String) : sameAddress a a = true := by simp [sameAddress]

theorem sameAddress_symm {a b : String} (h : sameAddress a b = true) : sameAddress b a = true := by
  simp only [sameAddress, Bool.and_eq_true, beq_iff_eq] at h ⊢
  exact ⟨h.1.symm, h.2.symm⟩

theorem sameAddress_trans {a b c : String} (hab : sameAddress a b = true)
    (hbc : sameAddress b c = true) : sameAddress a c = true := by
  simp only [sameAddress, Bool.and_eq_true, beq_iff_eq] at hab hbc ⊢
  exact ⟨hab.1.trans hbc.1, hab.2.trans hbc.2⟩

/-- Does the entry belong to the user, under that address? -/
def Entry.isAt (e : Entry) (userId email : String) : Bool :=
  e.userId == userId && sameAddress e.email email

end MailboxKeeper.Store
