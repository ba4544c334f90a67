import MailboxKeeper.Store.Table
import Mathlib.Tactic.Common

/-!
# Rows as they are read

The engine reads a row as an account, and when it writes the account again it writes all columns.
A column with a content that no account has comes out as it was read (`Entry.canonical`): a port as
its low sixteen bits, an unknown security as none and an unknown method as the password. Columns of
a row that an account was written to stay as they are (`Entry.canonical_eq_self_iff`).
-/

namespace MailboxKeeper.Store

/-! ## What is written for what was read -/

/-- The security that a text is read as. -/
def canonicalSecurity (text : String) : String :=
  if text ∈ ["none", "tls", "ssl"] then text else "none"

/-- The method that a text is read as. -/
def canonicalMethod (text : String) : String := if text = "oauth2" then text else "password"

/-- The columns of an endpoint hold a security and a port. -/
structure StoredEndpoint.Regular (s : StoredEndpoint) : Prop where
  security : s.security ∈ ["none", "tls", "ssl"]
  port : 0 ≤ s.port.toInt ∧ s.port.toInt ≤ 65535

/-- The columns of an endpoint as they are read. -/
def StoredEndpoint.canonical (s : StoredEndpoint) : StoredEndpoint :=
  { s with port := .ofInt (s.port.toInt % 65536), security := canonicalSecurity s.security }

namespace Entry

/-- An entry as it is read. -/
def canonical (e : Entry) : Entry :=
  { e with
    authMethod := canonicalMethod e.authMethod
    inbound := e.inbound.canonical
    outbound := e.outbound.canonical }

/-- The entry with other passwords. -/
def withPasswords (e : Entry) (inbound outbound : String) : Entry :=
  { e with
    inbound := { e.inbound with password := inbound }
    outbound := { e.outbound with password := outbound } }

/-- All columns have a content that an account can have. -/
structure Legible (e : Entry) : Prop where
  authMethod : e.authMethod ∈ ["password", "oauth2"]
  inbound : e.inbound.Regular
  outbound : e.outbound.Regular

end Entry

theorem name_security_ofStored (text : String) :
    (Security.ofStored text).name = canonicalSecurity text := by
  unfold Security.ofStored Security.ofName?
  split
  · rfl
  · rfl
  · rfl
  · rename_i cleartext tls ssl
    have unknown : text ∉ ["none", "tls", "ssl"] := by
      simp only [List.mem_cons, List.not_mem_nil, or_false, not_or]
      exact ⟨cleartext, tls, ssl⟩
    rw [canonicalSecurity, if_neg unknown]
    rfl

theorem name_authMethod_ofStored (text : String) :
    (AuthMethod.ofStored text).name = canonicalMethod text := by
  unfold AuthMethod.ofStored AuthMethod.ofName?
  split
  · rfl
  · rfl
  · rename_i password oauth2
    rw [canonicalMethod, if_neg oauth2]
    rfl

theorem toInt_port (port : UInt16) : port.toUInt64.toInt64.toInt = port.toNat := by
  have small := port.toNat_lt
  show (port.toUInt64.toBitVec).toInt = _
  rw [BitVec.toInt_eq_toNat_of_lt]
  · exact congrArg Int.ofNat port.toNat_toUInt64
  · show 2 * port.toUInt64.toNat < _
    rw [port.toNat_toUInt64]
    omega

theorem toInt_canonicalPort (n : Int64) :
    (Int64.ofInt (n.toInt % 65536)).toInt = n.toInt % 65536 := by
  have lower : Int64.minValue.toInt = -2 ^ 63 := rfl
  have upper : Int64.maxValue.toInt = 2 ^ 63 - 1 := rfl
  refine Int64.toInt_ofInt_of_le ?_ ?_ <;> omega

/-- Sixteen bits of a number of 64 bits, negative or not, are its remainder. -/
theorem port_eq_canonical (n : Int64) :
    n.toUInt64.toUInt16.toUInt64.toInt64 = Int64.ofInt (n.toInt % 65536) := by
  have unsigned : (n.toUInt64.toNat : Int) % 65536 = n.toInt % 65536 := by
    show (n.toBitVec.toNat : Int) % 65536 = n.toBitVec.toInt % 65536
    have signed := BitVec.toInt_eq_toNat_cond n.toBitVec
    split at signed <;> omega
  rw [← Int64.toInt_inj, toInt_port, UInt64.toNat_toUInt16, toInt_canonicalPort]
  omega

theorem StoredEndpoint.ofEndpoint_toEndpoint (s : StoredEndpoint) :
    ofEndpoint s.toEndpoint = s.canonical := by
  simp only [ofEndpoint, toEndpoint, canonical, port_eq_canonical, name_security_ofStored]

/-- Read as an account and written again, a row comes out canonical. -/
theorem Entry.ofAccount_toAccount (r : Row) : Entry.ofAccount r.toAccount = r.entry.canonical := by
  simp only [Entry.ofAccount, Row.toAccount, canonical, StoredEndpoint.ofEndpoint_toEndpoint,
    name_authMethod_ofStored]

/-! ## Columns that an account can have -/

theorem StoredEndpoint.regular_ofEndpoint (e : Endpoint) : (ofEndpoint e).Regular := by
  have small := e.port.toNat_lt
  refine ⟨?_, ?_⟩
  · show e.security.name ∈ _
    cases e.security <;> decide
  · show 0 ≤ e.port.toUInt64.toInt64.toInt ∧ e.port.toUInt64.toInt64.toInt ≤ 65535
    rw [toInt_port]
    omega

theorem canonicalSecurity_eq_self_iff {text : String} :
    canonicalSecurity text = text ↔ text ∈ ["none", "tls", "ssl"] := by
  unfold canonicalSecurity
  split
  · rename_i known
    exact iff_of_true rfl known
  · rename_i unknown
    refine iff_of_false ?_ unknown
    intro same
    rw [← same] at unknown
    exact unknown List.mem_cons_self

theorem canonicalMethod_eq_self_iff {text : String} :
    canonicalMethod text = text ↔ text ∈ ["password", "oauth2"] := by
  unfold canonicalMethod
  split
  · rename_i oauth2
    simp [oauth2]
  · rename_i other
    simp [other, eq_comm]

theorem canonicalPort_eq_self_iff {n : Int64} :
    Int64.ofInt (n.toInt % 65536) = n ↔ 0 ≤ n.toInt ∧ n.toInt ≤ 65535 := by
  rw [← Int64.toInt_inj, toInt_canonicalPort]
  omega

theorem StoredEndpoint.canonical_eq_self_iff {s : StoredEndpoint} :
    s.canonical = s ↔ s.Regular := by
  obtain ⟨host, port, security, user, password⟩ := s
  simp only [canonical, mk.injEq, true_and, and_true, canonicalPort_eq_self_iff,
    canonicalSecurity_eq_self_iff]
  exact ⟨fun h => ⟨h.2, h.1⟩, fun h => ⟨h.port, h.security⟩⟩

theorem Entry.canonical_eq_self_iff {e : Entry} : e.canonical = e ↔ e.Legible := by
  obtain ⟨userId, displayName, email, authMethod, inbound, outbound⟩ := e
  simp only [canonical, mk.injEq, true_and, StoredEndpoint.canonical_eq_self_iff,
    canonicalMethod_eq_self_iff]
  exact ⟨fun h => ⟨h.1, h.2.1, h.2.2⟩, fun h => ⟨h.1, h.2, h.3⟩⟩

/-- Reading does not touch the passwords, so blanking them hides no other difference. -/
theorem Entry.blanked_eq_iff {e : Entry} {inbound outbound : String} :
    (e.canonical.withPasswords inbound outbound).withPasswords "" "" = e.withPasswords "" "" ↔
      e.canonical = e := by
  obtain ⟨userId, displayName, email, authMethod, inbound, outbound⟩ := e
  obtain ⟨host, port, security, user, password⟩ := inbound
  obtain ⟨host', port', security', user', password'⟩ := outbound
  simp only [canonical, withPasswords, StoredEndpoint.canonical, mk.injEq,
    StoredEndpoint.mk.injEq, true_and, and_true]

/-! ## Tables -/

/-- The table with the password columns of all rows blanked. -/
def Table.withoutPasswords (t : Table) : Table :=
  { t with rows := t.rows.map fun r => { r with entry := r.entry.withPasswords "" "" } }

end MailboxKeeper.Store
