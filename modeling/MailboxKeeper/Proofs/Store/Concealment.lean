import MailboxKeeper.Mailbox
import MailboxKeeper.Store.Statement

/-!
# Passwords out of sight

What is concealed keeps everything but the texts of passwords; whether there is one stays to be
seen. The account table looks at no password column: a statement about the concealed table has the
concealed answer and leaves the concealed table (`Table.execute_concealed`).
-/

namespace MailboxKeeper

/-! ## Accounts and mailboxes -/

def Endpoint.concealed (e : Endpoint) : Endpoint := { e with encryptedPassword := "" }

def Account.concealed (a : Account) : Account :=
  { a with inbound := a.inbound.concealed, outbound := a.outbound.concealed }

/-- The server with an empty password in place of its own, if it has one. -/
def MailServer.concealed (s : MailServer) : MailServer :=
  { s with password := s.password.map fun _ => "" }

def Mailbox.concealed (m : Mailbox) : Mailbox :=
  { m with imap := m.imap.concealed, smtp := m.smtp.concealed }

/-- What may be shown of an account shows no password. -/
@[simp] theorem Account.toJson_concealed (a : Account) : a.concealed.toJson = a.toJson := rfl

/-- What may be shown of a mailbox shows no password, nor whether there is one. -/
@[simp] theorem Mailbox.toJson_concealed (m : Mailbox) : m.concealed.toJson = m.toJson := rfl

@[simp] theorem Mailbox.hasCredentials_concealed (m : Mailbox) :
    m.concealed.hasCredentials = m.hasCredentials := by
  simp [hasCredentials, concealed, MailServer.concealed]

theorem Mailbox.concealed_withPassword (m : Mailbox) (password : String) :
    (m.withPassword password).concealed = m.concealed.withPassword "" := rfl

section Same

variable {a b : Account} {m n : Mailbox} {e f : Endpoint} {s s' : MailServer}

theorem Endpoint.concealed_eq_iff : e.concealed = f.concealed ↔
    e.host = f.host ∧ e.port = f.port ∧ e.security = f.security ∧ e.user = f.user := by
  simp [concealed]

theorem Account.concealed_eq_iff : a.concealed = b.concealed ↔
    a.id = b.id ∧ a.userId = b.userId ∧ a.displayName = b.displayName ∧ a.email = b.email ∧
      a.authMethod = b.authMethod ∧ a.inbound.concealed = b.inbound.concealed ∧
        a.outbound.concealed = b.outbound.concealed := by
  simp [concealed]

theorem MailServer.concealed_eq_iff : s.concealed = s'.concealed ↔
    s.host = s'.host ∧ s.port = s'.port ∧ s.security = s'.security ∧ s.username = s'.username ∧
      s.password.map (fun _ => "") = s'.password.map fun _ => "" := by
  simp [concealed]

theorem Mailbox.concealed_eq_iff : m.concealed = n.concealed ↔
    m.email = n.email ∧ m.imap.concealed = n.imap.concealed ∧
      m.smtp.concealed = n.smtp.concealed := by
  simp [concealed]

end Same

namespace Store

/-! ## Rows -/

def StoredEndpoint.concealed (s : StoredEndpoint) : StoredEndpoint := { s with password := "" }

def Entry.concealed (e : Entry) : Entry :=
  { e with inbound := e.inbound.concealed, outbound := e.outbound.concealed }

def Row.concealed (r : Row) : Row := ⟨r.id, r.entry.concealed⟩

theorem Entry.ofAccount_concealed (a : Account) :
    Entry.ofAccount a.concealed = (Entry.ofAccount a).concealed := rfl

theorem Row.toAccount_comp_concealed :
    Row.toAccount ∘ Row.concealed = Account.concealed ∘ Row.toAccount := rfl

theorem insertRow_concealed (row : Row) (rows : List Row) :
    insertRow row.concealed (rows.map Row.concealed) = (insertRow row rows).map Row.concealed := by
  induction rows with
  | nil => rfl
  | cons r rows ih =>
    simp only [List.map_cons, insertRow, ih]
    -- The ids, by which the place is found, are not concealed.
    change (if row.id.value < r.id.value then _ else _) = _
    split <;> rfl

namespace Table

def concealed (t : Table) : Table := ⟨t.rows.map Row.concealed, t.lastId⟩

variable (t : Table) (a : Account) (id : AccountId) (entry : Entry) (userId email : String)

/-! ## Reading -/

theorem rowOf?_concealed : t.concealed.rowOf? userId id = (t.rowOf? userId id).map Row.concealed :=
  List.find?_map ..

theorem findById_concealed :
    t.concealed.findById userId id = (t.findById userId id).map Account.concealed := by
  rw [findById, rowOf?_concealed, Option.map_map, Row.toAccount_comp_concealed, ← Option.map_map]
  rfl

theorem findByAddress_concealed :
    t.concealed.findByAddress userId email
      = (t.findByAddress userId email).map Account.concealed := by
  have found : t.concealed.rows.find? (fun r => r.entry.isAt userId email)
      = (t.rows.find? fun r => r.entry.isAt userId email).map Row.concealed := List.find?_map ..
  rw [findByAddress, found, Option.map_map, Row.toAccount_comp_concealed, ← Option.map_map]
  rfl

theorem isTaken_concealed (except : Option AccountId) :
    t.concealed.isTaken userId email except = t.isTaken userId email except :=
  List.any_map ..

/-! ## Writing -/

theorem insertAt_concealed :
    t.concealed.insertAt id entry.concealed = (t.insertAt id entry).map concealed := by
  have used : (t.concealed.rows.any fun r => r.id == id) = t.rows.any fun r => r.id == id :=
    List.any_map ..
  have taken : t.concealed.isTaken entry.concealed.userId entry.concealed.email none
      = t.isTaken entry.userId entry.email none := isTaken_concealed ..
  have inserted : insertRow ⟨id, entry.concealed⟩ t.concealed.rows
      = (insertRow ⟨id, entry⟩ t.rows).map Row.concealed := insertRow_concealed ⟨id, entry⟩ t.rows
  simp only [insertAt, used, taken, inserted]
  split
  · rfl
  · split <;> rfl

theorem save_concealed :
    t.concealed.save a.concealed = (t.save a).map (Prod.map Account.concealed concealed) := by
  have next : t.concealed.nextId? = t.nextId? := rfl
  unfold save insert
  rw [next, Entry.ofAccount_concealed]
  cases t.nextId? with
  | none => rfl
  | some id =>
    simp only [insertAt_concealed]
    cases t.insertAt id (.ofAccount a) <;> rfl

theorem replace_concealed :
    t.concealed.replace id entry.concealed = (t.replace id entry).concealed := by
  simp only [replace, concealed, List.map_map, mk.injEq, and_true]
  refine List.map_congr_left ?_
  intro r _
  by_cases same : r.id = id <;> simp [same, Row.concealed]

theorem update_concealed :
    t.concealed.update a.concealed = (t.update a).map (Prod.map Account.concealed concealed) := by
  have named : a.concealed.id = a.id := rfl
  have owned (id : AccountId) :
      (t.concealed.rowOf? a.concealed.userId id).isNone = (t.rowOf? a.userId id).isNone := by
    rw [rowOf?_concealed, Option.isNone_map]
    rfl
  have taken (id : AccountId) : t.concealed.isTaken a.concealed.userId a.concealed.email (some id)
      = t.isTaken a.userId a.email (some id) := isTaken_concealed ..
  unfold update
  rw [named]
  cases a.id with
  | none => rfl
  | some id =>
    simp only [owned, taken, Entry.ofAccount_concealed, replace_concealed]
    split
    · rfl
    · split <;> rfl

theorem delete_concealed : t.concealed.delete userId id = (t.delete userId id).concealed := by
  simp only [delete, concealed, List.filter_map]
  rfl

end Table

/-! ## Statements -/

namespace Statement

def concealed : Statement → Statement
  | save account => save account.concealed
  | update account => update account.concealed
  | s => s

/-- The answer to a statement, with the passwords concealed. -/
def conceal : (s : Statement) → s.Answer → s.concealed.Answer
  | findByAddress .., answer => Except.map (Option.map Account.concealed) answer
  | findById .., answer => Except.map (Option.map Account.concealed) answer
  | save _, answer => Except.map Account.concealed answer
  | update _, answer => Except.map Account.concealed answer
  | delete .., answer => answer

end Statement

/-- What is concealed from the table stays concealed, and nothing else changes. -/
theorem Table.execute_concealed (t : Table) (s : Statement) :
    t.concealed.execute s.concealed
      = (s.conceal (t.execute s).1, (t.execute s).2.concealed) := by
  have write (r : Except Error (Account × Table)) :
      t.concealed.afterWrite (r.map (Prod.map Account.concealed concealed))
        = ((t.afterWrite r).1.map Account.concealed, (t.afterWrite r).2.concealed) := by
    cases r <;> rfl
  cases s with
  | findByAddress userId email =>
    exact Prod.ext (congrArg Except.ok (t.findByAddress_concealed userId email)) rfl
  | findById userId id => exact Prod.ext (congrArg Except.ok (t.findById_concealed id userId)) rfl
  | save account => exact (congrArg _ (t.save_concealed account)).trans (write _)
  | update account => exact (congrArg _ (t.update_concealed account)).trans (write _)
  | delete userId id => exact Prod.ext rfl (t.delete_concealed id userId)

end Store

end MailboxKeeper
