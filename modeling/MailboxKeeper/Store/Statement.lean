import MailboxKeeper.Store.Table

/-!
# Statements about the account table

What the engine asks of the table: two ways to read and three to write.
-/

namespace MailboxKeeper.Store

/-- A statement about the account table. -/
inductive Statement where
  | findByAddress (userId email : String)
  | findById (userId : String) (id : AccountId)
  | save (account : Account)
  | update (account : Account)
  | delete (userId : String) (id : AccountId)
  deriving DecidableEq, Repr

namespace Statement

/-- What a statement yields when it succeeds. -/
def Result : Statement → Type
  | findByAddress .. | findById .. => Option Account
  | save _ | update _ => Account
  | delete .. => Unit

/-- What a statement is answered by. -/
abbrev Answer (s : Statement) : Type := Except Error s.Result

/-- Does the statement leave every table as it is? -/
def isRead : Statement → Bool
  | findByAddress .. | findById .. => true
  | _ => false

end Statement

/-- An outcome of a write and the table after it; a refused write leaves the table as it was. -/
def Table.afterWrite {α : Type} (t : Table) : Except Error (α × Table) → Except Error α × Table
  | .ok (a, t) => (.ok a, t)
  | .error e => (.error e, t)

/-- The answer to a statement, and the table after it. -/
def Table.execute (t : Table) : (s : Statement) → s.Answer × Table
  | .findByAddress userId email => (.ok (t.findByAddress userId email), t)
  | .findById userId id => (.ok (t.findById userId id), t)
  | .save account => t.afterWrite (t.save account)
  | .update account => t.afterWrite (t.update account)
  | .delete userId id => (.ok (), t.delete userId id)

/-- The answer to a statement about a table that must not be written to. -/
def Table.executeReadOnly (t : Table) : (s : Statement) → s.Answer
  | .findByAddress userId email => .ok (t.findByAddress userId email)
  | .findById userId id => .ok (t.findById userId id)
  | .update account =>
    if account.id.isNone then (t.execute (.update account)).1 else .error (.database .readOnly)
  | .save _ | .delete .. => .error (.database .readOnly)

theorem Table.executeReadOnly_of_isRead (t : Table) {s : Statement} (h : s.isRead = true) :
    t.executeReadOnly s = (t.execute s).1 := by
  cases s with
  | findByAddress | findById => rfl
  | save | update | delete => cases h

theorem Table.execute_of_isRead (t : Table) {s : Statement} (h : s.isRead = true) :
    (t.execute s).2 = t := by
  cases s with
  | findByAddress | findById => rfl
  | save | update | delete => cases h

end MailboxKeeper.Store
