import MailboxKeeper.Store.Error
import MailboxKeeper.Store.Row

/-!
# The account table

Rows in the order of their ids, and the greatest id that was ever used. A new row takes the next
id, so no id comes back; a user has at most one row for an address. A statement that is refused
changes nothing.
-/

namespace MailboxKeeper.Store

/-- The account table. -/
structure Table where
  rows : List Row
  lastId : Int64
  deriving DecidableEq, Repr

/-- Puts a row in its place among rows in the order of their ids. -/
def insertRow (row : Row) : List Row → List Row
  | [] => [row]
  | r :: rs => if row.id.value < r.id.value then row :: r :: rs else r :: insertRow row rs

namespace Table

/-- The table before its first row. -/
def empty : Table := ⟨[], 0⟩

/-- The id of the next row, if there is one left. -/
def nextId? (t : Table) : Option AccountId :=
  if t.lastId = Int64.maxValue then none else some ⟨t.lastId + 1⟩

/-- Is there a row of the user under that address, other than the one with the given id? -/
def isTaken (t : Table) (userId email : String) (except : Option AccountId) : Bool :=
  t.rows.any fun r => r.entry.isAt userId email && some r.id != except

/-- The table with a new row under an id. -/
def insertAt (t : Table) (id : AccountId) (entry : Entry) : Except Database.Error Table :=
  if t.rows.any fun r => r.id == id then .error .duplicateId
  else if t.isTaken entry.userId entry.email none then .error .duplicateAddress
  else .ok ⟨insertRow ⟨id, entry⟩ t.rows, max t.lastId id.value⟩

/-- The table with a new row under the next id, and that id. -/
def insert (t : Table) (entry : Entry) : Except Database.Error (AccountId × Table) :=
  match t.nextId? with
  | none => .error .idsExhausted
  | some id => (t.insertAt id entry).map fun t => (id, t)

/-- Writes an account to a new row. The answer is the account with the id of the row. -/
def save (t : Table) (a : Account) : Except Error (Account × Table) :=
  match t.insert (.ofAccount a) with
  | .ok (id, t) => .ok ({ a with id := some id }, t)
  | .error e => .error (.database e)

/-- The row with an id, if it belongs to the user. -/
def rowOf? (t : Table) (userId : String) (id : AccountId) : Option Row :=
  t.rows.find? fun r => r.id == id && r.entry.userId == userId

/-- The user's account with an id. -/
def findById (t : Table) (userId : String) (id : AccountId) : Option Account :=
  (t.rowOf? userId id).map Row.toAccount

/-- The user's account under an address. -/
def findByAddress (t : Table) (userId email : String) : Option Account :=
  (t.rows.find? fun r => r.entry.isAt userId email).map Row.toAccount

/-- The table with other contents in the row of an id. -/
def replace (t : Table) (id : AccountId) (entry : Entry) : Table :=
  { t with rows := t.rows.map fun r => if r.id = id then ⟨id, entry⟩ else r }

/-- Writes a saved account to its row. -/
def update (t : Table) (a : Account) : Except Error (Account × Table) :=
  match a.id with
  | none => .error (.accountNotFound s!"{a.email} (unsaved)")
  | some id =>
    if (t.rowOf? a.userId id).isNone then .error (.accountNotFound id.text)
    else if t.isTaken a.userId a.email (some id) then .error (.database .duplicateAddress)
    else .ok (a, t.replace id (.ofAccount a))

/-- Removes the user's row with an id, if there is one. -/
def delete (t : Table) (userId : String) (id : AccountId) : Table :=
  { t with rows := t.rows.filter fun r => !(r.id == id && r.entry.userId == userId) }

/-- How many accounts a user has. -/
def count (t : Table) (userId : String) : Nat := t.rows.countP fun r => r.entry.userId == userId

end Table

end MailboxKeeper.Store
