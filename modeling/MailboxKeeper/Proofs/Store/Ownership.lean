import MailboxKeeper.Proofs.Store.Table

/-!
# Rows of one user

The rows of a user make a table of their own (`Table.only`). A statement that concerns the user is
answered by these rows alone: over them it has the same answer and does the same
(`Sound.execute_only`). The rows of other users, which are `foreign`, stay as they are
(`Sound.foreign_execute`).
-/

namespace MailboxKeeper.Store

/-- Is the statement about rows of the user alone? -/
def Statement.Concerns (userId : String) : Statement → Prop
  | findByAddress owner _ | findById owner _ | delete owner _ => owner = userId
  | save account | update account => account.userId = userId

/-- Are the accounts that a statement yields the user's? -/
def Statement.Belongs (userId : String) : (s : Statement) → s.Result → Prop
  | findByAddress .., found => ∀ a : Account, found = some a → a.userId = userId
  | findById .., found => ∀ a : Account, found = some a → a.userId = userId
  | save _, a => Account.userId a = userId
  | update _, a => Account.userId a = userId
  | delete .., _ => True

namespace Table

variable {t t' : Table} {a b : Account} {id : AccountId} {entry : Entry} {userId email : String}
variable {except : Option AccountId} {s : Statement} {r : Row}

/-- The user's rows. -/
def owned (t : Table) (userId : String) : List Row :=
  t.rows.filter fun r => r.entry.userId == userId

/-- The rows of all other users. -/
def foreign (t : Table) (userId : String) : List Row :=
  t.rows.filter fun r => !(r.entry.userId == userId)

/-- The table as it would be without the rows of other users. -/
def only (t : Table) (userId : String) : Table := ⟨t.owned userId, t.lastId⟩

theorem mem_owned : r ∈ t.owned userId ↔ r ∈ t.rows ∧ r.entry.userId = userId := by
  simp [owned]

theorem Sound.only (sound : t.Sound) (userId : String) : (t.only userId).Sound :=
  ⟨sound.ascending.filter _, fun r member => sound.bounded r (mem_owned.1 member).1,
    sound.separate.filter _⟩

/-- Tables are one to a user when they hold the same rows of the user and would give a new row the
same id. -/
theorem only_eq_of_nextId? (rows : t.owned userId = t'.owned userId)
    (next : t.nextId? = t'.nextId?) : t.only userId = t'.only userId := by
  have same : t.lastId = t'.lastId := by
    unfold nextId? at next
    split at next <;> rename_i full
    · split at next <;> rename_i full'
      · rw [full, full']
      · cases next
    · split at next
      · cases next
      · simpa using next
  rw [Table.only, Table.only, rows, same]

/-! ## Reading -/

/-- What only a row of the user can meet is met among the user's rows. -/
theorem find?_owned {meets : Row → Bool} (own : ∀ r, meets r = true → r.entry.userId = userId) :
    (t.owned userId).find? meets = t.rows.find? meets := by
  rw [owned, List.find?_filter]
  refine congrArg (t.rows.find? ·) (funext fun r => ?_)
  cases met : meets r with
  | false => simp
  | true => simp [own r met]

theorem findByAddress_only :
    (t.only userId).findByAddress userId email = t.findByAddress userId email :=
  congrArg (Option.map Row.toAccount) (find?_owned fun _ at_ => (Entry.isAt_iff.1 at_).1)

theorem rowOf?_only : (t.only userId).rowOf? userId id = t.rowOf? userId id := by
  refine find?_owned ?_
  intro r meets
  rw [Bool.and_eq_true] at meets
  exact eq_of_beq meets.2

theorem isTaken_only : (t.only userId).isTaken userId email except
    = t.isTaken userId email except := by
  rw [Bool.eq_iff_iff]
  simp only [isTaken, List.any_eq_true, Bool.and_eq_true]
  constructor
  · rintro ⟨r, member, taken⟩
    exact ⟨r, (mem_owned.1 member).1, taken⟩
  · rintro ⟨r, member, at_, other⟩
    exact ⟨r, mem_owned.2 ⟨member, (Entry.isAt_iff.1 at_).1⟩, at_, other⟩

theorem userId_of_findByAddress (found : t.findByAddress userId email = some a) :
    a.userId = userId := by
  obtain ⟨r, -, at_, rfl⟩ := of_findByAddress_eq_some found
  exact (Entry.isAt_iff.1 at_).1

theorem userId_of_findById (found : t.findById userId id = some a) : a.userId = userId := by
  obtain ⟨r, -, -, owner, rfl⟩ := of_findById_eq_some found
  exact owner

/-- Another user's id names nothing. -/
theorem Sound.findById_eq_none (sound : t.Sound) (member : r ∈ t.rows) (named : r.id = id)
    (other : r.entry.userId ≠ userId) : t.findById userId id = none := by
  rw [Option.eq_none_iff_forall_ne_some]
  intro a found
  obtain ⟨s, member', same, owner, -⟩ := of_findById_eq_some found
  rw [sound.eq_of_id member member' (named.trans same.symm)] at other
  exact other owner

/-! ## Writing -/

theorem only_append {row : Row} (own : row.entry.userId = userId) :
    (t.append row).only userId = (t.only userId).append row := by
  simp [Table.only, owned, append, List.filter_append, own]

theorem foreign_append {row : Row} (own : row.entry.userId = userId) :
    (t.append row).foreign userId = t.foreign userId := by
  simp [foreign, append, List.filter_append, own]

/-- A row that is replaced is the user's, before and after. -/
theorem Sound.owner_replaced (sound : t.Sound) (there : t.rowOf? userId id ≠ none)
    (own : entry.userId = userId) (member : r ∈ t.rows) :
    (if r.id = id then (⟨id, entry⟩ : Row) else r).entry.userId = r.entry.userId ∧
      (r.id = id → r.entry.userId = userId) := by
  obtain ⟨s, found⟩ := Option.ne_none_iff_exists'.1 there
  have meets := List.find?_some found
  simp only [Bool.and_eq_true, beq_iff_eq] at meets
  have owner : r.id = id → r.entry.userId = userId := by
    intro named
    rw [sound.eq_of_id member (List.mem_of_find?_eq_some found) (named.trans meets.1.symm)]
    exact meets.2
  refine ⟨?_, owner⟩
  split
  · rename_i named
    rw [owner named, own]
  · rfl

theorem Sound.only_replace (sound : t.Sound) (there : t.rowOf? userId id ≠ none)
    (own : entry.userId = userId) :
    (t.replace id entry).only userId = (t.only userId).replace id entry := by
  simp only [Table.only, owned, Table.replace, List.filter_map, mk.injEq, and_true]
  refine congrArg (List.map _) (List.filter_congr ?_)
  intro r member
  rw [Function.comp_apply, (sound.owner_replaced there own member).1]

theorem Sound.foreign_replace (sound : t.Sound) (there : t.rowOf? userId id ≠ none)
    (own : entry.userId = userId) : (t.replace id entry).foreign userId = t.foreign userId := by
  have kept : t.rows.filter ((fun r => !(r.entry.userId == userId)) ∘
      fun r => if r.id = id then ⟨id, entry⟩ else r) = t.foreign userId := by
    refine List.filter_congr ?_
    intro r member
    rw [Function.comp_apply, (sound.owner_replaced there own member).1]
  rw [foreign, Table.replace, List.filter_map, kept, List.map_congr_left, List.map_id]
  -- The row that is replaced is not among the rows of others.
  intro r member
  obtain ⟨member, other⟩ := List.mem_filter.1 member
  refine if_neg fun named => ?_
  rw [(sound.owner_replaced there own member).2 named, beq_self_eq_true] at other
  cases other

theorem only_delete : (t.delete userId id).only userId = (t.only userId).delete userId id := by
  simp only [Table.only, owned, delete, List.filter_filter, Bool.and_comm]

theorem foreign_delete : (t.delete userId id).foreign userId = t.foreign userId := by
  simp only [foreign, delete, List.filter_filter]
  refine List.filter_congr ?_
  intro r _
  cases r.entry.userId == userId <;> simp

/-! ## Statements -/

theorem Sound.save_only (sound : t.Sound) :
    (t.only a.userId).save a = (t.save a).map (Prod.map (fun b => b) fun t => t.only a.userId) := by
  have next : (t.only a.userId).nextId? = t.nextId? := rfl
  cases given : t.nextId? with
  | none => simp only [save, insert, next, given]; rfl
  | some id =>
    have own : (Entry.ofAccount a).userId = a.userId := rfl
    have appended : (t.only a.userId).append ⟨id, .ofAccount a⟩
        = (t.append ⟨id, .ofAccount a⟩).only a.userId := (only_append own).symm
    rw [save, save, sound.insert_eq given, (sound.only a.userId).insert_eq given, own, isTaken_only,
      appended]
    cases t.isTaken a.userId (Entry.ofAccount a).email none <;> rfl

theorem Sound.foreign_save (sound : t.Sound) (saved : t.save a = .ok (b, t')) :
    t'.foreign a.userId = t.foreign a.userId := by
  obtain ⟨id, -, -, rfl, -⟩ := sound.of_save_eq_ok saved
  exact foreign_append rfl

theorem Sound.update_only (sound : t.Sound) :
    (t.only a.userId).update a
      = (t.update a).map (Prod.map (fun b => b) fun t => t.only a.userId) := by
  unfold update
  cases a.id with
  | none => rfl
  | some id =>
    simp only [rowOf?_only, isTaken_only]
    cases there : t.rowOf? a.userId id with
    | none => rfl
    | some r =>
      have own : (Entry.ofAccount a).userId = a.userId := rfl
      have same := sound.only_replace (by rw [there]; exact Option.some_ne_none r) own
      simp only [Option.isNone_some, Bool.false_eq_true, if_false]
      split
      · rfl
      · rw [← same]
        rfl

theorem Sound.foreign_update (sound : t.Sound) (updated : t.update a = .ok (b, t')) :
    t'.foreign a.userId = t.foreign a.userId := by
  obtain ⟨id, named, -, rfl, ⟨r, member, same, owner⟩, -⟩ := of_update_eq_ok updated
  refine sound.foreign_replace ?_ rfl
  have there := rowOf?_isNone_eq_false member
  rw [owner, same] at there
  intro gone
  rw [gone] at there
  cases there

/-- A statement that concerns the user has the same answer over the user's rows alone, and does to
them what it does to them in the whole table. -/
theorem Sound.execute_only (sound : t.Sound) (concerns : s.Concerns userId) :
    (t.only userId).execute s = ((t.execute s).1, (t.execute s).2.only userId) := by
  have write (r : Except Error (Account × Table)) :
      (t.only userId).afterWrite (r.map (Prod.map (fun b => b) fun t => t.only userId))
        = ((t.afterWrite r).1, (t.afterWrite r).2.only userId) := by
    cases r <;> rfl
  cases s with
  | findByAddress owner email =>
    cases concerns
    exact Prod.ext (congrArg Except.ok findByAddress_only) rfl
  | findById owner id =>
    cases concerns
    exact Prod.ext (congrArg (fun r? => Except.ok (Option.map Row.toAccount r?)) rowOf?_only) rfl
  | save a =>
    cases concerns
    exact (congrArg _ sound.save_only).trans (write _)
  | update a =>
    cases concerns
    exact (congrArg _ sound.update_only).trans (write _)
  | delete owner id =>
    cases concerns
    exact Prod.ext rfl only_delete.symm

/-- A statement that concerns the user leaves the rows of all others as they are. -/
theorem Sound.foreign_execute (sound : t.Sound) (concerns : s.Concerns userId) :
    (t.execute s).2.foreign userId = t.foreign userId := by
  cases s with
  | findByAddress | findById => rfl
  | save a =>
    cases concerns
    cases saved : t.save a with
    | error e => rw [Table.execute, saved]; rfl
    | ok written =>
      rw [Table.execute, saved]
      exact sound.foreign_save saved
  | update a =>
    cases concerns
    cases updated : t.update a with
    | error e => rw [Table.execute, updated]; rfl
    | ok written =>
      rw [Table.execute, updated]
      exact sound.foreign_update updated
  | delete owner id =>
    cases concerns
    exact foreign_delete

/-- A statement that concerns the user yields accounts of the user. -/
theorem belongs_execute {result : s.Result} (concerns : s.Concerns userId)
    (yields : (t.execute s).1 = .ok result) : s.Belongs userId result := by
  cases s with
  | findByAddress owner email =>
    cases concerns
    cases yields
    exact fun a found => userId_of_findByAddress found
  | findById owner id =>
    cases concerns
    cases yields
    exact fun a found => userId_of_findById found
  | save a =>
    cases saved : t.save a with
    | error e =>
      rw [Table.execute, saved] at yields
      cases yields
    | ok written =>
      obtain ⟨id, -, same, -⟩ := of_save_eq_ok saved
      rw [Table.execute, saved] at yields
      cases yields
      exact (congrArg Account.userId same).trans concerns
  | update a =>
    cases updated : t.update a with
    | error e =>
      rw [Table.execute, updated] at yields
      cases yields
    | ok written =>
      obtain ⟨id, -, same, -⟩ := of_update_eq_ok updated
      rw [Table.execute, updated] at yields
      cases yields
      exact (congrArg Account.userId same).trans concerns
  | delete owner id => trivial

end Table

end MailboxKeeper.Store
