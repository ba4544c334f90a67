import MailboxKeeper.Store.Statement
import Mathlib.Data.List.Pairwise

/-!
# What statements do to the account table

A table is `Sound` if its rows ascend by id, none beyond the last id given out, and no user has
two rows at one address. Every statement keeps a table sound (`Sound.execute`). The other lemmas
say, statement by statement, when one succeeds and what the rows are afterwards; nothing later
opens `save`, `update` or `delete` again.
-/

namespace MailboxKeeper.Store

theorem Entry.isAt_iff {e : Entry} {userId email : String} :
    e.isAt userId email = true ↔ e.userId = userId ∧ sameAddress e.email email = true := by
  simp [Entry.isAt]

theorem Entry.isAt_self (e : Entry) : e.isAt e.userId e.email = true := by simp [Entry.isAt]

theorem Entry.isAt_symm {e f : Entry} (at_ : e.isAt f.userId f.email = true) :
    f.isAt e.userId e.email = true := by
  rw [isAt_iff] at at_ ⊢
  exact ⟨at_.1.symm, sameAddress_symm at_.2⟩

theorem mem_insertRow {row r : Row} {rows : List Row} :
    r ∈ insertRow row rows ↔ r = row ∨ r ∈ rows := by
  induction rows with
  | nil => simp [insertRow]
  | cons s rows ih =>
    rw [insertRow]
    split
    · simp
    · rw [List.mem_cons, ih, List.mem_cons]
      exact or_left_comm

/-- A row whose id is beyond all others goes to the end. -/
theorem insertRow_eq_append {row : Row} {rows : List Row}
    (beyond : ∀ r ∈ rows, r.id.value < row.id.value) : insertRow row rows = rows ++ [row] := by
  induction rows with
  | nil => rfl
  | cons r rows ih =>
    have first := beyond r (by simp)
    rw [insertRow, if_neg (Int64.not_lt.2 (Int64.le_of_lt first)),
      ih fun s member => beyond s (by simp [member])]
    rfl

namespace Table

variable {t t' : Table} {a b : Account} {id : AccountId} {entry : Entry} {userId email : String}

/-- A table as statements leave it. -/
structure Sound (t : Table) : Prop where
  ascending : t.rows.Pairwise fun r s => r.id.value < s.id.value
  bounded : ∀ r ∈ t.rows, r.id.value ≤ t.lastId
  separate : t.rows.Pairwise fun r s => s.entry.isAt r.entry.userId r.entry.email = false

theorem Sound.empty : Sound empty := ⟨.nil, nofun, .nil⟩

/-- An id names one row. -/
theorem Sound.eq_of_id (sound : t.Sound) {r s : Row} (left : r ∈ t.rows) (right : s ∈ t.rows)
    (same : r.id = s.id) : r = s := by
  by_contra different
  have symmetric : Std.Symm fun r s : Row => r.id ≠ s.id := ⟨fun _ _ apart => apart.symm⟩
  have apart : t.rows.Pairwise fun r s => r.id ≠ s.id := by
    refine sound.ascending.imp ?_
    intro r s less same
    rw [same] at less
    exact Int64.lt_irrefl less
  exact apart.forall left right different same

/-- A user has one row at an address. -/
theorem Sound.eq_of_isAt (sound : t.Sound) {r s : Row} (left : r ∈ t.rows) (right : s ∈ t.rows)
    (at_ : s.entry.isAt r.entry.userId r.entry.email = true) : r = s := by
  by_contra different
  have symmetric : Std.Symm fun r s : Row => s.entry.isAt r.entry.userId r.entry.email = false :=
    ⟨fun r s free => by
      by_contra taken
      rw [Bool.not_eq_false] at taken
      exact absurd (Entry.isAt_symm taken) (by rw [free]; exact Bool.false_ne_true)⟩
  have free := sound.separate.forall left right different
  rw [at_] at free
  cases free

/-! ## Reading -/

theorem findByAddress_eq_none_iff :
    t.findByAddress userId email = none ↔ ∀ r ∈ t.rows, r.entry.isAt userId email = false := by
  simp [findByAddress, List.find?_eq_none]

theorem of_findByAddress_eq_some (found : t.findByAddress userId email = some a) :
    ∃ r ∈ t.rows, r.entry.isAt userId email = true ∧ a = r.toAccount := by
  obtain ⟨r, hit, rfl⟩ := Option.map_eq_some_iff.1 found
  have meets := List.find?_some hit
  exact ⟨r, List.mem_of_find?_eq_some hit, meets, rfl⟩

theorem of_findById_eq_some (found : t.findById userId id = some a) :
    ∃ r ∈ t.rows, r.id = id ∧ r.entry.userId = userId ∧ a = r.toAccount := by
  obtain ⟨r, hit, rfl⟩ := Option.map_eq_some_iff.1 found
  have meets := List.find?_some hit
  simp only [Bool.and_eq_true, beq_iff_eq] at meets
  exact ⟨r, List.mem_of_find?_eq_some hit, meets.1, meets.2, rfl⟩

theorem rowOf?_isNone_eq_false {r : Row} (member : r ∈ t.rows) :
    (t.rowOf? r.entry.userId r.id).isNone = false := by
  rw [rowOf?, Option.isNone_eq_false_iff, List.find?_isSome]
  exact ⟨r, member, by simp⟩

theorem Sound.findById_of_mem (sound : t.Sound) {r : Row} (member : r ∈ t.rows) :
    t.findById r.entry.userId r.id = some r.toAccount := by
  obtain ⟨s, hit⟩ := Option.isSome_iff_exists.1
    (Option.isNone_eq_false_iff.1 (rowOf?_isNone_eq_false member))
  have meets := List.find?_some hit
  simp only [Bool.and_eq_true, beq_iff_eq] at meets
  rw [findById, hit, sound.eq_of_id (List.mem_of_find?_eq_some hit) member meets.1]
  rfl

/-! ## Writing to a new row -/

theorem toInt_nextId? (next : t.nextId? = some id) : id.value.toInt = t.lastId.toInt + 1 := by
  unfold nextId? at next
  split at next
  · cases next
  · rename_i room
    cases next
    have below : t.lastId < Int64.maxValue :=
      Int64.lt_iff_le_and_ne.2 ⟨Int64.le_maxValue _, room⟩
    rw [Int64.lt_iff_toInt_lt, Int64.toInt_maxValue] at below
    have least := Int64.le_toInt t.lastId
    rw [Int64.toInt_add, Int64.toInt_one, Int.bmod_eq_of_le (by omega) (by omega)]

theorem of_nextId?_eq_some (next : t.nextId? = some id) : t.lastId < id.value := by
  rw [Int64.lt_iff_toInt_lt, toInt_nextId? next]
  omega

theorem max_lastId (next : t.nextId? = some id) : max t.lastId id.value = id.value :=
  if_pos (Int64.le_of_lt (of_nextId?_eq_some next))

/-- Whatever the table, a saved account stands in a row under the next id. -/
theorem of_save_eq_ok (saved : t.save a = .ok (b, t')) :
    ∃ id, t.nextId? = some id ∧ b = { a with id := some id } ∧
      t' = ⟨insertRow ⟨id, .ofAccount a⟩ t.rows, id.value⟩ := by
  unfold save insert insertAt at saved
  cases next : t.nextId? with
  | none => simp [next] at saved
  | some id =>
    simp only [next, max_lastId next] at saved
    split at saved
    · rename_i inserted
      split at inserted
      · cases inserted
      · split at inserted
        · cases inserted
        · cases inserted
          cases saved
          exact ⟨id, rfl, rfl, rfl⟩
    · cases saved

theorem Sound.nextId?_beyond (sound : t.Sound) (next : t.nextId? = some id) :
    ∀ r ∈ t.rows, r.id.value < id.value :=
  fun r member => Int64.lt_of_le_of_lt (sound.bounded r member) (of_nextId?_eq_some next)

/-- The table with a row behind all others. -/
def append (t : Table) (row : Row) : Table := ⟨t.rows ++ [row], row.id.value⟩

theorem mem_append {row r : Row} : r ∈ (t.append row).rows ↔ r ∈ t.rows ∨ r = row := by
  simp [append]

theorem Sound.append {row : Row} (sound : t.Sound) (beyond : t.lastId < row.id.value)
    (free : ∀ r ∈ t.rows, r.entry.isAt row.entry.userId row.entry.email = false) :
    (t.append row).Sound := by
  constructor
  · refine List.pairwise_append.2 ⟨sound.ascending, List.pairwise_singleton .., ?_⟩
    intro r member s last
    rw [List.mem_singleton.1 last]
    exact Int64.lt_of_le_of_lt (sound.bounded r member) beyond
  · intro r member
    rcases mem_append.1 member with old | rfl
    · exact Int64.le_of_lt (Int64.lt_of_le_of_lt (sound.bounded r old) beyond)
    · exact Int64.le_refl _
  · refine List.pairwise_append.2 ⟨sound.separate, List.pairwise_singleton .., ?_⟩
    intro r member s last
    rw [List.mem_singleton.1 last]
    cases taken : row.entry.isAt r.entry.userId r.entry.email with
    | false => rfl
    | true => rw [← free r member, Entry.isAt_symm taken]

theorem isTaken_none_eq_false_iff :
    t.isTaken userId email none = false ↔ ∀ r ∈ t.rows, r.entry.isAt userId email = false := by
  simp [isTaken]

/-- A new row goes behind all others, if an id is left and its place is free. -/
theorem Sound.insert_eq (sound : t.Sound) (next : t.nextId? = some id) :
    t.insert entry = if t.isTaken entry.userId entry.email none then .error .duplicateAddress
      else .ok (id, t.append ⟨id, entry⟩) := by
  have beyond := sound.nextId?_beyond next
  have fresh : (t.rows.any fun r => r.id == id) = false := by
    rw [List.any_eq_false]
    intro r member same
    have less := beyond r member
    rw [eq_of_beq same] at less
    exact Int64.lt_irrefl less
  have behind : insertRow ⟨id, entry⟩ t.rows = t.rows ++ [⟨id, entry⟩] := insertRow_eq_append beyond
  rw [insert, next]
  simp only [insertAt, fresh, Bool.false_eq_true, if_false, behind, max_lastId next]
  split <;> rfl

/-- A saved account stands in a new row, at an address where its user had none. -/
theorem Sound.of_save_eq_ok (sound : t.Sound) (saved : t.save a = .ok (b, t')) :
    ∃ id, t.nextId? = some id ∧ b = { a with id := some id } ∧ t' = t.append ⟨id, .ofAccount a⟩
      ∧ ∀ r ∈ t.rows, r.entry.isAt a.userId a.email = false := by
  cases next : t.nextId? with
  | none => simp [save, insert, next] at saved
  | some id =>
    rw [save, sound.insert_eq next] at saved
    cases taken : t.isTaken a.userId a.email none with
    | true => simp [Entry.ofAccount, taken] at saved
    | false =>
      simp only [Entry.ofAccount, taken, Bool.false_eq_true, if_false, Except.ok.injEq,
        Prod.mk.injEq] at saved
      exact ⟨id, rfl, saved.1.symm, saved.2.symm, isTaken_none_eq_false_iff.1 taken⟩

theorem Sound.save_of_free (sound : t.Sound) (next : t.nextId? = some id)
    (free : ∀ r ∈ t.rows, r.entry.isAt a.userId a.email = false) :
    t.save a = .ok ({ a with id := some id }, t.append ⟨id, .ofAccount a⟩) := by
  have place := isTaken_none_eq_false_iff.2 free
  rw [save, sound.insert_eq next]
  simp [Entry.ofAccount, place]

theorem Sound.save_of_taken (sound : t.Sound) (next : t.nextId? = some id)
    {r : Row} (member : r ∈ t.rows) (taken : r.entry.isAt a.userId a.email = true) :
    t.save a = .error (.database .duplicateAddress) := by
  have place : t.isTaken a.userId a.email none = true := by
    by_contra free
    rw [Bool.not_eq_true, isTaken_none_eq_false_iff] at free
    rw [free r member] at taken
    cases taken
  rw [save, sound.insert_eq next]
  simp [Entry.ofAccount, place]

/-! ## Writing to a row that is there -/

theorem mem_replace {r : Row} :
    r ∈ (t.replace id entry).rows
      ↔ (r = ⟨id, entry⟩ ∧ ∃ s ∈ t.rows, s.id = id) ∨ r ∈ t.rows ∧ r.id ≠ id := by
  simp only [replace, List.mem_map]
  constructor
  · rintro ⟨s, member, rfl⟩
    split
    · rename_i same
      exact .inl ⟨rfl, s, member, same⟩
    · rename_i other
      exact .inr ⟨member, other⟩
  · rintro (⟨rfl, s, member, same⟩ | ⟨member, other⟩)
    · exact ⟨s, member, if_pos same⟩
    · exact ⟨r, member, if_neg other⟩

theorem isTaken_some_eq_false_iff :
    t.isTaken userId email (some id) = false
      ↔ ∀ r ∈ t.rows, r.entry.isAt userId email = true → r.id = id := by
  simp [isTaken]

/-- An update rewrites one row of the user, and leaves it where no other row of the user is. -/
theorem of_update_eq_ok (updated : t.update a = .ok (b, t')) :
    ∃ id, a.id = some id ∧ b = a ∧ t' = t.replace id (.ofAccount a)
      ∧ (∃ r ∈ t.rows, r.id = id ∧ r.entry.userId = a.userId)
      ∧ ∀ r ∈ t.rows, r.entry.isAt a.userId a.email = true → r.id = id := by
  unfold update at updated
  cases named : a.id with
  | none => simp [named] at updated
  | some id =>
    simp only [named] at updated
    split at updated
    · cases updated
    · rename_i there
      split at updated
      · cases updated
      · rename_i free
        rw [Bool.not_eq_true, rowOf?, Option.isNone_eq_false_iff, List.find?_isSome] at there
        obtain ⟨r, member, hit⟩ := there
        simp only [Bool.and_eq_true, beq_iff_eq] at hit
        rw [Bool.not_eq_true, isTaken_some_eq_false_iff] at free
        cases updated
        exact ⟨id, rfl, rfl, rfl, ⟨r, member, hit⟩, free⟩

theorem update_of_row {r : Row} (member : r ∈ t.rows) (named : a.id = some r.id)
    (owner : r.entry.userId = a.userId)
    (free : ∀ s ∈ t.rows, s.entry.isAt a.userId a.email = true → s.id = r.id) :
    t.update a = .ok (a, t.replace r.id (.ofAccount a)) := by
  have there := rowOf?_isNone_eq_false member
  rw [owner] at there
  simp [update, named, there, isTaken_some_eq_false_iff.2 free]

theorem update_of_unsaved (new : a.id = none) :
    t.update a = .error (.accountNotFound s!"{a.email} (unsaved)") := by
  rw [update, new]

theorem update_of_absent (named : a.id = some id)
    (absent : ∀ r ∈ t.rows, ¬(r.id = id ∧ r.entry.userId = a.userId)) :
    t.update a = .error (.accountNotFound id.text) := by
  have nothing : (t.rowOf? a.userId id).isNone = true := by
    rw [Option.isNone_iff_eq_none, rowOf?, List.find?_eq_none]
    intro r member
    rw [Bool.and_eq_true, beq_iff_eq, beq_iff_eq]
    exact absent r member
  simp only [update, named, nothing, if_true]

theorem update_of_taken {r s : Row} (member : r ∈ t.rows) (named : a.id = some r.id)
    (owner : r.entry.userId = a.userId) (member' : s ∈ t.rows)
    (taken : s.entry.isAt a.userId a.email = true) (other : s.id ≠ r.id) :
    t.update a = .error (.database .duplicateAddress) := by
  have there := rowOf?_isNone_eq_false member
  rw [owner] at there
  have place : t.isTaken a.userId a.email (some r.id) = true := by
    by_contra free
    rw [Bool.not_eq_true, isTaken_some_eq_false_iff] at free
    exact other (free s member' taken)
  simp only [update, named, there, place, Bool.false_eq_true, if_false, if_true]

theorem Sound.replace (sound : t.Sound)
    (free : ∀ r ∈ t.rows, r.entry.isAt entry.userId entry.email = true → r.id = id) :
    (t.replace id entry).Sound := by
  have kept : ∀ r : Row, (if r.id = id then ⟨id, entry⟩ else r : Row).id = r.id := by
    intro r
    split
    · rename_i same
      exact same.symm
    · rfl
  constructor
  · refine List.pairwise_map.2 (sound.ascending.imp ?_)
    intro r s less
    rw [kept, kept]
    exact less
  · intro r member
    obtain ⟨s, old, rfl⟩ := List.mem_map.1 member
    rw [kept]
    exact sound.bounded s old
  · refine List.pairwise_map.2 ((sound.ascending.and sound.separate).imp_of_mem ?_)
    intro r s left right ⟨less, apart⟩
    by_cases first : r.id = id
    · by_cases second : s.id = id
      · rw [first, second] at less
        exact absurd less Int64.lt_irrefl
      · rw [if_pos first, if_neg second, Bool.eq_false_iff]
        exact fun taken => second (free s right taken)
    · by_cases second : s.id = id
      · rw [if_neg first, if_pos second, Bool.eq_false_iff]
        exact fun taken => first (free r left (Entry.isAt_symm taken))
      · rw [if_neg first, if_neg second]
        exact apart

/-! ## Writing to either -/

/-- Writes an account to its row, or to a new one if it has none. -/
def write (t : Table) (a : Account) : Except Error (Account × Table) :=
  if a.isSaved then t.update a else t.save a

/-- Whatever the table, an account that was written stands in it as it is returned, and it is the
one that was to be written but for the id of a new row. -/
theorem of_write_eq_ok (written : t.write a = .ok (b, t')) :
    ∃ id, b = { a with id := some id } ∧ ⟨id, .ofAccount b⟩ ∈ t'.rows := by
  unfold write at written
  split at written
  · obtain ⟨id, named, rfl, rfl, ⟨r, member, same, -⟩, -⟩ := of_update_eq_ok written
    refine ⟨id, by rw [← named], mem_replace.2 (.inl ⟨rfl, r, member, same⟩)⟩
  · obtain ⟨id, -, rfl, rfl⟩ := of_save_eq_ok written
    exact ⟨id, rfl, mem_insertRow.2 (.inl rfl)⟩

/-- In a sound table the row that was written is the only one that has changed. -/
theorem Sound.of_write_eq_ok (sound : t.Sound) (written : t.write a = .ok (b, t')) :
    t'.Sound ∧ ∃ id, b = { a with id := some id } ∧
      ∀ r, r ∈ t'.rows ↔ r = ⟨id, .ofAccount b⟩ ∨ r ∈ t.rows ∧ r.id ≠ id := by
  unfold write at written
  split at written
  · obtain ⟨id, named, rfl, rfl, there, free⟩ := of_update_eq_ok written
    refine ⟨sound.replace free, id, by rw [← named], fun r => ?_⟩
    rw [mem_replace]
    obtain ⟨s, member, same, -⟩ := there
    exact ⟨fun h => h.imp_left And.left, fun h => h.imp_left fun new => ⟨new, s, member, same⟩⟩
  · obtain ⟨id, next, rfl, rfl, free⟩ := sound.of_save_eq_ok written
    have beyond := sound.nextId?_beyond next
    refine ⟨sound.append (of_nextId?_eq_some next) free, id, rfl, fun r => ?_⟩
    have fresh : r ∈ t.rows → r.id ≠ id := fun member same =>
      Int64.lt_irrefl (same ▸ beyond r member : id.value < id.value)
    rw [mem_append]
    constructor
    · rintro (old | new)
      · exact .inr ⟨old, fresh old⟩
      · exact .inl new
    · rintro (new | ⟨old, -⟩)
      · exact .inr new
      · exact .inl old

/-- What was written to a sound table is found there. -/
theorem Sound.findById_of_write_eq_ok (sound : t.Sound) (written : t.write a = .ok (b, t')) :
    ∃ id, b.id = some id ∧ t'.findById b.userId id = some b := by
  obtain ⟨after, id, rfl, rows⟩ := sound.of_write_eq_ok written
  have found := after.findById_of_mem ((rows _).2 (.inl rfl))
  rw [toAccount_ofAccount] at found
  exact ⟨id, rfl, found⟩

theorem sound_of_rows_eq_nil (vacant : t.rows = []) : t.Sound := by
  refine ⟨?_, ?_, ?_⟩ <;> rw [vacant]
  · exact .nil
  · exact fun r member => absurd member List.not_mem_nil
  · exact .nil

/-- A table without rows takes any new account, as long as there are ids. -/
theorem write_of_rows_eq_nil (vacant : t.rows = []) (next : t.nextId? = some id)
    (unsaved : a.id = none) :
    t.write a = .ok ({ a with id := some id }, t.append ⟨id, .ofAccount a⟩) := by
  have fresh : a.isSaved = false := congrArg Option.isSome unsaved
  unfold write
  rw [fresh]
  refine (sound_of_rows_eq_nil vacant).save_of_free next ?_
  rw [vacant]
  exact fun r member => absurd member List.not_mem_nil

/-! ## Removing -/

theorem mem_delete {r : Row} :
    r ∈ (t.delete userId id).rows ↔ r ∈ t.rows ∧ ¬(r.id = id ∧ r.entry.userId = userId) := by
  simp only [delete, List.mem_filter, Bool.not_eq_true', ← Bool.not_eq_true, Bool.and_eq_true,
    beq_iff_eq]

theorem Sound.delete (sound : t.Sound) : (t.delete userId id).Sound :=
  ⟨sound.ascending.filter _, fun r member => sound.bounded r (mem_delete.1 member).1,
    sound.separate.filter _⟩

/-- No statement makes a sound table unsound. -/
theorem Sound.execute (sound : t.Sound) (s : Statement) : (t.execute s).2.Sound := by
  cases s with
  | findByAddress userId email => exact sound
  | findById userId id => exact sound
  | save a =>
    cases saved : t.save a with
    | error e => rw [Table.execute, saved]; exact sound
    | ok written =>
      obtain ⟨b, after⟩ := written
      obtain ⟨id, next, -, rfl, free⟩ := sound.of_save_eq_ok saved
      rw [Table.execute, saved]
      exact sound.append (of_nextId?_eq_some next) free
  | update a =>
    cases updated : t.update a with
    | error e => rw [Table.execute, updated]; exact sound
    | ok written =>
      obtain ⟨b, after⟩ := written
      obtain ⟨id, -, -, rfl, -, free⟩ := of_update_eq_ok updated
      rw [Table.execute, updated]
      exact sound.replace free
  | delete userId id => exact sound.delete

/-- A statement gives out one id at most. -/
theorem lastId_execute_le (t : Table) (s : Statement) :
    (t.execute s).2.lastId.toInt ≤ t.lastId.toInt + 1 := by
  have same : t.lastId.toInt ≤ t.lastId.toInt + 1 := by omega
  cases s with
  | findByAddress userId email => exact same
  | findById userId id => exact same
  | save a =>
    cases saved : t.save a with
    | error e => rw [Table.execute, saved]; exact same
    | ok written =>
      obtain ⟨id, next, -, table⟩ := of_save_eq_ok saved
      rw [Table.execute, saved]
      show written.2.lastId.toInt ≤ _
      rw [table]
      exact Int.le_of_eq (toInt_nextId? next)
  | update a =>
    cases updated : t.update a with
    | error e => rw [Table.execute, updated]; exact same
    | ok written =>
      obtain ⟨id, -, -, table, -⟩ := of_update_eq_ok updated
      rw [Table.execute, updated]
      show written.2.lastId.toInt ≤ _
      rw [table]
      exact same
  | delete userId id => exact same

end Table

end MailboxKeeper.Store
