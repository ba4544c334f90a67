import MailboxKeeper.Proofs.Store.Table
import Mathlib.Data.List.Nodup

/-!
# Statements about single rows

The id is the key of the account table: it names one row at most (`Keyed`). Rows may be written by
hand, with texts and numbers that no account has; a table stays keyed whatever is inserted, saved,
updated or deleted. In a keyed table a write is about a single row: `Gains`, `Exchanges` and `Loses`
say what becomes of it, and that all other rows are as and where they were.
-/

namespace MailboxKeeper.Store

variable {row r : Row} {rows : List Row}

/-- A row is put between others, which stay as they are. -/
theorem insertRow_split (row : Row) (rows : List Row) :
    ∃ before after, rows = before ++ after ∧ insertRow row rows = before ++ row :: after := by
  induction rows with
  | nil => exact ⟨[], [], rfl, rfl⟩
  | cons r rows ih =>
    rw [insertRow]
    split
    · exact ⟨[], r :: rows, rfl, rfl⟩
    · obtain ⟨before, after, same, inserted⟩ := ih
      exact ⟨r :: before, after, congrArg _ same, congrArg _ inserted⟩

namespace Table

variable {t t' : Table} {a b : Account} {id : AccountId} {entry : Entry} {userId : String}

/-- No two rows have one id. -/
def Keyed (t : Table) : Prop := (t.rows.map Row.id).Nodup

instance (t : Table) : Decidable t.Keyed := inferInstanceAs (Decidable (t.rows.map Row.id).Nodup)

/-- A new row stands among the others, under an id of its own. -/
def Gains (t : Table) (row : Row) (t' : Table) : Prop :=
  (∀ r ∈ t.rows, r.id ≠ row.id) ∧ ∃ before after, t.rows = before ++ after ∧
    t' = ⟨before ++ row :: after, max t.lastId row.id.value⟩

/-- One row has become another. -/
def Exchanges (t : Table) (old new : Row) (t' : Table) : Prop :=
  ∃ before after, t.rows = before ++ old :: after ∧ t' = { t with rows := before ++ new :: after }

/-- One row has gone. -/
def Loses (t : Table) (row : Row) (t' : Table) : Prop :=
  ∃ before after, t.rows = before ++ row :: after ∧ t' = { t with rows := before ++ after }

/-! ## One row among others -/

theorem Keyed.empty : Keyed empty := .nil

theorem Sound.keyed (sound : t.Sound) : t.Keyed := by
  refine List.pairwise_map.2 (sound.ascending.imp ?_)
  intro r s less same
  rw [same] at less
  exact Int64.lt_irrefl less

/-- The other rows have other ids. -/
theorem Keyed.split (keyed : t.Keyed) (member : r ∈ t.rows) :
    ∃ before after, t.rows = before ++ r :: after ∧
      (∀ s ∈ before, s.id ≠ r.id) ∧ ∀ s ∈ after, s.id ≠ r.id := by
  obtain ⟨before, after, same⟩ := List.append_of_mem member
  rw [Keyed, same, List.map_append, List.map_cons, List.nodup_middle, List.nodup_cons,
    List.mem_append, not_or] at keyed
  obtain ⟨⟨earlier, later⟩, -⟩ := keyed
  refine ⟨before, after, same, ?_, ?_⟩
  · intro s member same
    exact earlier (same ▸ List.mem_map_of_mem member)
  · intro s member same
    exact later (same ▸ List.mem_map_of_mem member)

theorem Keyed.eq_of_id (keyed : t.Keyed) {s : Row} (left : r ∈ t.rows) (right : s ∈ t.rows)
    (same : r.id = s.id) : r = s :=
  List.inj_on_of_nodup_map keyed left right same

/-- A row is found under its id, for the user who owns it. -/
theorem Keyed.findById_of_mem (keyed : t.Keyed) (member : r ∈ t.rows) :
    t.findById r.entry.userId r.id = some r.toAccount := by
  obtain ⟨s, hit⟩ := Option.isSome_iff_exists.1
    (Option.isNone_eq_false_iff.1 (rowOf?_isNone_eq_false member))
  have meets := List.find?_some hit
  simp only [Bool.and_eq_true, beq_iff_eq] at meets
  rw [findById, hit, keyed.eq_of_id (List.mem_of_find?_eq_some hit) member meets.1]
  rfl

/-! ## Writes -/

theorem Keyed.exchanges (keyed : t.Keyed) (member : r ∈ t.rows) :
    t.Exchanges r ⟨r.id, entry⟩ (t.replace r.id entry) := by
  obtain ⟨before, after, same, earlier, later⟩ := keyed.split member
  have kept : ∀ rows : List Row, (∀ s ∈ rows, s.id ≠ r.id) →
      rows.map (fun s => if s.id = r.id then ⟨r.id, entry⟩ else s) = rows := by
    intro rows others
    refine (List.map_congr_left ?_).trans (List.map_id rows)
    intro s member
    exact if_neg (others s member)
  refine ⟨before, after, same, ?_⟩
  rw [replace, same, List.map_append, List.map_cons, kept before earlier, kept after later,
    if_pos rfl]

theorem Keyed.loses (keyed : t.Keyed) (member : r ∈ t.rows) :
    t.Loses r (t.delete r.entry.userId r.id) := by
  obtain ⟨before, after, same, earlier, later⟩ := keyed.split member
  have kept : ∀ rows : List Row, (∀ s ∈ rows, s.id ≠ r.id) →
      rows.filter (fun s => !(s.id == r.id && s.entry.userId == r.entry.userId)) = rows := by
    intro rows others
    refine List.filter_eq_self.2 ?_
    intro s other
    simp [others s other]
  refine ⟨before, after, same, ?_⟩
  rw [delete, same, List.filter_append, List.filter_cons, kept before earlier, kept after later]
  simp

theorem gains_of_insertAt_eq_ok (inserted : t.insertAt id entry = .ok t') :
    t.Gains ⟨id, entry⟩ t' := by
  unfold insertAt at inserted
  split at inserted
  · cases inserted
  · rename_i fresh
    split at inserted
    · cases inserted
    · cases inserted
      obtain ⟨before, after, same, placed⟩ := insertRow_split ⟨id, entry⟩ t.rows
      exact ⟨by simpa using fresh, before, after, same, by rw [placed]⟩

/-- Whatever the table, an account is saved in a new row. -/
theorem gains_of_save_eq_ok (saved : t.save a = .ok (b, t')) :
    ∃ id, b = { a with id := some id } ∧ t.Gains ⟨id, .ofAccount a⟩ t' := by
  unfold save insert at saved
  cases next : t.nextId? with
  | none => simp [next] at saved
  | some id =>
    -- Among rows written by hand the next id may be taken; then the insertion is refused.
    cases inserted : t.insertAt id (.ofAccount a) with
    | error e => simp [next, inserted, Except.map] at saved
    | ok after =>
      simp only [next, inserted, Except.map, Except.ok.injEq, Prod.mk.injEq] at saved
      obtain ⟨rfl, rfl⟩ := saved
      exact ⟨id, rfl, gains_of_insertAt_eq_ok inserted⟩

/-! ## Keys -/

theorem Gains.keyed (gains : t.Gains row t') (keyed : t.Keyed) : t'.Keyed := by
  obtain ⟨fresh, before, after, same, rfl⟩ := gains
  rw [Keyed, List.map_append, List.map_cons, List.nodup_middle, ← List.map_append, ← same]
  refine List.nodup_cons.2 ⟨?_, keyed⟩
  intro taken
  obtain ⟨r, member, same⟩ := List.mem_map.1 taken
  exact fresh r member same

theorem Exchanges.keyed {old new : Row} (exchanges : t.Exchanges old new t')
    (same : new.id = old.id) (keyed : t.Keyed) : t'.Keyed := by
  obtain ⟨before, after, rows, rfl⟩ := exchanges
  rw [Keyed, rows] at keyed
  rw [Keyed, List.map_append, List.map_cons, same, ← List.map_cons, ← List.map_append]
  exact keyed

/-- Rows written by hand: ports beyond sixteen bits, and names that nothing is known by. -/
def handWritten : Table :=
  ⟨[⟨⟨3⟩, ⟨"u1", "Jane", "jane@example.com", "oauth", ⟨"mail.example.com", 66529, "", "jane", "?"⟩,
      ⟨"mail.example.com", -1, "STARTTLS", "jane", "?"⟩⟩⟩,
    ⟨⟨7⟩, ⟨"u2", "", "jane@elsewhere.org", "password", ⟨"", 0, "none", "", ""⟩,
      ⟨"", 0, "none", "", ""⟩⟩⟩], 7⟩

theorem handWritten_keyed : handWritten.Keyed := by decide

theorem Keyed.delete (keyed : t.Keyed) : (t.delete userId id).Keyed :=
  keyed.sublist (List.filter_sublist.map Row.id)

/-- No statement makes two rows of one id. -/
theorem Keyed.execute (keyed : t.Keyed) (s : Statement) : (t.execute s).2.Keyed := by
  cases s with
  | findByAddress userId email => exact keyed
  | findById userId id => exact keyed
  | save a =>
    cases saved : t.save a with
    | error e => rw [Table.execute, saved]; exact keyed
    | ok written =>
      obtain ⟨b, after⟩ := written
      obtain ⟨id, -, gains⟩ := gains_of_save_eq_ok saved
      rw [Table.execute, saved]
      exact gains.keyed keyed
  | update a =>
    cases updated : t.update a with
    | error e => rw [Table.execute, updated]; exact keyed
    | ok written =>
      obtain ⟨b, after⟩ := written
      obtain ⟨_, -, -, rfl, ⟨r, member, rfl, -⟩, -⟩ := of_update_eq_ok updated
      rw [Table.execute, updated]
      exact (keyed.exchanges member).keyed rfl keyed
  | delete userId id => exact keyed.delete

end Table

end MailboxKeeper.Store
