import MailboxKeeper.Proofs.Store.SingleRow
import Mathlib.Data.List.Induction

/-!
# Ids that come only once

The table counts the ids that it has seen (`Counts`). Rows come and go by the statements of the
program, and other programs may write rows straight into the table, under ids of their own choice
(`Event`). Whatever has happened, a row that is saved gets an id beyond all that any row ever had,
or none at all; and an id that a row once had denotes that row as long as it is there, and nothing
afterwards, unless a row is written under that very id by hand (`save_fresh`).
-/

namespace MailboxKeeper.Store

/-- What can happen to the account table. -/
inductive Event where
  | statement (s : Statement)
  /-- Another program writes a row, under an id of its choice or the next one. -/
  | byHand (id? : Option AccountId) (entry : Entry)
  deriving DecidableEq, Repr

/-- Is a row written by hand under that id? -/
def Event.Places (id : AccountId) : Event → Prop
  | byHand (some other) _ => other = id
  | _ => False

namespace Table

/-- The table after an event. What is refused leaves it as it was. -/
def happen (t : Table) : Event → Table
  | .statement s => (t.execute s).2
  | .byHand (some id) entry => (t.insertAt id entry).toOption.getD t
  | .byHand none entry => ((t.insert entry).toOption.map Prod.snd).getD t

/-- The table after events, one after the other. -/
def afterEvents (t : Table) (events : List Event) : Table := events.foldl happen t

/-- The id is that of a row, or has been at some time. -/
def Met (events : List Event) (id : AccountId) : Prop :=
  ∃ earlier, earlier <+: events ∧ ∃ r ∈ (empty.afterEvents earlier).rows, r.id = id

/-- What a table does at a request to save an account after those events, and what the ids of its
rows stand for. -/
structure SavesFresh (events : List Event) (a : Account) : Prop where
  /-- The id of a saved account is positive and beyond all ids that any row ever had. -/
  fresh : ∀ b, ((empty.afterEvents events).execute (.save a)).1 = .ok b → ∃ id, b.id = some id ∧
    ⟨id, .ofAccount a⟩ ∈ ((empty.afterEvents events).execute (.save a)).2.rows ∧
      0 < id.value ∧ ∀ old, Met events old → old.value < id.value
  /-- After the greatest id there is none. -/
  exhausted : (∃ old, Met events old ∧ old.value = Int64.maxValue) →
    ((empty.afterEvents events).execute (.save a)).1 = .error (.database .idsExhausted)
  /-- As long as there is one, it is given out, unless the user has a row at the address. -/
  granted : (¬∃ old, Met events old ∧ old.value = Int64.maxValue) →
    (∀ r ∈ (empty.afterEvents events).rows, r.entry.isAt a.userId a.email = false) →
      ∃ b, ((empty.afterEvents events).execute (.save a)).1 = .ok b
  /-- A refusal leaves the table as it was. -/
  refused : ∀ e, ((empty.afterEvents events).execute (.save a)).1 = .error e →
    ((empty.afterEvents events).execute (.save a)).2 = empty.afterEvents events
  /-- An id that a row has had stands for that row as long as the row is there, and then for none,
  unless a row is written by hand under that id. -/
  lasting : ∀ id, Met events id → ∀ later, (∀ event ∈ later, ¬event.Places id) →
    ∀ r ∈ ((empty.afterEvents events).afterEvents later).rows, r.id = id →
      ∃ old ∈ (empty.afterEvents events).rows, old.id = id ∧ old.entry.userId = r.entry.userId

/-! ## One event -/

variable {t t' : Table} {a b : Account} {id : AccountId} {entry : Entry} {event : Event}
variable {events : List Event} {row : Row}

/-- What an event can do to a table. -/
inductive Changes (t : Table) (event : Event) : Table → Prop where
  | kept : Changes t event t
  /-- A row has come under the next id, or under the one that it was written with. -/
  | gained {row : Row} {t' : Table} (gains : t.Gains row t')
      (named : t.nextId? = some row.id ∨ event.Places row.id) : Changes t event t'
  /-- A row of the same user has other contents. -/
  | rewritten {id : AccountId} {entry : Entry}
      (there : ∃ r ∈ t.rows, r.id = id ∧ r.entry.userId = entry.userId) :
      Changes t event (t.replace id entry)
  | removed (userId : String) (id : AccountId) : Changes t event (t.delete userId id)

theorem gains_of_insert_eq_ok (inserted : t.insert entry = .ok (id, t')) :
    t.nextId? = some id ∧ t.Gains ⟨id, entry⟩ t' := by
  unfold insert at inserted
  cases next : t.nextId? with
  | none => simp [next] at inserted
  | some other =>
    cases placed : t.insertAt other entry with
    | error e => simp [next, placed, Except.map] at inserted
    | ok after =>
      simp only [next, placed, Except.map, Except.ok.injEq, Prod.mk.injEq] at inserted
      obtain ⟨rfl, rfl⟩ := inserted
      exact ⟨rfl, gains_of_insertAt_eq_ok placed⟩

theorem changes_statement (t : Table) (s : Statement) :
    t.Changes (.statement s) (t.execute s).2 := by
  cases s with
  | findByAddress userId email => exact .kept
  | findById userId id => exact .kept
  | save a =>
    cases saved : t.save a with
    | error e => rw [execute, saved]; exact .kept
    | ok written =>
      obtain ⟨b, after⟩ := written
      rw [execute, saved]
      cases inserted : t.insert (.ofAccount a) with
      | error e => simp [save, inserted] at saved
      | ok given =>
        simp only [save, inserted, Except.ok.injEq, Prod.mk.injEq] at saved
        obtain ⟨next, gains⟩ := gains_of_insert_eq_ok inserted
        rw [← saved.2]
        exact .gained gains (.inl next)
  | update a =>
    cases updated : t.update a with
    | error e => rw [execute, updated]; exact .kept
    | ok written =>
      obtain ⟨b, after⟩ := written
      obtain ⟨id, -, -, rfl, there, -⟩ := of_update_eq_ok updated
      rw [execute, updated]
      exact .rewritten there
  | delete userId id => exact .removed userId id

theorem changes_happen (t : Table) (event : Event) : t.Changes event (t.happen event) := by
  cases event with
  | statement s => exact changes_statement t s
  | byHand id? entry =>
    cases id? with
    | some id =>
      rw [happen]
      cases inserted : t.insertAt id entry with
      | error e => exact .kept
      | ok after => exact .gained (gains_of_insertAt_eq_ok inserted) (.inr rfl)
    | none =>
      rw [happen]
      cases inserted : t.insert entry with
      | error e => exact .kept
      | ok given =>
        obtain ⟨next, gains⟩ := gains_of_insert_eq_ok inserted
        exact .gained gains (.inl next)

theorem Gains.mem_iff (gains : t.Gains row t') {r : Row} : r ∈ t'.rows ↔ r = row ∨ r ∈ t.rows := by
  obtain ⟨-, before, after, same, rfl⟩ := gains
  rw [same]
  simp only [List.mem_append, List.mem_cons]
  exact or_left_comm

/-- A new row moves the counter to its id, unless the counter is beyond it already. -/
theorem Gains.lastId (gains : t.Gains row t') :
    t'.lastId = row.id.value ∧ t.lastId ≤ row.id.value ∨
      t'.lastId = t.lastId ∧ row.id.value ≤ t.lastId := by
  obtain ⟨-, before, after, -, rfl⟩ := gains
  show max t.lastId row.id.value = _ ∧ _ ∨ max t.lastId row.id.value = _ ∧ _
  by_cases beyond : t.lastId ≤ row.id.value
  · exact .inl ⟨if_pos beyond, beyond⟩
  · exact .inr ⟨if_neg beyond, Int64.le_of_lt (Int64.not_le.1 beyond)⟩

namespace Changes

/-- A row that is there after an event was there before, for the same user, or has just come. -/
theorem origin (changes : t.Changes event t') {r : Row} (member : r ∈ t'.rows) :
    (∃ old ∈ t.rows, old.id = r.id ∧ old.entry.userId = r.entry.userId) ∨
      t.nextId? = some r.id ∨ event.Places r.id := by
  cases changes with
  | kept => exact .inl ⟨r, member, rfl, rfl⟩
  | gained gains named =>
    rcases gains.mem_iff.1 member with rfl | old
    · exact .inr named
    · exact .inl ⟨r, old, rfl, rfl⟩
  | rewritten there =>
    rcases mem_replace.1 member with ⟨rfl, -⟩ | ⟨old, -⟩
    · exact .inl there
    · exact .inl ⟨r, old, rfl, rfl⟩
  | removed userId id => exact .inl ⟨r, (mem_delete.1 member).1, rfl, rfl⟩

/-- The counter never goes back, and where it goes on it is at the id of a new row. -/
theorem lastId (changes : t.Changes event t') : t.lastId ≤ t'.lastId ∧
    (t'.lastId = t.lastId ∨ ∃ r ∈ t'.rows, r.id.value = t'.lastId) := by
  cases changes with
  | kept | rewritten | removed => exact ⟨Int64.le_refl _, .inl rfl⟩
  | gained gains =>
    rcases gains.lastId with ⟨moved, beyond⟩ | ⟨same, -⟩
    · exact ⟨moved ▸ beyond, .inr ⟨_, gains.mem_iff.2 (.inl rfl), moved.symm⟩⟩
    · exact ⟨same ▸ Int64.le_refl _, .inl same⟩

/-- What was counted stays counted, and so is what has come. -/
theorem bounded (changes : t.Changes event t') (bounded : ∀ r ∈ t.rows, r.id.value ≤ t.lastId) :
    ∀ r ∈ t'.rows, r.id.value ≤ t'.lastId := by
  intro r member
  cases changes with
  | kept => exact bounded r member
  | gained gains =>
    rcases gains.lastId with ⟨moved, beyond⟩ | ⟨same, within⟩ <;>
      rcases gains.mem_iff.1 member with rfl | old
    · exact moved ▸ Int64.le_refl _
    · exact moved ▸ Int64.le_trans (bounded r old) beyond
    · exact same ▸ within
    · exact same ▸ bounded r old
  | rewritten there =>
    rcases mem_replace.1 member with ⟨rfl, s, before, rfl⟩ | ⟨old, -⟩
    · exact bounded s before
    · exact bounded r old
  | removed userId id => exact bounded r (mem_delete.1 member).1

end Changes

/-! ## All events -/

theorem afterEvents_concat (t : Table) (events : List Event) (event : Event) :
    t.afterEvents (events ++ [event]) = (t.afterEvents events).happen event :=
  List.foldl_append ..

theorem met_concat : Met (events ++ [event]) id ↔
    Met events id ∨ ∃ r ∈ (empty.afterEvents (events ++ [event])).rows, r.id = id := by
  unfold Met
  simp only [List.prefix_concat_iff, or_and_right, exists_or, exists_eq_left]
  exact or_comm

/-- The counter of a table after events. -/
structure Counts (events : List Event) (t : Table) : Prop where
  nonnegative : 0 ≤ t.lastId
  bounded : ∀ r ∈ t.rows, r.id.value ≤ t.lastId
  met : ∀ id, Met events id → id.value ≤ t.lastId
  reached : t.lastId = 0 ∨ ∃ id, Met events id ∧ id.value = t.lastId

theorem counts_afterEvents (events : List Event) : Counts events (empty.afterEvents events) := by
  -- A history goes on at its end: what was met before stays met.
  induction events using List.reverseRecOn with
  | nil =>
    refine ⟨Int64.le_refl _, nofun, ?_, .inl rfl⟩
    rintro id ⟨earlier, start, r, member, -⟩
    rw [List.prefix_nil.1 start] at member
    cases member
  | append_singleton events event ih =>
    have changes := changes_happen (empty.afterEvents events) event
    rw [← afterEvents_concat] at changes
    obtain ⟨onward, moved⟩ := changes.lastId
    have bounded := changes.bounded ih.bounded
    refine ⟨Int64.le_trans ih.nonnegative onward, bounded, ?_, ?_⟩
    · intro id met
      rcases met_concat.1 met with earlier | ⟨r, member, rfl⟩
      · exact Int64.le_trans (ih.met id earlier) onward
      · exact bounded r member
    · rcases moved with same | ⟨r, member, last⟩
      · rw [same]
        refine ih.reached.imp_right ?_
        rintro ⟨id, met, last⟩
        exact ⟨id, met_concat.2 (.inl met), last⟩
      · exact .inr ⟨r.id, met_concat.2 (.inr ⟨r, member, rfl⟩), last⟩

theorem Counts.nextId?_eq_none_iff (counts : Counts events t) :
    t.nextId? = none ↔ ∃ old, Met events old ∧ old.value = Int64.maxValue := by
  have last : t.nextId? = none ↔ t.lastId = Int64.maxValue := by
    unfold nextId?
    split <;> simp_all
  rw [last]
  constructor
  · intro last
    rcases counts.reached with zero | ⟨id, met, same⟩
    · rw [zero] at last
      exact absurd last (by decide)
    · exact ⟨id, met, same.trans last⟩
  · rintro ⟨old, met, greatest⟩
    exact Int64.le_antisymm (Int64.le_maxValue _) (greatest ▸ counts.met old met)

theorem Counts.exists_save_of_free (counts : Counts events t) (next : t.nextId? = some id)
    (free : ∀ r ∈ t.rows, r.entry.isAt a.userId a.email = false) :
    ∃ written, t.save a = .ok written := by
  have fresh : t.rows.any (fun r => r.id == id) = false := by
    rw [List.any_eq_false]
    intro r member same
    have within := counts.bounded r member
    rw [eq_of_beq same] at within
    exact Int64.not_lt.2 within (of_nextId?_eq_some next)
  have place : t.isTaken (Entry.ofAccount a).userId (Entry.ofAccount a).email none = false :=
    isTaken_none_eq_false_iff.2 free
  rw [save, insert, next]
  simp only [insertAt, fresh, place]
  exact ⟨_, rfl⟩

/-- An id that the counter has reached comes back only by hand. -/
theorem exists_row_of_afterEvents (later : List Event) (counted : id.value ≤ t.lastId)
    (unplaced : ∀ event ∈ later, ¬event.Places id) :
    ∀ r ∈ (t.afterEvents later).rows, r.id = id →
      ∃ old ∈ t.rows, old.id = id ∧ old.entry.userId = r.entry.userId := by
  induction later generalizing t with
  | nil => exact fun r member same => ⟨r, member, same, rfl⟩
  | cons event later ih =>
    intro r member same
    have changes := changes_happen t event
    -- The counter only goes on, so the id stays counted and the rest of the history applies.
    obtain ⟨s, there, named, owner⟩ := ih (Int64.le_trans counted changes.lastId.1)
      (fun event member => unplaced event (List.mem_cons_of_mem _ member)) r member same
    rcases changes.origin there with ⟨old, before, same', owner'⟩ | next | places
    · exact ⟨old, before, same'.trans named, owner'.trans owner⟩
    · rw [named] at next
      exact absurd (of_nextId?_eq_some next) (Int64.not_lt.2 counted)
    · rw [named] at places
      exact absurd places (unplaced event List.mem_cons_self)

/-- Whatever has happened to the table, by statements or by hand, an id that a row ever had is not
given out again. -/
theorem save_fresh (events : List Event) (a : Account) : SavesFresh events a := by
  have counts := counts_afterEvents events
  refine ⟨?_, ?_, ?_, ?_, ?_⟩
  · intro b answered
    cases saved : (empty.afterEvents events).save a with
    | error e =>
      rw [execute, saved] at answered
      cases answered
    | ok written =>
      obtain ⟨c, after⟩ := written
      obtain ⟨id, next, rfl, rfl⟩ := of_save_eq_ok saved
      rw [execute, saved] at answered
      cases answered
      have beyond := of_nextId?_eq_some next
      refine ⟨id, rfl, ?_, Int64.lt_of_le_of_lt counts.nonnegative beyond, ?_⟩
      · rw [execute, saved]
        exact mem_insertRow.2 (.inl rfl)
      · intro old met
        exact Int64.lt_of_le_of_lt (counts.met old met) beyond
  · intro last
    rw [execute, save, insert, counts.nextId?_eq_none_iff.2 last]
    rfl
  · intro left free
    obtain ⟨id, next⟩ := Option.ne_none_iff_exists'.1 (mt counts.nextId?_eq_none_iff.1 left)
    obtain ⟨written, saved⟩ := counts.exists_save_of_free next free
    rw [execute, saved]
    exact ⟨written.1, rfl⟩
  · intro e answered
    cases saved : (empty.afterEvents events).save a with
    | error e => rw [execute, saved]; rfl
    | ok written =>
      rw [execute, saved] at answered
      cases answered
  · intro id met later unplaced
    exact exists_row_of_afterEvents later (counts.met id met) unplaced

/-- A row with a negative id does not move the counter. -/
example : (empty.afterEvents [.byHand (some ⟨-5⟩) (.ofAccount (.new "u1" "jane@example.com")),
    .statement (.save (.new "u1" "john@example.com"))]).rows.map Row.id = [⟨-5⟩, ⟨1⟩] := by
  decide

end Table

end MailboxKeeper.Store
