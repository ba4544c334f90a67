import MailboxKeeper.Proofs.Store.Table
import Mathlib.Data.Finmap

/-!
# The account table as a map

A ledger is a finite map from ids to accounts: no columns, no order of rows, no texts that stand
for something else. `Performs` says what each statement is answered by when a ledger is all there
is, and which ledger it leaves. The accounts that a table is read as are such a ledger, and every
sequence of statements about an empty table goes as it would go about the empty ledger
(`runAll_performs`), for as long as there are ids to give out.
-/

namespace MailboxKeeper.Store

/-- The accounts of all users, by their ids. -/
abbrev Ledger := Finmap fun _ : AccountId => Account

/-- Does the statement ask for a new id? -/
def Statement.givesId : Statement → Bool
  | save _ => true
  | _ => false

namespace Ledger

variable {m m' : Ledger} {a b : Account} {id : AccountId} {userId email : String}

/-- The account has that id and belongs to the user. -/
def Owns (m : Ledger) (userId : String) (id : AccountId) (a : Account) : Prop :=
  m.lookup id = some a ∧ a.userId = userId

/-- The account has that id, belongs to the user and stands at the address. -/
def Stands (m : Ledger) (userId email : String) (id : AccountId) (a : Account) : Prop :=
  m.Owns userId id a ∧ sameAddress a.email email = true

/-- A new account gets an id that no other has, unless its user is at the address already. -/
def Saves (m : Ledger) (a : Account) (answer : Except Error Account) (m' : Ledger) : Prop :=
  ((∃ id b, m.Stands a.userId a.email id b) →
    answer = .error (.database .duplicateAddress) ∧ m' = m) ∧
  ((¬∃ id b, m.Stands a.userId a.email id b) →
    ∃ id ∉ m, answer = .ok { a with id := some id } ∧ m' = m.insert id { a with id := some id })

/-- An account takes the place of the user's account with its id, unless there is none or another
account of the user is at the address. -/
def Updates (m : Ledger) (a : Account) (answer : Except Error Account) (m' : Ledger) : Prop :=
  match a.id with
  | none => answer = .error (.accountNotFound s!"{a.email} (unsaved)") ∧ m' = m
  | some id =>
    ((¬∃ b, m.Owns a.userId id b) → answer = .error (.accountNotFound id.text) ∧ m' = m) ∧
    ((∃ b, m.Owns a.userId id b) →
      ((∃ other b, other ≠ id ∧ m.Stands a.userId a.email other b) →
        answer = .error (.database .duplicateAddress) ∧ m' = m) ∧
      ((¬∃ other b, other ≠ id ∧ m.Stands a.userId a.email other b) →
        answer = .ok a ∧ m' = m.insert id a))

/-- The user's account with an id goes, if there is one. -/
def Deletes (m : Ledger) (userId : String) (id : AccountId) (m' : Ledger) : Prop :=
  ((∃ a, m.Owns userId id a) → m' = m.erase id) ∧ ((¬∃ a, m.Owns userId id a) → m' = m)

/-- The answer that a statement gets from a ledger, and the ledger after it. -/
def Performs (m : Ledger) : (s : Statement) → s.Answer → Ledger → Prop
  | .findById userId id, answer, m' =>
    (∃ found, answer = .ok found ∧ ∀ a, found = some a ↔ m.Owns userId id a) ∧ m' = m
  | .findByAddress userId email, answer, m' =>
    (∃ found, answer = .ok found ∧ ∀ a, found = some a ↔ ∃ id, m.Stands userId email id a) ∧ m' = m
  | .save a, answer, m' => m.Saves a answer m'
  | .update a, answer, m' => m.Updates a answer m'
  | .delete userId id, answer, m' => answer = .ok () ∧ m.Deletes userId id m'

/-- No user has two accounts at one address. -/
def Separate (m : Ledger) : Prop :=
  ∀ userId email id a id' a',
    m.Stands userId email id a → m.Stands userId email id' a' → id = id' ∧ a = a'

/-- A statement and what it was answered by. -/
abbrev Exchange := Σ s : Statement, s.Answer

/-- Statements about a ledger, one after the other, and the ledger after all of them. -/
inductive Runs : Ledger → List Exchange → Ledger → Prop
  | nil (m : Ledger) : Runs m [] m
  | cons {m m' m'' : Ledger} {s : Statement} {answer : s.Answer} {rest : List Exchange}
      (performs : m.Performs s answer m') (runs : Runs m' rest m'') :
      Runs m (⟨s, answer⟩ :: rest) m''

/-- The id that a statement gave out. -/
def Exchange.given? : Exchange → Option AccountId
  | ⟨.save _, .ok a⟩ => Account.id a
  | _ => none

end Ledger

namespace Table

variable {t t' : Table} {a b : Account} {id : AccountId} {userId email : String}

/-- The accounts that the rows are read as. -/
def ledger (t : Table) : Ledger := (t.rows.map fun r => ⟨r.id, r.toAccount⟩).toFinmap

theorem Sound.lookup_ledger (sound : t.Sound) :
    t.ledger.lookup id = some a ↔ ∃ r ∈ t.rows, r.id = id ∧ r.toAccount = a := by
  have distinct :
      (t.rows.map fun r => (⟨r.id, r.toAccount⟩ : Σ _ : AccountId, Account)).NodupKeys := by
    rw [List.nodupKeys_iff_pairwise]
    refine List.pairwise_map.2 (sound.ascending.imp ?_)
    intro r s less same
    exact Int64.lt_irrefl (congrArg AccountId.value same ▸ less)
  rw [ledger, Finmap.dlookup_list_toFinmap, ← Option.mem_def, List.mem_dlookup_iff distinct]
  simp

theorem Sound.mem_ledger (sound : t.Sound) : id ∈ t.ledger ↔ ∃ r ∈ t.rows, r.id = id := by
  rw [Finmap.mem_iff]
  simp [sound.lookup_ledger]

/-- A row belongs to the user of the account that it is read as. -/
theorem Sound.owns_iff (sound : t.Sound) : t.ledger.Owns userId id a ↔
    ∃ r ∈ t.rows, (r.id = id ∧ r.entry.userId = userId) ∧ r.toAccount = a := by
  rw [Ledger.Owns, sound.lookup_ledger]
  constructor
  · rintro ⟨⟨r, member, same, rfl⟩, owner⟩
    exact ⟨r, member, ⟨same, owner⟩, rfl⟩
  · rintro ⟨r, member, ⟨same, owner⟩, rfl⟩
    exact ⟨⟨r, member, same, rfl⟩, owner⟩

/-- A row stands at the address of the account that it is read as. -/
theorem Sound.stands_iff (sound : t.Sound) : t.ledger.Stands userId email id a ↔
    ∃ r ∈ t.rows, r.entry.isAt userId email = true ∧ r.id = id ∧ r.toAccount = a := by
  rw [Ledger.Stands, sound.owns_iff]
  constructor
  · rintro ⟨⟨r, member, ⟨same, owner⟩, rfl⟩, at_⟩
    exact ⟨r, member, Entry.isAt_iff.2 ⟨owner, at_⟩, same, rfl⟩
  · rintro ⟨r, member, at_, same, rfl⟩
    obtain ⟨owner, address⟩ := Entry.isAt_iff.1 at_
    exact ⟨⟨r, member, ⟨same, owner⟩, rfl⟩, address⟩

/-- Where one row is all that has changed, so is one account. -/
theorem Sound.ledger_eq_insert (sound : t.Sound) (sound' : t'.Sound)
    (rows : ∀ r, r ∈ t'.rows ↔ r = ⟨id, .ofAccount a⟩ ∨ r ∈ t.rows ∧ r.id ≠ id) :
    t'.ledger = t.ledger.insert id { a with id := some id } := by
  refine Finmap.ext_lookup fun other => Option.ext fun b => ?_
  rw [sound'.lookup_ledger]
  by_cases same : other = id
  · subst same
    rw [Finmap.lookup_insert, Option.some_inj]
    constructor
    · rintro ⟨r, member, same, rfl⟩
      rcases (rows r).1 member with rfl | ⟨-, apart⟩
      · exact (toAccount_ofAccount other a).symm
      · exact absurd same apart
    · rintro rfl
      exact ⟨_, (rows _).2 (.inl rfl), rfl, toAccount_ofAccount other a⟩
  · rw [Finmap.lookup_insert_of_ne _ same, sound.lookup_ledger]
    constructor
    · rintro ⟨r, member, rfl, rfl⟩
      rcases (rows r).1 member with rfl | ⟨old, -⟩
      · exact absurd rfl same
      · exact ⟨r, old, rfl, rfl⟩
    · rintro ⟨r, member, rfl, rfl⟩
      exact ⟨r, (rows r).2 (.inr ⟨member, same⟩), rfl, rfl⟩

/-! ## One statement -/

theorem Sound.separate_ledger (sound : t.Sound) : t.ledger.Separate := by
  intro userId email id a id' a' first second
  obtain ⟨r, member, at_, rfl, rfl⟩ := sound.stands_iff.1 first
  obtain ⟨s, member', at_', rfl, rfl⟩ := sound.stands_iff.1 second
  obtain ⟨owner, address⟩ := Entry.isAt_iff.1 at_
  obtain ⟨owner', address'⟩ := Entry.isAt_iff.1 at_'
  have both : s.entry.isAt r.entry.userId r.entry.email = true :=
    Entry.isAt_iff.2
      ⟨owner'.trans owner.symm, sameAddress_trans address' (sameAddress_symm address)⟩
  have one := sound.eq_of_isAt member member' both
  exact ⟨congrArg Row.id one, congrArg Row.toAccount one⟩

theorem Sound.findById_eq_some_iff (sound : t.Sound) :
    t.findById userId id = some a ↔ t.ledger.Owns userId id a := by
  rw [sound.owns_iff]
  constructor
  · intro found
    obtain ⟨r, member, same, owner, rfl⟩ := of_findById_eq_some found
    exact ⟨r, member, ⟨same, owner⟩, rfl⟩
  · rintro ⟨r, member, ⟨rfl, rfl⟩, rfl⟩
    exact sound.findById_of_mem member

theorem Sound.findByAddress_eq_some_iff (sound : t.Sound) :
    t.findByAddress userId email = some a ↔ ∃ id, t.ledger.Stands userId email id a := by
  constructor
  · intro found
    obtain ⟨r, member, at_, rfl⟩ := of_findByAddress_eq_some found
    exact ⟨r.id, sound.stands_iff.2 ⟨r, member, at_, rfl, rfl⟩⟩
  · rintro ⟨id, stands⟩
    obtain ⟨r, member, at_, -, -⟩ := sound.stands_iff.1 stands
    cases found : t.findByAddress userId email with
    | none => rw [findByAddress_eq_none_iff.1 found r member] at at_; cases at_
    | some b =>
      obtain ⟨s, member', at_', rfl⟩ := of_findByAddress_eq_some found
      have first := sound.stands_iff.2 ⟨s, member', at_', rfl, rfl⟩
      rw [(sound.separate_ledger _ _ _ _ _ _ first stands).2]

theorem Sound.performs_save (sound : t.Sound) (next : t.nextId? = some id) :
    t.ledger.Saves a (t.afterWrite (t.save a)).1 (t.afterWrite (t.save a)).2.ledger := by
  constructor
  · rintro ⟨other, b, stands⟩
    obtain ⟨r, member, at_, -, -⟩ := sound.stands_iff.1 stands
    rw [sound.save_of_taken next member at_]
    exact ⟨rfl, rfl⟩
  · intro nobody
    have free : ∀ r ∈ t.rows, r.entry.isAt a.userId a.email = false := by
      intro r member
      by_contra taken
      rw [Bool.not_eq_false] at taken
      exact nobody ⟨r.id, r.toAccount, sound.stands_iff.2 ⟨r, member, taken, rfl, rfl⟩⟩
    have fresh : ∀ r ∈ t.rows, r.id ≠ id := by
      rintro r member rfl
      exact Int64.lt_irrefl (sound.nextId?_beyond next r member)
    rw [sound.save_of_free next free]
    refine ⟨id, ?_, rfl, ?_⟩
    · rw [sound.mem_ledger]
      rintro ⟨r, member, same⟩
      exact fresh r member same
    · refine sound.ledger_eq_insert (sound.append (of_nextId?_eq_some next) free) fun r =>
        mem_append.trans ?_
      rw [or_comm]
      exact or_congr_right ⟨fun member => ⟨member, fresh r member⟩, And.left⟩

theorem Sound.performs_update (sound : t.Sound) :
    t.ledger.Updates a (t.afterWrite (t.update a)).1 (t.afterWrite (t.update a)).2.ledger := by
  unfold Ledger.Updates
  cases named : a.id with
  | none =>
    rw [update_of_unsaved named]
    exact ⟨rfl, rfl⟩
  | some id =>
    refine ⟨?_, ?_⟩
    · intro nobody
      have absent : ∀ r ∈ t.rows, ¬(r.id = id ∧ r.entry.userId = a.userId) :=
        fun r member mine => nobody ⟨r.toAccount, sound.owns_iff.2 ⟨r, member, mine, rfl⟩⟩
      rw [update_of_absent named absent]
      exact ⟨rfl, rfl⟩
    · rintro ⟨b, owns⟩
      obtain ⟨r, member, ⟨rfl, owner⟩, rfl⟩ := sound.owns_iff.1 owns
      refine ⟨?_, ?_⟩
      · rintro ⟨other, c, apart, stands⟩
        obtain ⟨s, member', at_, rfl, rfl⟩ := sound.stands_iff.1 stands
        rw [update_of_taken member named owner member' at_ apart]
        exact ⟨rfl, rfl⟩
      · intro nobody
        have free : ∀ s ∈ t.rows, s.entry.isAt a.userId a.email = true → s.id = r.id := by
          intro s member' at_
          by_contra apart
          exact nobody ⟨s.id, s.toAccount, apart, sound.stands_iff.2 ⟨s, member', at_, rfl, rfl⟩⟩
        rw [update_of_row member named owner free]
        refine ⟨rfl, ?_⟩
        have same : { a with id := some r.id } = a := by rw [← named]
        rw [← same]
        refine sound.ledger_eq_insert (sound.replace free) fun s => mem_replace.trans ?_
        exact or_congr_left ⟨And.left, fun new => ⟨new, r, member, rfl⟩⟩

theorem Sound.lookup_ledger_delete (sound : t.Sound) {other : AccountId} :
    (t.delete userId id).ledger.lookup other = some a
      ↔ t.ledger.lookup other = some a ∧ ¬(other = id ∧ a.userId = userId) := by
  have sound' : (t.delete userId id).Sound := sound.delete
  rw [sound'.lookup_ledger, sound.lookup_ledger]
  constructor
  · rintro ⟨r, left, rfl, rfl⟩
    obtain ⟨member, missed⟩ := mem_delete.1 left
    exact ⟨⟨r, member, rfl, rfl⟩, missed⟩
  · rintro ⟨⟨r, member, rfl, rfl⟩, missed⟩
    exact ⟨r, mem_delete.2 ⟨member, missed⟩, rfl, rfl⟩

theorem Sound.performs_delete (sound : t.Sound) :
    t.ledger.Deletes userId id (t.delete userId id).ledger := by
  constructor
  · rintro ⟨a, there, owner⟩
    refine Finmap.ext_lookup fun other => Option.ext fun b => ?_
    rw [sound.lookup_ledger_delete]
    by_cases same : other = id
    · rw [same, there, Finmap.lookup_erase]
      refine iff_of_false ?_ nofun
      rintro ⟨found, missed⟩
      cases found
      exact missed ⟨rfl, owner⟩
    · rw [Finmap.lookup_erase_ne same]
      exact and_iff_left fun mine => same mine.1
  · intro nobody
    refine Finmap.ext_lookup fun other => Option.ext fun b => ?_
    rw [sound.lookup_ledger_delete]
    refine and_iff_left_of_imp ?_
    rintro found ⟨rfl, owner⟩
    exact nobody ⟨b, found, owner⟩

/-- A statement about a table goes as it would go about the accounts in it. -/
theorem Sound.performs (sound : t.Sound) (s : Statement)
    (remains : s.givesId = true → t.nextId?.isSome = true) :
    t.ledger.Performs s (t.execute s).1 (t.execute s).2.ledger := by
  cases s with
  | findById userId id => exact ⟨⟨_, rfl, fun a => sound.findById_eq_some_iff⟩, rfl⟩
  | findByAddress userId email => exact ⟨⟨_, rfl, fun a => sound.findByAddress_eq_some_iff⟩, rfl⟩
  | save a =>
    obtain ⟨id, next⟩ := Option.isSome_iff_exists.1 (remains rfl)
    exact sound.performs_save next
  | update a => exact sound.performs_update
  | delete userId id => exact ⟨rfl, sound.performs_delete⟩

/-! ## Sequences of statements -/

/-- Statements one after the other: their answers, and the table after all of them. -/
def runAll (t : Table) : List Statement → List Ledger.Exchange × Table
  | [] => ([], t)
  | s :: rest =>
    (⟨s, (t.execute s).1⟩ :: ((t.execute s).2.runAll rest).1, ((t.execute s).2.runAll rest).2)

/-- Does every account that is to be saved find an id that is left? -/
def IdsRemain (t : Table) : List Statement → Prop
  | [] => True
  | s :: rest =>
    (s.givesId = true → t.nextId?.isSome = true) ∧ (t.execute s).2.IdsRemain rest

variable {statements : List Statement}

@[simp] theorem map_fst_runAll (t : Table) (statements : List Statement) :
    (t.runAll statements).1.map Sigma.fst = statements := by
  induction statements generalizing t with
  | nil => rfl
  | cons s rest ih => exact congrArg (s :: ·) (ih _)

/-- Fewer statements than there are ids left do not use them up. -/
theorem idsRemain_of_length
    (room : t.lastId.toInt + statements.length ≤ Int64.maxValue.toInt) :
    t.IdsRemain statements := by
  induction statements generalizing t with
  | nil => trivial
  | cons s rest ih =>
    have one := t.lastId_execute_le s
    rw [List.length_cons] at room
    refine ⟨fun _ => ?_, ih (by omega)⟩
    have left : t.lastId ≠ Int64.maxValue := by
      intro last
      rw [last] at room
      omega
    rw [nextId?, if_neg left]
    rfl

theorem Sound.runs (sound : t.Sound) (remain : t.IdsRemain statements) :
    Ledger.Runs t.ledger (t.runAll statements).1 (t.runAll statements).2.ledger ∧
      (t.runAll statements).2.Sound := by
  induction statements generalizing t with
  | nil => exact ⟨.nil _, sound⟩
  | cons s rest ih =>
    obtain ⟨runs, after⟩ := ih (sound.execute s) remain.2
    exact ⟨.cons (sound.performs s remain.1) runs, after⟩

/-- Only a statement that gives out an id moves the last one, and it moves it to that id. -/
theorem given?_execute (t : Table) (s : Statement) :
    Ledger.Exchange.given? ⟨s, (t.execute s).1⟩ = none ∧ (t.execute s).2.lastId = t.lastId ∨
    ∃ id, Ledger.Exchange.given? ⟨s, (t.execute s).1⟩ = some id ∧ t.lastId < id.value ∧
      (t.execute s).2.lastId = id.value := by
  cases s with
  | findById userId id => exact .inl ⟨rfl, rfl⟩
  | findByAddress userId email => exact .inl ⟨rfl, rfl⟩
  | save a =>
    cases saved : t.save a with
    | error e => rw [execute, saved]; exact .inl ⟨rfl, rfl⟩
    | ok written =>
      obtain ⟨b, after⟩ := written
      obtain ⟨id, next, rfl, rfl⟩ := of_save_eq_ok saved
      rw [execute, saved]
      exact .inr ⟨id, rfl, of_nextId?_eq_some next, rfl⟩
  | update a =>
    cases updated : t.update a with
    | error e => rw [execute, updated]; exact .inl ⟨rfl, rfl⟩
    | ok written =>
      obtain ⟨b, after⟩ := written
      obtain ⟨id, -, -, rfl, -⟩ := of_update_eq_ok updated
      rw [execute, updated]
      exact .inl ⟨rfl, rfl⟩
  | delete userId id => exact .inl ⟨rfl, rfl⟩

/-- The ids that are given out ascend, and none was the last one before. -/
theorem given?_runAll (t : Table) (statements : List Statement) :
    (t.lastId :: ((t.runAll statements).1.filterMap Ledger.Exchange.given?).map
      AccountId.value).Pairwise (· < ·) := by
  induction statements generalizing t with
  | nil => exact List.pairwise_singleton ..
  | cons s rest ih =>
    have later := ih (t.execute s).2
    rw [runAll]
    rcases given?_execute t s with ⟨nothing, same⟩ | ⟨id, given, beyond, last⟩
    · rw [List.filterMap_cons_none nothing, ← same]
      exact later
    · rw [List.filterMap_cons_some given, List.map_cons, ← last]
      refine List.pairwise_cons.2 ⟨?_, later⟩
      intro value member
      rcases List.mem_cons.1 member with rfl | member
      · rw [last]; exact beyond
      · exact Int64.lt_trans (last ▸ beyond) ((List.pairwise_cons.1 later).1 value member)

/-- Whatever is asked of an empty table, while ids remain: every answer is the one that a map from
ids to accounts gives, which ends up with the accounts that the table is read as. No user ever has
two of them at one address, and no id is given out twice. -/
theorem runAll_performs (remain : empty.IdsRemain statements) :
    (empty.runAll statements).1.map Sigma.fst = statements ∧
      Ledger.Runs ∅ (empty.runAll statements).1 (empty.runAll statements).2.ledger ∧
      (empty.runAll statements).2.ledger.Separate ∧
      ((empty.runAll statements).1.filterMap Ledger.Exchange.given?).Pairwise
        (·.value < ·.value) := by
  obtain ⟨runs, sound⟩ := Sound.empty.runs remain
  refine ⟨map_fst_runAll empty statements, runs, sound.separate_ledger, ?_⟩
  exact List.pairwise_map.1 (List.pairwise_cons.1 (given?_runAll empty statements)).2

/-- Two accounts of a user: a second one at an address of the first is refused, then saved at
another, refused again when it is moved, and read after the first has gone. -/
def twoAccounts : List Statement :=
  [.save (.new "u1" "jane@example.com"), .save (.new "u1" "JANE@example.com"),
    .save (.new "u1" "john@example.com"),
    .update { Account.new "u1" "Jane@example.com" with id := some ⟨2⟩ },
    .update (.new "u1" "jane@example.com"), .delete "u1" ⟨1⟩, .findById "u1" ⟨1⟩,
    .findByAddress "u1" "John@Example.com"]

theorem runAll_performs_twoAccounts :
    empty.IdsRemain twoAccounts ∧
      Ledger.Runs ∅ (empty.runAll twoAccounts).1 (empty.runAll twoAccounts).2.ledger := by
  have remain : empty.IdsRemain twoAccounts := idsRemain_of_length (by decide)
  exact ⟨remain, (runAll_performs remain).2.1⟩

end Table

end MailboxKeeper.Store
