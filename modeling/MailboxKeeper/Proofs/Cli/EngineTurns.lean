import MailboxKeeper.Proofs.Cli.SetUp
import MailboxKeeper.Proofs.Engine.Turns

/-!
# The engine on a machine

When the engine works for the program, its calls are answered by questions to the host. On a machine
with an open database these answers are such as the engine can hear: the table of the database
answers for itself, or fails because it must not be written to. So an operation takes turns that it
can take (`Machine.takes`), and what holds of all of them holds of the program.
-/

namespace MailboxKeeper.Cli

open Dialogue (confined_ask confined_done)
open Engine Store

variable {α : Type} {machine : Machine}

namespace Machine

/-! ## The table -/

theorem table_withTable (isOpen : IsOpen machine) (t : Table) :
    (machine.withTable t).table = t := by
  unfold withTable
  cases kept : machine.database.path with
  | none => simp only [table, kept, Option.bind_none]
  | some path =>
    have named : path.isEmpty = false := by
      rw [← Bool.not_eq_true, String.isEmpty_iff]
      rintro rfl
      exact isOpen kept
    simp [table, kept, Disk.node?, named]

theorem isOpen_withTable (isOpen : IsOpen machine) (t : Table) :
    IsOpen (machine.withTable t) := by
  unfold withTable
  split
  · exact isOpen
  · exact isOpen

/-- A table that must not be written to answers for itself or fails. -/
theorem hears_executeReadOnly (t : Table) (statement : Statement) :
    Hears t ⟨.table statement, t.executeReadOnly statement⟩ t := by
  cases statement with
  | findByAddress userId email => exact .executed (.findByAddress userId email)
  | findById userId id => exact .executed (.findById userId id)
  | save account => exact .failed (.save account) _
  | delete userId id => exact .failed (.delete userId id) _
  | update account =>
    cases unsaved : account.id with
    | some id =>
      have refused : t.executeReadOnly (.update account) = .error (.database .readOnly) := by
        simp only [Table.executeReadOnly, unsaved]
        rfl
      rw [refused]
      exact .failed (.update account) _
    | none =>
      have unfound : t.executeReadOnly (.update account)
          = .error (.accountNotFound s!"{account.email} (unsaved)") := by
        simp only [Table.executeReadOnly, unsaved, Table.execute, Table.update]
        rfl
      rw [unfound]
      exact .failed (.update account) _

theorem hears_execute (isOpen : IsOpen machine) (statement : Statement) :
    Hears machine.table ⟨.table statement, (machine.execute statement).1⟩
        (machine.execute statement).2.table ∧ IsOpen (machine.execute statement).2 := by
  unfold execute
  split
  · refine ⟨?_, isOpen_withTable isOpen _⟩
    show Hears _ _ (machine.withTable _).table
    rw [table_withTable isOpen]
    exact .executed statement
  · exact ⟨hears_executeReadOnly machine.table statement, isOpen⟩

end Machine

/-! ## The service -/

/-- Is it a request that is sent? -/
def Query.isRequest : Query → Bool
  | .send _ => true
  | _ => false

/-- A part of the program that only sends requests and cannot fail. -/
abbrev OnlySends (p : Program α) : Prop :=
  p.Confined (fun q => q.isRequest = true) fun _ => False

/-- A request to the host. -/
abbrev send (request : Http.Request) : Program Http.Reply := .ask (.send request) .done

theorem onlySends_send (request : Http.Request) : OnlySends (send request) :=
  confined_ask rfl confined_done

theorem onlySends_perform (made : Except Provisioning.Error (Provisioning.Exchange α)) :
    OnlySends (Provisioning.perform send made) := by
  cases made with
  | error e => exact confined_done _
  | ok exchange =>
    show OnlySends (exchange.perform send)
    unfold Provisioning.Exchange.perform
    split
    · exact (onlySends_send _).bind fun _ => confined_done _
    · exact confined_done _

theorem onlySends_call (c : Provisioning.Config) (call : Provisioning.Call) :
    OnlySends (call.perform send c) := by
  cases call with
  | create | get | delete | resetPassword =>
    exact (onlySends_perform _).bind fun _ => confined_done _

namespace Machine

/-- The two machines have the same database open, with the same disk. -/
def SameDatabase (machine after : Machine) : Prop :=
  after.disk = machine.disk ∧ after.database = machine.database

theorem SameDatabase.refl (machine : Machine) : SameDatabase machine machine := ⟨rfl, rfl⟩

theorem SameDatabase.trans {m m' m'' : Machine} (first : SameDatabase m m')
    (second : SameDatabase m' m'') : SameDatabase m m'' :=
  ⟨second.1.trans first.1, second.2.trans first.2⟩

theorem sameDatabase_step {q : Query} (sent : q.isRequest = true) (machine : Machine) :
    SameDatabase machine (machine.step q).2 := by
  cases q with
  | send request => exact ⟨rfl, rfl⟩
  | readFile | readLine | makeParent | openDatabase | table | secret => cases sent

/-- Requests are answered, and leave the database alone. -/
theorem runFrom_of_onlySends {p : Program α} (sends : OnlySends p) (machine : Machine) :
    ∃ a after, p.runFrom host machine = (.ok a, after) ∧ SameDatabase machine after := by
  have kept : SameDatabase machine (p.runFrom host machine).2 :=
    sends.asks.runFrom SameDatabase.refl SameDatabase.trans
      (fun _ machine sent => sameDatabase_step sent machine) machine
  cases ran : p.runFrom host machine with
  | mk result after =>
    rw [ran] at kept
    cases result with
    | ok a => exact ⟨a, after, rfl, kept⟩
    | error failure => exact (sends.fails.of_runFrom ran).elim

/-! ## Operations -/

/-- What the engine hears of a call on a machine. -/
theorem hears (isOpen : IsOpen machine) (c : Provisioning.Config) (key : Credential.MasterKey)
    (call : Call) :
    ∃ answer after, (Cli.answer c key call).runFrom host machine = (.ok answer, after) ∧
      Hears machine.table ⟨call, answer⟩ after.table ∧ IsOpen after := by
  cases call with
  | table statement => exact ⟨_, _, rfl, hears_execute isOpen statement⟩
  | encrypt plaintext => exact ⟨_, _, rfl, .encrypt plaintext _, isOpen⟩
  | service call =>
    obtain ⟨answer, after, ran, disk, database⟩ :=
      runFrom_of_onlySends (onlySends_call c call) machine
    refine ⟨answer, after, ran, ?_, ?_⟩
    · have same : after.table = machine.table := by rw [table, table, disk, database]
      rw [same]
      exact .service call answer
    · rw [IsOpen, database]
      exact isOpen

/-- On a machine with an open database, an operation takes turns that it can take. -/
theorem takes (isOpen : IsOpen machine) (c : Provisioning.Config) (key : Credential.MasterKey)
    (op : Operation α) :
    ∃ turns result after,
      (op.run (answer c key)).runFrom host machine = (.ok result, after) ∧
      Takes op machine.table turns result after.table := by
  induction op generalizing machine with
  | done a => exact ⟨[], _, machine, rfl, .done a _⟩
  | fail fault => exact ⟨[], _, machine, rfl, .fail fault _⟩
  | ask call next ih =>
    obtain ⟨said, middle, ran, heard, stillOpen⟩ := hears isOpen c key call
    obtain ⟨turns, result, after, rest, takes⟩ := ih said stillOpen
    refine ⟨⟨call, said⟩ :: turns, result, after, ?_, .ask heard takes⟩
    show ((answer c key call) >>= fun said => (next said).run (answer c key)).runFrom host machine
      = _
    rw [Dialogue.runFrom_bind, ran]
    exact rest

end Machine

end MailboxKeeper.Cli
