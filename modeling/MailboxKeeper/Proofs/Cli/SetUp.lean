import MailboxKeeper.Cli.Machine
import MailboxKeeper.Proofs.Dialogue

/-!
# Setting up

Before the engine is let to work, the program reads its settings, gathers secrets and opens the
database. On a machine that changes no row that is kept anywhere and sends nothing, whether it
succeeds or not (`Untouched`); it only fails with a reason for which nothing is printed, and if it
succeeds, a database is open.
-/

namespace MailboxKeeper

/-! ## Rows on a disk -/

namespace Disk

/-- The rows of what lies at a place. -/
def Node.rows : Option Node → List Store.Row
  | some (.database table) => table.rows
  | _ => []

/-- The rows that are kept at a path. -/
def rowsAt (d : Disk) (path : String) : List Store.Row := Node.rows (d.node? path)

/-- The two disks keep the same rows everywhere. -/
def SameRows (d d' : Disk) : Prop := ∀ path, d'.rowsAt path = d.rowsAt path

theorem SameRows.refl (d : Disk) : SameRows d d := fun _ => rfl

theorem SameRows.trans {d d' d'' : Disk} (first : SameRows d d') (second : SameRows d' d'') :
    SameRows d d'' :=
  fun path => (second path).trans (first path)

/-- Where no row is kept, something without rows can be put. -/
theorem sameRows_put {d : Disk} {path : String} {node : Node} (none : d.rowsAt path = [])
    (rowless : Node.rows (some node) = []) : SameRows d (d.put path node) := by
  intro other
  unfold rowsAt node? at *
  split
  · rfl
  · rename_i named
    by_cases same : other = path
    · subst same
      rw [if_neg named] at none
      rw [NameMap.get?_put_self, none, rowless]
    · rw [NameMap.get?_put_of_ne same]

theorem rowsAt_of_node? {d : Disk} {path : String} {node : Option Node}
    (there : d.node? path = node) : d.rowsAt path = Node.rows node := by
  rw [rowsAt, there]

theorem sameRows_makeWay {d d' : Disk} {names rest : List String}
    (made : d.makeWay names rest = some d') : SameRows d d' := by
  induction rest generalizing d names with
  | nil =>
    cases made
    exact .refl _
  | cons name rest ih =>
    rw [makeWay] at made
    split at made
    · exact ih made
    · split at made
      · exact ih made
      · cases made
      · rename_i free
        split at made
        · exact (sameRows_put (rowsAt_of_node? free) rfl).trans (ih made)
        · cases made

theorem sameRows_makeTable {d : Disk} {path : String} (access : Database.Access)
    (none : d.rowsAt path = []) : SameRows d (d.makeTable path access).2 := by
  unfold makeTable
  split
  · exact .refl d
  · split
    · exact sameRows_put none rfl
    · exact .refl d

theorem sameRows_openDatabase (d : Disk) (path : String) (access : Database.Access) :
    SameRows d (d.openDatabase path access).2 := by
  unfold openDatabase
  split
  · exact .refl d
  · exact .refl d
  · rename_i there
    split
    · exact sameRows_makeTable access (rowsAt_of_node? there)
    · exact .refl d
  · rename_i free
    split
    · have emptied : SameRows d (d.put path (.file [])) :=
        sameRows_put (rowsAt_of_node? free) rfl
      refine emptied.trans (sameRows_makeTable access ?_)
      rw [emptied, rowsAt_of_node? free]
      rfl
    · exact .refl d

theorem sameRows_openLocation (d : Disk) (workingDirectory : String)
    (location : Database.Location) : SameRows d (d.openLocation workingDirectory location).2 := by
  unfold openLocation
  split
  · exact .refl d
  · split
    · exact sameRows_openDatabase d _ _
    · exact .refl d

theorem sameRows_openNamed (d : Disk) (workingDirectory text : String) :
    SameRows d (d.openNamed workingDirectory text).2 := by
  unfold openNamed
  split
  · exact sameRows_openLocation d workingDirectory _
  · exact .refl d

/-- No database is kept at the root. -/
theorem path_ne_root_of_openNamed {d d' : Disk} {workingDirectory text : String}
    {opening : Opening} (opened : d.openNamed workingDirectory text = (.ok opening, d')) :
    opening.path ≠ some "" := by
  unfold openNamed at opened
  split at opened
  · unfold openLocation at opened
    split at opened
    · cases opened
      nofun
    · rename_i access _
      split at opened
      · rename_i path located
        cases found : d.openDatabase path access with
        | mk table disk =>
          rw [found] at opened
          cases table with
          | error e => cases opened
          | ok table =>
            cases opened
            intro root
            cases root
            -- The root is a directory.
            cases found
      · cases opened
  · cases opened

end Disk

namespace Cli

open Dialogue (confined_ask confined_done)

variable {α ε : Type}

/-! ## The parts of the set-up -/

/-- Is it a question that is asked before the engine is let to work? -/
def Query.isPreparatory : Query → Bool
  | .readFile _ | .makeParent _ | .openDatabase _ | .secret _ => true
  | _ => false

/-- Is it the reason why the program could not be set up? -/
def Failure.isSetup : Failure → Bool
  | .setup _ => true
  | .fault _ => false

/-- A part of the set-up: whatever it is answered, it asks and fails like one. -/
abbrev Prepares (p : Program α) : Prop :=
  p.Confined (fun q => q.isPreparatory = true) fun failure => failure.isSetup = true

theorem prepares_setup (reason : String) : Prepares (.fail (.setup reason) : Program α) :=
  ⟨trivial, rfl⟩

theorem prepares_orSetup (reason : ε → String) (a : Except ε α) : Prepares (orSetup reason a) := by
  cases a with
  | ok a => exact confined_done a
  | error e => exact prepares_setup (reason e)

theorem prepares_secrets (operation : Credential.Keychain.Operation α) :
    Prepares (secrets operation) := by
  refine Dialogue.Confined.bind ?_ fun outcome => prepares_orSetup _ outcome
  refine .within ?_ operation
  exact fun access => confined_ask rfl fun _ => confined_done _

theorem prepares_loadSettings (env : Environment) (file : Option String) :
    Prepares (loadSettings env file) := by
  refine Dialogue.Confined.bind (confined_ask rfl ?_) fun settings => confined_done _
  intro content
  cases content with
  | missing => exact confined_done _
  | unreadable => exact prepares_setup _
  | bytes content => exact prepares_orSetup _ _

theorem prepares_apiPassword (s : Settings) (provider : String) :
    Prepares (apiPassword s provider) := by
  unfold apiPassword
  split
  · exact confined_done _
  · refine (prepares_secrets _).bind ?_
    intro password
    cases password with
    | none => exact prepares_setup _
    | some password => exact confined_done _

theorem prepares_clientConfig (s : Settings) (password : String) :
    Prepares (clientConfig s password) :=
  (prepares_orSetup _ _).bind fun _ => confined_done _

theorem prepares_openDatabase (path : String) : Prepares (openDatabase path) := by
  refine Dialogue.Confined.bind (confined_ask rfl confined_done) ?_
  intro made
  cases made with
  | false => exact prepares_setup _
  | true => exact confined_ask rfl fun answer => prepares_orSetup _ answer

theorem prepares_masterKey (s : Settings) (provider : String) :
    Prepares (masterKey s provider) := by
  unfold masterKey
  split
  · exact prepares_orSetup _ _
  · exact (prepares_secrets _).bind fun text => prepares_orSetup _ _

/-! ## The set-up -/

/-- Sets the program up: what the client of the service is configured with, and the key for
passwords. -/
def setUp (env : Environment) (config : Option String) (provider : String) :
    Program (Provisioning.Config × Credential.MasterKey) := do
  let settings ← loadSettings env config
  let password ← apiPassword settings provider
  let c ← clientConfig settings password
  openDatabase (settings.databasePath env)
  let key ← masterKey settings provider
  return (c, key)

/-- First the program is set up, then the engine carries out the command. -/
theorem perform_eq (env : Environment) (config : Option String) (provider : String)
    (command : Command) :
    perform env config provider command = setUp env config provider >>= fun (c, key) =>
      engine c key (operation c.domain command) := by
  have found (c : Provisioning.Config) :=
    Registry.find_add [] ⟨provider, c.domain⟩
  simp only [perform, setUp, bind_assoc, pure_bind, found]

theorem prepares_setUp (env : Environment) (config : Option String) (provider : String) :
    Prepares (setUp env config provider) :=
  (prepares_loadSettings env config).bind fun settings =>
    (prepares_apiPassword settings provider).bind fun password =>
      (prepares_clientConfig settings password).bind fun _ =>
        (prepares_openDatabase _).bind fun _ =>
          (prepares_masterKey settings provider).bind fun _ => confined_done _

/-! ## On a machine -/

namespace Machine

/-- Since the first machine was there, nothing was sent and no row has changed that is kept. -/
structure Untouched (machine after : Machine) : Prop where
  requests : after.requests = machine.requests
  rows : Disk.SameRows machine.disk after.disk

theorem Untouched.refl (machine : Machine) : Untouched machine machine := ⟨rfl, .refl _⟩

theorem Untouched.trans {m m' m'' : Machine} (first : Untouched m m') (second : Untouched m' m'') :
    Untouched m m'' :=
  ⟨second.requests.trans first.requests, first.rows.trans second.rows⟩

/-- A question to the keyring, or for random bytes, changes nothing else. -/
theorem access_eq (machine : Machine) (a : Credential.Keychain.Access) :
    ∃ keyring source, (machine.access a).2 = { machine with keyring, source } := by
  cases a with
  | randomBytes count => exact ⟨_, _, rfl⟩
  | openEntry key | read key | write key secret =>
    simp only [access]
    split <;> exact ⟨_, _, rfl⟩
  | erase key =>
    simp only [access]
    split
    · exact ⟨_, _, rfl⟩
    · split <;> exact ⟨_, _, rfl⟩

theorem untouched_step {q : Query} (preparatory : q.isPreparatory = true) (machine : Machine) :
    Untouched machine (machine.step q).2 := by
  cases q with
  | readFile path => exact .refl machine
  | makeParent path =>
    show Untouched machine (machine.makeParent path).2
    unfold Machine.makeParent
    split
    · rename_i made
      exact ⟨rfl, Disk.sameRows_makeWay made⟩
    · exact .refl machine
  | openDatabase location =>
    show Untouched machine (machine.openDatabase location).2
    have rows := Disk.sameRows_openNamed machine.disk machine.workingDirectory location
    unfold Machine.openDatabase
    split
    · rename_i opened
      rw [opened] at rows
      exact ⟨rfl, rows⟩
    · rename_i refused
      rw [refused] at rows
      exact ⟨rfl, rows⟩
  | secret a =>
    obtain ⟨keyring, source, same⟩ := machine.access_eq a
    show Untouched machine (machine.access a).2
    rw [same]
    exact ⟨rfl, .refl _⟩
  | readLine | table | send => cases preparatory

/-- Preparing touches nothing. -/
theorem untouched_of_prepares {p : Program α} (prepares : Prepares p) (machine : Machine) :
    Untouched machine (p.runFrom host machine).2 :=
  prepares.asks.runFrom Untouched.refl Untouched.trans
    (fun _ machine preparatory => untouched_step preparatory machine) machine

/-- A database is open, and it is not kept at the root. -/
def IsOpen (machine : Machine) : Prop := machine.database.path ≠ some ""

theorem isOpen_openDatabase (machine : Machine) (location : String) :
    ((machine.openDatabase location).1 = .ok () → IsOpen (machine.openDatabase location).2) ∧
      (IsOpen machine → IsOpen (machine.openDatabase location).2) := by
  unfold Machine.openDatabase
  split
  · rename_i opened
    exact ⟨fun _ => Disk.path_ne_root_of_openNamed opened,
      fun _ => Disk.path_ne_root_of_openNamed opened⟩
  · exact ⟨nofun, id⟩

theorem isOpen_step {q : Query} (preparatory : q.isPreparatory = true) (machine : Machine)
    (isOpen : IsOpen machine) : IsOpen (machine.step q).2 := by
  cases q with
  | readFile path => exact isOpen
  | makeParent path =>
    show IsOpen (machine.makeParent path).2
    unfold Machine.makeParent
    split <;> exact isOpen
  | openDatabase location => exact (machine.isOpen_openDatabase location).2 isOpen
  | secret a =>
    obtain ⟨keyring, source, same⟩ := machine.access_eq a
    show IsOpen (machine.access a).2
    rw [same]
    exact isOpen
  | readLine | table | send => cases preparatory

/-- A part of the set-up leaves the database open. -/
theorem isOpen_of_prepares {p : Program α} (prepares : Prepares p) (machine : Machine)
    (isOpen : IsOpen machine) : IsOpen (p.runFrom host machine).2 :=
  prepares.asks.runFrom (R := fun machine after => IsOpen machine → IsOpen after) (fun _ => id)
    (fun first second isOpen => second (first isOpen))
    (fun _ machine preparatory => isOpen_step preparatory machine) machine isOpen

theorem ends_openDatabase (path : String) (machine : Machine) :
    (Cli.openDatabase path).Ends host machine fun result after =>
      ∀ u, result = .ok u → IsOpen after := by
  refine .bind_ok ?_
  intro made ready
  cases made with
  | false => exact nofun
  | true =>
    show (orSetup (fun e => Store.Error.message (.database e)) (ready.openDatabase path).1).Ends
      host (ready.openDatabase path).2 fun result after => ∀ u, result = .ok u → IsOpen after
    have isOpen := (ready.isOpen_openDatabase path).1
    cases answer : (ready.openDatabase path).1 with
    | error e => exact nofun
    | ok u => exact fun _ _ => isOpen answer

/-- When the program is set up, a database is open. -/
theorem ends_setUp (env : Environment) (config : Option String) (provider : String)
    (machine : Machine) :
    (setUp env config provider).Ends host machine fun result after =>
      ∀ made, result = .ok made → IsOpen after := by
  unfold setUp
  refine .bind_ok fun settings _ => .bind_ok fun password _ => .bind_ok fun c ready => ?_
  refine (ends_openDatabase _ ready).bind ?_ fun _ _ _ _ => nofun
  intro u opened isOpen made _
  have prepares := (prepares_masterKey settings provider).bind fun key => confined_done (c, key)
  exact isOpen_of_prepares prepares opened (isOpen u rfl)

end Machine

end Cli

end MailboxKeeper
