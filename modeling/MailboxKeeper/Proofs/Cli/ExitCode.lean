import MailboxKeeper.Proofs.Cli.EngineTurns
import MailboxKeeper.Proofs.Engine.Statuses

/-!
# What an exit code says

A run for which the program could not be set up prints nothing, ends with exit code 1 and has
touched nothing. Otherwise the engine has carried out the request of the command: one document is
printed, and the exit code tells whether the request succeeded, and if not, whether its fault is the
requester's to mend (`Tells`). For that the statuses of faults are all that matters, and they are
sound whoever the engine worked with.
-/

namespace MailboxKeeper.Cli

open Engine Store

variable {turns : List Turn} {command : Command} {q : Request} {fault : Fault}

/-! ## The request of a command -/

/-- What a command asks of the engine, unless it is about the keyring only. An account is shown
under its local part if no name is given. -/
def Command.request? : Command → Option Request
  | .create userId localPart displayName =>
    some (.create userId localPart (displayName.getD localPart))
  | .delete userId id => some (.delete userId id)
  | .resetPassword userId id => some (.resetPassword userId id)
  | .status userId localPart => some (.resolve userId localPart)
  | .setApiPassword _ => none

/-- The document that shows what a request has yielded. -/
def shown : (q : Request) → q.Result → Json
  | .create .., account => Account.toJson account
  | .resetPassword .., account => Account.toJson account
  | .resolve .., resolution => Resolution.toJson resolution
  | .delete _ id, outcome =>
    .object [("account_id", id.toJson), ("remote", .string (DeletionOutcome.name outcome))]

/-- The document that is printed of what a request has ended with. -/
def document (q : Request) : Except Fault q.Result → Json
  | .ok a => shown q a
  | .error fault => .object [("error", fault.toJson)]

/-- For a command the engine carries out its request, and shows what that yields. -/
theorem operation_of_request (domain : String) (asks : command.request? = some q) :
    operation domain command = q.operation domain >>= fun a => pure (shown q a) := by
  cases command with
  | create | delete | resetPassword | status =>
    cases asks
    rfl
  | setApiPassword => cases asks

theorem program_of_request {i : Invocation} (env : Environment)
    (asks : i.command.request? = some q) :
    i.program env = perform env i.config i.provider i.command := by
  obtain ⟨config, provider, command⟩ := i
  cases command with
  | create | delete | resetPassword | status => rfl
  | setApiPassword => cases asks

/-! ## Outcomes -/

/-- The outcome tells of what the request has ended with. -/
structure Tells (q : Request) (result : Except Fault q.Result) (outcome : Outcome) : Prop where
  output : outcome.output = some (document q result)
  success : outcome.exitCode = 0 ↔ ∃ a, result = .ok a
  requester : outcome.exitCode = 2 ↔
    ∃ fault, result = .error fault ∧ 400 ≤ fault.status ∧ fault.status ≤ 499
  failure : outcome.exitCode = 1 ↔
    ∃ fault, result = .error fault ∧ 500 ≤ fault.status ∧ fault.status ≤ 599

/-- The status of a sound fault is that of an error. -/
theorem bounds_of_isSound (sound : Fault.IsSound turns fault) :
    400 ≤ fault.status ∧ fault.status ≤ 599 :=
  (sound fault.toIncident List.mem_cons_self).bounds

theorem tells_ok (a : q.Result) : Tells q (.ok a) (Outcome.ofResult (.ok (shown q a))) where
  output := rfl
  success := ⟨fun _ => ⟨a, rfl⟩, fun _ => rfl⟩
  requester := ⟨nofun, nofun⟩
  failure := ⟨nofun, nofun⟩

theorem tells_error (bounds : 400 ≤ fault.status ∧ fault.status ≤ 599) :
    Tells q (.error fault) (Outcome.ofResult (.error (.fault fault))) := by
  obtain ⟨low, high⟩ := bounds
  have mends : fault.isClientError = true ↔ fault.status ≤ 499 := by
    simp only [Fault.isClientError, Bool.and_eq_true, decide_eq_true_eq]
    omega
  by_cases mendable : fault.status ≤ 499
  · have code : (Outcome.ofResult (.error (.fault fault))).exitCode = 2 :=
      if_pos (mends.2 mendable)
    refine ⟨rfl, ?_, ?_, ?_⟩
    · rw [code]
      exact ⟨nofun, nofun⟩
    · rw [code]
      exact ⟨fun _ => ⟨fault, rfl, low, mendable⟩, fun _ => rfl⟩
    · rw [code]
      refine ⟨nofun, ?_⟩
      rintro ⟨_, same, above, -⟩
      cases same
      omega
  · have code : (Outcome.ofResult (.error (.fault fault))).exitCode = 1 :=
      if_neg (mends.not.2 mendable)
    refine ⟨rfl, ?_, ?_, ?_⟩
    · rw [code]
      exact ⟨nofun, nofun⟩
    · rw [code]
      refine ⟨nofun, ?_⟩
      rintro ⟨_, same, -, below⟩
      cases same
      exact absurd below mendable
    · rw [code]
      exact ⟨fun _ => ⟨fault, rfl, by omega, high⟩, fun _ => rfl⟩

/-! ## The whole program -/

/-- With a database open, the engine works, and the outcome tells of it. -/
theorem Machine.tells {machine : Machine} (isOpen : machine.IsOpen) (c : Provisioning.Config)
    (key : Credential.MasterKey) (asks : command.request? = some q) :
    ∃ result after,
      ((q.operation c.domain).run (answer c key)).runFrom Machine.host machine
        = (.ok result, after) ∧
      (engine c key (operation c.domain command)).runFrom Machine.host machine
        = ((result.map (shown q)).mapError .fault, after) ∧
      Tells q result (Outcome.ofResult ((result.map (shown q)).mapError .fault)) := by
  obtain ⟨turns, result, after, ran, takes⟩ :=
    Machine.takes isOpen c key (q.operation c.domain)
  refine ⟨result, after, ran, ?_, ?_⟩
  · unfold engine
    rw [operation_of_request c.domain asks, Dialogue.run_bind, Dialogue.runFrom_bind,
      Dialogue.runFrom_bind, ran]
    cases result <;> rfl
  · cases result with
    | ok a => exact tells_ok a
    | error fault => exact tells_error (bounds_of_isSound (takes.isSound q))

/-- The program ends as the command does for which it was run. -/
theorem Machine.run_of_request (machine : Machine) (env : Environment) {arguments : List String}
    {i : Invocation} (given : Invocation.ofArguments arguments = .ok i)
    (asks : i.command.request? = some q) :
    machine.run env arguments
      = (Outcome.ofResult ((perform env i.config i.provider i.command).runFrom
          Machine.host machine).1,
        ((perform env i.config i.provider i.command).runFrom Machine.host machine).2) := by
  rw [← program_of_request env asks]
  unfold Machine.run Cli.run
  rw [given]
  rfl

/-- Whoever the engine works with, the fault of a request and all that led to it are sound. So it
goes with every command line that asks something of the engine, on any machine: either the program
cannot be set up, and then it has touched nothing, prints nothing and ends with exit code 1, or the
engine carries out what is asked, and the outcome tells of what that has ended with. -/
theorem faults_and_exits :
    (∀ {σ : Type} (k : Collaborators σ) (t : Table) (x : σ) (domain : String) (request : Request),
      (request.operation domain).Ends k.answer ⟨t, x, []⟩ fun result s =>
        ∀ fault, result = .error fault → Fault.IsSound s.transcript fault) ∧
    ∀ (machine : Machine) (env : Environment) (arguments : List String) (i : Invocation)
      (q : Request), Invocation.ofArguments arguments = .ok i → i.command.request? = some q →
        (∃ reason after,
          (setUp env i.config i.provider).runFrom Machine.host machine
            = (.error (.setup reason), after) ∧
          machine.Untouched after ∧ machine.run env arguments = (⟨1, none⟩, after)) ∨
        ∃ c key ready result outcome after,
          (setUp env i.config i.provider).runFrom Machine.host machine = (.ok (c, key), ready) ∧
          machine.Untouched ready ∧
          ((q.operation c.domain).run (answer c key)).runFrom Machine.host ready
            = (.ok result, after) ∧
          machine.run env arguments = (outcome, after) ∧ Tells q result outcome := by
  refine ⟨?_, ?_⟩
  · intro σ k t x domain request
    refine ends_of_takes_start ?_
    rintro result s takes fault rfl
    exact takes.isSound request
  · intro machine env arguments i q given asks
    have whole := Machine.run_of_request machine env given asks
    rw [perform_eq, Dialogue.runFrom_bind] at whole
    have prepares := prepares_setUp env i.config i.provider
    have untouched := Machine.untouched_of_prepares prepares machine
    have opened := Machine.ends_setUp env i.config i.provider machine
    cases ran : (setUp env i.config i.provider).runFrom Machine.host machine with
    | mk made ready =>
      rw [ran] at whole untouched
      cases made with
      | error failure =>
        cases failure with
        | setup reason => exact .inl ⟨reason, ready, rfl, untouched, whole⟩
        | fault fault => cases prepares.fails.of_runFrom ran
      | ok made =>
        obtain ⟨c, key⟩ := made
        have isOpen := opened.of_runFrom ran (c, key) rfl
        obtain ⟨result, after, worked, ended, tells⟩ := Machine.tells isOpen c key asks
        simp only [ended] at whole
        exact .inr ⟨c, key, ready, result, _, after, rfl, untouched, worked, whole, tells⟩

/-- A machine with nothing on its disk and its keyring out of reach. -/
def bareMachine : Machine where
  disk := []
  workingDirectory := ""
  keyring := []
  keyringFailure := some (.noAccess "")
  source := .ofList []
  input := []
  network _ _ := .noConnection
  requests := []
  database := ⟨none, true, .empty⟩

/-- An environment in which nothing is set. -/
def unsetEnvironment : Environment where
  lookup _ := none
  configDirectory := ""
  dataDirectory := ""

/-- Without settings and without a keyring, there is no password for the service. -/
theorem setUp_bareMachine :
    ((setUp unsetEnvironment none Provider.defaultId).runFrom Machine.host bareMachine).1.isOk
      = false := by decide +kernel

/-- An environment in which everything is set that the program needs. -/
def furnishedEnvironment : Environment where
  lookup name := List.lookup name [("MAILPROV_API_URL", "http://10.0.0.1/api"),
    ("MAILPROV_API_PASSWORD", "secret"), ("MAILPROV_DOMAIN", "example.com"),
    ("MAILPROV_DATABASE", "/accounts.db"),
    ("MAILPROV_ENCRYPTION_KEY", "AAAAAAAAAAAAAAAAAAAAAAAAAAAAAAAAAAAAAAAAAAA=")]
  configDirectory := ""
  dataDirectory := ""

/-- A machine with a database of rows written by hand. The service it reaches is out of order. -/
def furnishedMachine : Machine :=
  { bareMachine with
    disk := [("/accounts.db", .database .handWritten)]
    network := fun _ _ => .response 503 (.complete []) }

/-- There the program is set up. -/
theorem setUp_furnishedMachine :
    ∃ c key ready, (setUp furnishedEnvironment none Provider.defaultId).runFrom Machine.host
      furnishedMachine = (.ok (c, key), ready) := by
  have succeeds : ((setUp furnishedEnvironment none Provider.defaultId).runFrom Machine.host
      furnishedMachine).1.isOk = true := by decide +kernel
  cases made : (setUp furnishedEnvironment none Provider.defaultId).runFrom Machine.host
      furnishedMachine with
  | mk result ready =>
    rw [made] at succeeds
    cases result with
    | error failure => cases succeeds
    | ok set => exact ⟨set.1, set.2, ready, rfl⟩

/-- On the bare machine the program fails to be set up. On the furnished one the engine works: an
account is deleted in spite of the service, the service fails to tell of a mailbox, and an account
is not there to be deleted. -/
theorem faults_and_exits_bare_and_furnished :
    (Invocation.ofArguments ["delete", "u1", "5"]
        = .ok ⟨none, Provider.defaultId, .delete "u1" ⟨5⟩⟩ ∧
      (bareMachine.run unsetEnvironment ["delete", "u1", "5"]).1 = ⟨1, none⟩ ∧
      bareMachine.Untouched (bareMachine.run unsetEnvironment ["delete", "u1", "5"]).2) ∧
    ∃ c key ready,
      (setUp furnishedEnvironment none Provider.defaultId).runFrom Machine.host furnishedMachine
        = (.ok (c, key), ready) ∧
      (∃ outcome after,
        ((deleteAccount c.domain "u1" ⟨3⟩).run (answer c key)).runFrom Machine.host ready
          = (.ok (.ok outcome), after) ∧
        furnishedMachine.run furnishedEnvironment ["delete", "u1", "3"]
          = (⟨0, some (shown (.delete "u1" ⟨3⟩) outcome)⟩, after)) ∧
      (∃ fault after,
        ((resolveChecked c.domain "u1" "jane").run (answer c key)).runFrom Machine.host ready
          = (.ok (.error fault), after) ∧ 500 ≤ fault.status ∧
        furnishedMachine.run furnishedEnvironment ["status", "u1", "jane"]
          = (⟨1, some (.object [("error", fault.toJson)])⟩, after)) ∧
      ∃ fault after,
        ((deleteAccount c.domain "u1" ⟨5⟩).run (answer c key)).runFrom Machine.host ready
          = (.ok (.error fault), after) ∧ fault.status ≤ 499 ∧
        furnishedMachine.run furnishedEnvironment ["delete", "u1", "5"]
          = (⟨2, some (.object [("error", fault.toJson)])⟩, after) := by
  have unknown : Invocation.ofArguments ["delete", "u1", "5"]
      = .ok ⟨none, Provider.defaultId, .delete "u1" ⟨5⟩⟩ := by decide +kernel
  constructor
  · rcases faults_and_exits.2 bareMachine unsetEnvironment _ _ _ unknown rfl with
      ⟨reason, after, -, untouched, ran⟩ | ⟨c, key, ready, _, _, _, made, -⟩
    · rw [ran]
      exact ⟨unknown, rfl, untouched⟩
    · have failed := setUp_bareMachine
      rw [made] at failed
      cases failed
  · obtain ⟨c, key, ready, made⟩ := setUp_furnishedMachine
    have carried {arguments : List String} {command : Command} {q : Request} {code : Nat}
        (given : Invocation.ofArguments arguments = .ok ⟨none, Provider.defaultId, command⟩)
        (asks : command.request? = some q)
        (exits : (furnishedMachine.run furnishedEnvironment arguments).1.exitCode = code) :
        ∃ result output after,
          ((q.operation c.domain).run (answer c key)).runFrom Machine.host ready
            = (.ok result, after) ∧
          furnishedMachine.run furnishedEnvironment arguments = (⟨code, output⟩, after) ∧
          Tells q result ⟨code, output⟩ := by
      rcases faults_and_exits.2 furnishedMachine furnishedEnvironment _ _ _ given asks with
        ⟨_, _, failed, -⟩ | ⟨_, _, _, result, ⟨_, output⟩, after, found, -, worked, ran, tells⟩
      · rw [made] at failed
        cases failed
      · rw [made] at found
        cases found
        rw [ran] at exits
        cases exits
        exact ⟨result, output, after, worked, ran, tells⟩
    refine ⟨c, key, ready, made, ?_, ?_, ?_⟩
    · have given : Invocation.ofArguments ["delete", "u1", "3"]
          = .ok ⟨none, Provider.defaultId, .delete "u1" ⟨3⟩⟩ := by decide +kernel
      have exits : (furnishedMachine.run furnishedEnvironment ["delete", "u1", "3"]).1.exitCode
          = 0 := by decide +kernel
      obtain ⟨result, output, after, worked, ran, tells⟩ := carried given rfl exits
      obtain ⟨outcome, rfl⟩ := tells.success.1 rfl
      cases tells.output
      exact ⟨outcome, after, worked, ran⟩
    · have given : Invocation.ofArguments ["status", "u1", "jane"]
          = .ok ⟨none, Provider.defaultId, .status "u1" "jane"⟩ := by decide +kernel
      have exits : (furnishedMachine.run furnishedEnvironment ["status", "u1", "jane"]).1.exitCode
          = 1 := by decide +kernel
      obtain ⟨result, output, after, worked, ran, tells⟩ := carried given rfl exits
      obtain ⟨fault, rfl, above, -⟩ := tells.failure.1 rfl
      cases tells.output
      exact ⟨fault, after, worked, above, ran⟩
    · have exits : (furnishedMachine.run furnishedEnvironment ["delete", "u1", "5"]).1.exitCode
          = 2 := by decide +kernel
      obtain ⟨result, output, after, worked, ran, tells⟩ := carried unknown rfl exits
      obtain ⟨fault, rfl, -, below⟩ := tells.requester.1 rfl
      cases tells.output
      exact ⟨fault, after, worked, below, ran⟩

end MailboxKeeper.Cli
