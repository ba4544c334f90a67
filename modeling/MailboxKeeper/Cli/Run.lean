import MailboxKeeper.Cli.Host
import MailboxKeeper.Cli.Invocation
import MailboxKeeper.Engine.Creation
import MailboxKeeper.Engine.Deletion
import MailboxKeeper.Engine.PasswordReset
import MailboxKeeper.Registry
import MailboxKeeper.Settings

/-!
# Running a command

The program reads its settings, gathers the secrets that they lack from the keyring, opens the
database and lets the engine work. The outcome is a JSON document and an exit code: 0 for success,
2 for a fault that the requester can mend and for misuse, and 1 for everything else. Nothing is
printed when the program could not be set up.
-/

namespace MailboxKeeper.Cli

open Credential (MasterKey Keychain.Access)

variable {α ε : Type}

/-- A step of the set-up, with the reason why it failed. -/
def orSetup (reason : ε → String) : Except ε α → Program α
  | .ok a => .done a
  | .error e => .fail (.setup (reason e))

/-- An operation on secrets. -/
def secrets (operation : Credential.Keychain.Operation α) : Program α := do
  let outcome ← operation.run (fun access => (.ask (.secret access) .done : Program _))
  orSetup Credential.Error.message outcome

/-- The settings in a file, or the defaults if there is none, with the overrides. -/
def loadSettings (env : Environment) (file : Option String) : Program Settings := do
  let path := file.getD (Settings.defaultFile env)
  let settings ← .ask (.readFile path) fun
    | .missing => .done Settings.default
    | .unreadable => .fail (.setup s!"reading {path}")
    | .bytes content =>
      orSetup
        (fun
          | .reading => s!"reading {path}"
          | .parsing => s!"parsing {path}")
        (Settings.ofBytes content)
  return settings.override env.lookup

/-- The password for the service, from the settings or the keyring. -/
def apiPassword (s : Settings) (provider : String) : Program String :=
  match s.apiPassword with
  | some password => return password
  | none => do
    match ← secrets (Credential.Keychain.apiPassword provider) with
    | some password => return password
    | none => .fail (.setup "No provisioning API password")

/-- The configuration of the client of the service. -/
def clientConfig (s : Settings) (password : String) : Program Provisioning.Config := do
  let c ← orSetup Provisioning.Error.message
    (Provisioning.Config.new s.apiUrl s.apiUser password s.domain)
  return (c.withTimeout (s.timeoutSeconds.toNat * 1000)).withAcceptInvalidCerts s.acceptInvalidCerts

/-- Opens the database at a path, in a directory that is made if need be. -/
def openDatabase (path : String) : Program Unit := do
  let made ← (.ask (.makeParent path) .done : Program Bool)
  if made then
    .ask (.openDatabase path) (orSetup fun e => Store.Error.message (.database e))
  else .fail (.setup s!"creating the directory of {path}")

/-- The key for passwords, from the settings or the keyring. -/
def masterKey (s : Settings) (provider : String) : Program MasterKey := do
  let text ←
    match s.encryptionKey with
    | some key => (return key : Program String)
    | none => secrets (Credential.Keychain.loadOrCreateMasterKey provider)
  orSetup (fun e => Credential.Error.message (.invalidKey e)) (MasterKey.ofBase64 text)

/-- A text encrypted with random bytes of the host. -/
def encrypt (key : MasterKey) (plaintext : String) : Program (Except Credential.Error String) :=
  .ask (.secret (.randomBytes MasterKey.nonceSize)) fun (nonce : List UInt8) =>
    return .ok (key.encryptWith nonce plaintext)

/-- The answer to a call of the engine. -/
def answer (c : Provisioning.Config) (key : MasterKey) :
    (call : Engine.Call) → Program call.Answer
  | .table statement => .ask (.table statement) .done
  | .service call => call.perform (fun request => (.ask (.send request) .done : Program _)) c
  | .encrypt plaintext => encrypt key plaintext

/-- An operation of the engine. -/
def engine (c : Provisioning.Config) (key : MasterKey) (operation : Engine.Operation α) :
    Program α := do
  match ← operation.run (answer c key) with
  | .ok a => return a
  | .error fault => .fail (.fault fault)

/-- Stores or removes the password for the service of a provider. -/
def setApiPassword (provider : String) (clear : Bool) : Program Json := do
  if clear then
    secrets (Credential.Keychain.deleteApiPassword provider)
    return .object [("provider", .string provider), ("api_password", .string "cleared")]
  else
    let line ← (.ask .readLine .done : Program (Option (List UInt8)))
    match line.bind Text.decodeChars? with
    | none => .fail (.setup "reading API password from stdin")
    | some cs =>
      let isBreak := fun c : Char => c == '\r' || c == '\n'
      let password := (cs.reverse.dropWhile isBreak).reverse
      if password.isEmpty then .fail (.setup "No API password on stdin")
      else
        secrets (Credential.Keychain.storeApiPassword provider (String.ofList password))
        return .object [("provider", .string provider), ("api_password", .string "stored")]

/-- What the engine is to do for a command, and the document for its result. -/
def operation (domain : String) : Command → Engine.Operation Json
  | .create userId localPart displayName => do
    let account ←
      Engine.createOrUpdate domain userId localPart (displayName.getD localPart)
    return account.toJson
  | .delete userId id => do
    let outcome ← Engine.deleteAccount domain userId id
    return .object [("account_id", id.toJson), ("remote", .string outcome.name)]
  | .resetPassword userId id => do
    let account ← Engine.resetAccountPassword domain userId id
    return account.toJson
  | .status userId localPart => do
    let resolution ← Engine.resolveChecked domain userId localPart
    return resolution.toJson
  | .setApiPassword _ => return .null

/-- Sets the program up and lets the engine carry out a command, for the provider that is found in
the registry. -/
def perform (env : Environment) (config : Option String) (provider : String)
    (command : Command) : Program Json := do
  let settings ← loadSettings env config
  let password ← apiPassword settings provider
  let c ← clientConfig settings password
  openDatabase (settings.databasePath env)
  let key ← masterKey settings provider
  match Registry.find (Registry.add [] ⟨provider, c.domain⟩) provider with
  | .ok found => engine c key (operation found.domain command)
  | .error fault => .fail (.fault fault)

/-- Carries out an invocation. -/
def Invocation.program (env : Environment) (i : Invocation) : Program Json :=
  match i.command with
  | .setApiPassword clear => setApiPassword i.provider clear
  | command => perform env i.config i.provider command

/-- What the program ends with: an exit code, and the document that it prints. -/
structure Outcome where
  exitCode : Nat
  output : Option Json

/-- The outcome of a program that has come to its end. -/
def Outcome.ofResult : Except Failure Json → Outcome
  | .ok j => ⟨0, some j⟩
  | .error (.setup _) => ⟨1, none⟩
  | .error (.fault fault) =>
    ⟨if fault.isClientError then 2 else 1, some (.object [("error", fault.toJson)])⟩

/-- The outcome of a command line that asks for nothing to be done. -/
def Outcome.ofStop : Stop → Outcome
  | .help => ⟨0, none⟩
  | .misuse => ⟨2, none⟩

/-- Runs a command line. -/
def run {m : Type → Type} [Monad m] (host : (q : Query) → m q.Answer) (env : Environment)
    (arguments : List String) : m Outcome :=
  match Invocation.ofArguments arguments with
  | .ok i => do return Outcome.ofResult (← (i.program env).run host)
  | .error stop => pure (Outcome.ofStop stop)

end MailboxKeeper.Cli
