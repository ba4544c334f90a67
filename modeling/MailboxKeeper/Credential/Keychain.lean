import MailboxKeeper.Credential.MasterKey
import MailboxKeeper.Dialogue
import MailboxKeeper.NameMap

/-!
# Secrets in a keyring

Two kinds of secrets are kept in a keyring: the master key of a profile and the password for the
service of a provider. Each entry is named for its kind and its scope. An entry is opened before
it is used; one that is not there holds no secret and need not be erased.
-/

namespace MailboxKeeper

/-- The entries of a keyring. -/
abbrev Keyring := NameMap (List UInt8)

namespace Keyring

/-- The secret of an entry. -/
def read (ring : Keyring) (key : String) : Except Error String :=
  match ring.get? key with
  | none => .error .noEntry
  | some secret =>
    match Text.decode? secret with
    | some text => .ok text
    | none => .error .notText

/-- The keyring with a secret in an entry. -/
def write (ring : Keyring) (key secret : String) : Keyring := ring.put key (Text.bytes secret)

/-- The keyring without an entry. -/
def erase (ring : Keyring) (key : String) : Except Error Keyring :=
  match ring.get? key with
  | none => .error .noEntry
  | some _ => .ok (NameMap.erase key ring)

end Keyring

namespace Credential.Keychain

/-- The service under which all entries are opened. -/
def service : String := "mailprov"

/-- A question to the keyring, or for random bytes. -/
inductive Access where
  | openEntry (key : String)
  | read (key : String)
  | write (key secret : String)
  | erase (key : String)
  | randomBytes (count : Nat)
  deriving DecidableEq, Repr

/-- What a question is answered by. -/
def Access.Answer : Access → Type
  | openEntry _ | write .. | erase _ => Except Keyring.Error Unit
  | read _ => Except Keyring.Error String
  | randomBytes _ => List UInt8

/-- An operation on secrets. -/
abbrev Operation (α : Type) := Dialogue Access Access.Answer Error α

/-- The name of the entry with the master key of a profile. -/
def masterKeyEntry (profile : String) : String := s!"{service}_master_key_{profile}"

/-- The name of the entry with the password of a provider. -/
def passwordEntry (provider : String) : String := s!"{service}_api_password_{provider}"

/-- An answer, with the keyring's failure put as a failure of the operation. -/
def orFail {α : Type} : Except Keyring.Error α → Operation α
  | .ok a => .done a
  | .error e => .fail (.keyring e)

/-- Opens an entry. -/
def openEntry (key : String) : Operation Unit := .ask (.openEntry key) orFail

/-- The secret of an entry, if the entry is there. -/
def readEntry (key : String) : Operation (Option String) := do
  openEntry key
  .ask (.read key) fun
    | .ok secret => .done (some secret)
    | .error .noEntry => .done none
    | .error e => .fail (.keyring e)

/-- Puts a secret into an entry. -/
def writeEntry (key secret : String) : Operation Unit := do
  openEntry key
  .ask (.write key secret) orFail

/-- Removes an entry, if it is there. -/
def eraseEntry (key : String) : Operation Unit := do
  openEntry key
  .ask (.erase key) fun
    | .ok () | .error .noEntry => .done ()
    | .error e => .fail (.keyring e)

/-- The master key of a profile. -/
def masterKey (profile : String) : Operation (Option String) := readEntry (masterKeyEntry profile)

/-- Stores the master key of a profile. -/
def storeMasterKey (profile key : String) : Operation Unit :=
  writeEntry (masterKeyEntry profile) key

/-- Random bytes. -/
def randomBytes (count : Nat) : Operation (List UInt8) :=
  .ask (.randomBytes count) .done

/-- The master key of a profile. If there is none, a new one is made and stored. -/
def loadOrCreateMasterKey (profile : String) : Operation String := do
  match ← masterKey profile with
  | some key => return key
  | none =>
    let bytes ← randomBytes MasterKey.size
    let key := Text.Base64.encode bytes
    storeMasterKey profile key
    return key

/-- The password for the service of a provider. -/
def apiPassword (provider : String) : Operation (Option String) :=
  if provider.isEmpty then .fail .missingScope else readEntry (passwordEntry provider)

/-- Stores the password for the service of a provider. -/
def storeApiPassword (provider password : String) : Operation Unit :=
  if provider.isEmpty then .fail .missingScope else writeEntry (passwordEntry provider) password

/-- Removes the password for the service of a provider. -/
def deleteApiPassword (provider : String) : Operation Unit := eraseEntry (passwordEntry provider)

end Credential.Keychain

end MailboxKeeper
