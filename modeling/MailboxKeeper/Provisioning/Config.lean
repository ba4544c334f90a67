import MailboxKeeper.Provisioning.Error
import MailboxKeeper.Text.Duration
import MailboxKeeper.Text.Quoted

/-!
# Configuration of the client of the provisioning service

Where the service is, how to log in there, and the domain under which it makes mailboxes.
-/

namespace MailboxKeeper.Provisioning

/-- The settings of a client. -/
structure Config where
  baseUrl : Url
  username : String
  password : String
  domain : String
  timeoutMilliseconds : Nat
  acceptInvalidCerts : Bool
  deriving DecidableEq, Repr

namespace Config

/-- The timeout of a request unless another is set, in seconds. -/
def defaultTimeoutSeconds : Nat := 30

/-- The configuration for a service and a domain. The URL must be able to carry a path, and the
domain must not be blank. -/
def new (baseUrl username password domain : String) : Except Error Config :=
  match Url.parse baseUrl with
  | .error e => .error (.invalidUrl e)
  | .ok url =>
    if url.isPlain then .error (.invalidConfig s!"base URL cannot carry a path: {url.render}")
    else if Text.isAllBlank domain then .error (.invalidConfig "provisioning domain is empty")
    else .ok ⟨url, username, password, domain, defaultTimeoutSeconds * 1000, false⟩

/-- What is accepted as a configuration. -/
theorem of_new_eq_ok {baseUrl username password domain : String} {c : Config}
    (accepted : new baseUrl username password domain = .ok c) :
    ∃ url, Url.parse baseUrl = .ok url ∧ url.isPlain = false ∧ Text.isAllBlank domain = false ∧
      c = ⟨url, username, password, domain, defaultTimeoutSeconds * 1000, false⟩ := by
  unfold new at accepted
  split at accepted
  · cases accepted
  · rename_i url read
    split at accepted
    · cases accepted
    · rename_i carries
      split at accepted
      · cases accepted
      · rename_i solid
        cases accepted
        exact ⟨url, read, Bool.eq_false_iff.2 carries, Bool.eq_false_iff.2 solid, rfl⟩

/-- The same configuration with another timeout. -/
def withTimeout (c : Config) (milliseconds : Nat) : Config :=
  { c with timeoutMilliseconds := milliseconds }

/-- The same configuration with or without the check of certificates. -/
def withAcceptInvalidCerts (c : Config) (accept : Bool) : Config :=
  { c with acceptInvalidCerts := accept }

/-- What may be shown of a configuration: everything but the password. -/
def description (c : Config) : String :=
  "ApiConfig \x7b base_url: " ++ Text.quoted c.baseUrl.render
    ++ ", username: " ++ Text.quoted c.username
    ++ ", password: \"<redacted>\", domain: " ++ Text.quoted c.domain
    ++ ", timeout: " ++ Text.duration c.timeoutMilliseconds
    ++ ", accept_invalid_certs: " ++ toString c.acceptInvalidCerts ++ " \x7d"

end Config

end MailboxKeeper.Provisioning
