import MailboxKeeper.Json.Parser
import MailboxKeeper.Json.Record
import MailboxKeeper.Provisioning.Config
import MailboxKeeper.Text.Quoted
import MailboxKeeper.Text.Utf8

/-!
# Settings

The settings of an operator: a file holds those that differ from the defaults, and variables of
the environment override the file. The secrets among them are never shown.
-/

namespace MailboxKeeper

/-- What a program finds around it. -/
structure Environment where
  lookup : String → Option String
  configDirectory : String
  dataDirectory : String

/-- The settings of an operator. -/
structure Settings where
  apiUrl : String
  apiUser : String
  apiPassword : Option String
  domain : String
  database : Option String
  encryptionKey : Option String
  timeoutSeconds : UInt64
  acceptInvalidCerts : Bool
  deriving DecidableEq, Repr

namespace Settings

/-- The settings that hold where none are given. -/
def default : Settings :=
  ⟨"http://localhost:8080/api/v1", "mailprov", none, "localhost", none, none,
    .ofNat Provisioning.Config.defaultTimeoutSeconds, false⟩

/-- A path below a directory. -/
def below (directory path : String) : String :=
  if directory.endsWith "/" || directory.isEmpty then directory ++ path
  else directory ++ "/" ++ path

/-- Where the settings are, unless another place is named. -/
def defaultFile (env : Environment) : String := below env.configDirectory "mailprov/settings.json"

/-- Where the accounts are kept, unless the settings name another place. -/
def databasePath (s : Settings) (env : Environment) : String :=
  s.database.getD (below env.dataDirectory "mailprov/accounts.db")

/-- The number of seconds that a value is. -/
def secondsOfJson? (j : Json) : Option UInt64 := (j.natUpTo? (UInt64.size - 1)).map UInt64.ofNat

def toJson (s : Settings) : Json :=
  .object [("api_url", .string s.apiUrl), ("api_user", .string s.apiUser),
    ("api_password", .orNull .string s.apiPassword), ("domain", .string s.domain),
    ("database", .orNull .string s.database), ("encryption_key", .orNull .string s.encryptionKey),
    ("timeout_secs", .nat s.timeoutSeconds.toNat),
    ("accept_invalid_certs", .bool s.acceptInvalidCerts)]

def ofJson? (j : Json) : Option Settings := do
  let r ← j.record? ["api_url", "api_user", "api_password", "domain", "database",
    "encryption_key", "timeout_secs", "accept_invalid_certs"]
  let apiUrl ← r.withDefault? "api_url" Json.text? default.apiUrl
  let apiUser ← r.withDefault? "api_user" Json.text? default.apiUser
  let apiPassword ← r.optional? "api_password" Json.text?
  let domain ← r.withDefault? "domain" Json.text? default.domain
  let database ← r.optional? "database" Json.text?
  let encryptionKey ← r.optional? "encryption_key" Json.text?
  let timeoutSeconds ← r.withDefault? "timeout_secs" secondsOfJson? default.timeoutSeconds
  let acceptInvalidCerts ← r.withDefault? "accept_invalid_certs" Json.bool?
    default.acceptInvalidCerts
  return ⟨apiUrl, apiUser, apiPassword, domain, database, encryptionKey, timeoutSeconds,
    acceptInvalidCerts⟩

/-- Why settings could not be had from a file. -/
inductive Error where
  /-- The file could not be read as a text. -/
  | reading
  /-- The text holds no settings. -/
  | parsing
  deriving DecidableEq, Repr

/-- The settings that the bytes of a file hold. -/
def ofBytes (bs : List UInt8) : Except Error Settings :=
  match Text.decode? bs with
  | none => .error .reading
  | some text =>
    match (Json.parse? text).bind ofJson? with
    | some s => .ok s
    | none => .error .parsing

/-- The variables that override settings. -/
def variableNames : List String :=
  ["MAILPROV_API_URL", "MAILPROV_API_USER", "MAILPROV_API_PASSWORD", "MAILPROV_DOMAIN",
    "MAILPROV_DATABASE", "MAILPROV_ENCRYPTION_KEY"]

/-- The settings with those that variables override. -/
def override (s : Settings) (lookup : String → Option String) : Settings :=
  { s with
    apiUrl := (lookup "MAILPROV_API_URL").getD s.apiUrl
    apiUser := (lookup "MAILPROV_API_USER").getD s.apiUser
    apiPassword := (lookup "MAILPROV_API_PASSWORD").or s.apiPassword
    domain := (lookup "MAILPROV_DOMAIN").getD s.domain
    database := (lookup "MAILPROV_DATABASE").or s.database
    encryptionKey := (lookup "MAILPROV_ENCRYPTION_KEY").or s.encryptionKey }

/-- A value that may be missing, as it is shown. -/
def shown (form : String → String) : Option String → String
  | some text => "Some(" ++ form text ++ ")"
  | none => "None"

/-- What is shown of a secret. -/
def redacted (_ : String) : String := "\"<redacted>\""

/-- What may be shown of settings: everything but the secrets. -/
def description (s : Settings) : String :=
  "Settings \x7b api_url: " ++ Text.quoted s.apiUrl
    ++ ", api_user: " ++ Text.quoted s.apiUser
    ++ ", api_password: " ++ shown redacted s.apiPassword
    ++ ", domain: " ++ Text.quoted s.domain
    ++ ", database: " ++ shown Text.quoted s.database
    ++ ", encryption_key: " ++ shown redacted s.encryptionKey
    ++ ", timeout_secs: " ++ toString s.timeoutSeconds.toNat
    ++ ", accept_invalid_certs: " ++ toString s.acceptInvalidCerts ++ " \x7d"

end Settings

end MailboxKeeper
