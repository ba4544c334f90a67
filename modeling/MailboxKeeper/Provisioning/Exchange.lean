import MailboxKeeper.Http
import MailboxKeeper.Json.Parser
import MailboxKeeper.Json.Printer
import MailboxKeeper.Provisioning.Config
import MailboxKeeper.Provisioning.Document
import MailboxKeeper.Text.Base64

/-!
# Exchanges with the provisioning service

Every operation of the service is one request and the reading of its reply. A mailbox lives at
`users/<user>/mailbox` below the base URL, and its password one level deeper.
-/

namespace MailboxKeeper.Provisioning

open Http

/-- A request, and what a reply to it means. -/
structure Exchange (α : Type) where
  url : Url
  request : Request
  read : Nat → Body → Except Error α

/-- What became of a mailbox that was to be deleted. -/
inductive Deletion where
  | deleted
  | notFound
  deriving DecidableEq, Repr

namespace Exchange

variable {α β : Type}

/-- A character that may stand in the domain of a server that requests are sent to. -/
def isServerChar (c : Char) : Bool :=
  c.isAlphanum || Url.isAmong "!$&()*+,-.;=_~" c || c == '\x27'

/-- The most bytes that the URL of a request may have. -/
def urlLimit : Nat := 65534

/-- Can a request be sent to the URL? -/
def isSendable (url : Url) : Bool :=
  (url.scheme == "http" || url.scheme == "https") && url.render.utf8ByteSize ≤ urlLimit
    && url.authority.all fun a =>
      match a.host with
      | .domain name => name.toList.all isServerChar
      | .ipv4 _ | .ipv6 _ => true

/-- What a reply means. -/
def ofReply (x : Exchange α) : Reply → Except Error α
  | .response status body => x.read status body
  | .noConnection => .error (.transport (.notSent x.url.render))

/-- Sends the request and reads the reply. -/
def perform {m : Type → Type} [Monad m] (send : Request → m Reply) (x : Exchange α) :
    m (Except Error α) :=
  if isSendable x.url then do return x.ofReply (← send x.request)
  else pure (.error (.transport (.unsendable x.url.render)))

end Exchange

/-- The URL of a user's mailbox, or of something below it. -/
def mailboxUrl (c : Config) (userId : String) (below : List String) : Except Error Url :=
  match c.baseUrl.append? (["users", userId, "mailbox"] ++ below) with
  | some url => .ok url
  | none => .error (.invalidConfig "base URL cannot carry a path")

/-- The header that logs a client in. -/
def authorization (c : Config) : String :=
  "Basic " ++ Text.Base64.encode (Text.bytes (c.username ++ ":" ++ c.password))

/-- What a refusal of the service is reported as: its body, or else the phrase for its status. -/
def refusal (status : Nat) (body : Body) : Error :=
  let text := Text.decodeLossy ((bodyBytes? status body).getD [])
  .refused status
    (if Text.isAllBlank text then (reasonPhrase? status).getD "request failed" else text)

/-- The document in a body. -/
def document {α : Type} (ofJson? : Json → Option α) (status : Nat) (body : Body) :
    Except Error α :=
  match ((bodyBytes? status body).bind Json.ofBytes?).bind ofJson? with
  | some a => .ok a
  | none => .error (.transport .undecodable)

/-- An exchange about a user's mailbox, without a body in the request. -/
def exchange {α : Type} (c : Config) (method : Method) (userId : String) (below : List String)
    (read : Nat → Body → Except Error α) : Except Error (Exchange α) := do
  let url ← mailboxUrl c userId below
  return ⟨url, ⟨method, url.renderWithoutFragment, some (authorization c), none, ""⟩, read⟩

/-- The same exchange with a JSON value for the body of the request. -/
def Exchange.withBody {α : Type} (x : Exchange α) (j : Json) : Exchange α :=
  { x with request := { x.request with contentType := some "application/json", body := j.render } }

/-- The user's new mailbox, with passwords. -/
def createMailbox (c : Config) (userId localPart : String) :
    Except Error (Exchange MailboxDocument) := do
  let x ← exchange c .post userId [] fun status body =>
    if isSuccess status then document MailboxDocument.ofJson? status body
    else .error (refusal status body)
  return x.withBody (CreationDocument.mk localPart c.domain).toJson

/-- The user's mailbox, if there is one, without passwords. -/
def getMailbox (c : Config) (userId : String) :
    Except Error (Exchange (Option MailboxDocument)) :=
  exchange c .get userId [] fun status body =>
    if status = 404 then .ok none
    else if isSuccess status then (document MailboxDocument.ofJson? status body).map some
    else .error (refusal status body)

/-- Deletes the user's mailbox. -/
def deleteMailbox (c : Config) (userId : String) : Except Error (Exchange Deletion) :=
  exchange c .delete userId [] fun status body =>
    if status = 404 then .ok .notFound
    else if isSuccess status then .ok .deleted
    else .error (refusal status body)

/-- A new password for the user's mailbox. -/
def resetPassword (c : Config) (userId : String) : Except Error (Exchange String) :=
  exchange c .post userId ["password"] fun status body =>
    if isSuccess status then (document PasswordDocument.ofJson? status body).map fun d => d.password
    else .error (refusal status body)

/-- Performs an exchange, if its request can be made at all. -/
def perform {m : Type → Type} [Monad m] {α : Type} (send : Request → m Reply) :
    Except Error (Exchange α) → m (Except Error α)
  | .ok x => x.perform send
  | .error e => pure (.error e)

end MailboxKeeper.Provisioning
