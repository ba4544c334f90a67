import MailboxKeeper.Proofs.Engine.Calls
import MailboxKeeper.Proofs.Json.Layout

/-!
# The service over HTTP

What the engine hears of a service that answers HTTP requests as it should. Such a service keeps
at most one mailbox for a user, at the very address that the request for it was about; the client
takes the address without the blanks around it. Only requests about one user are spoken of here,
and of the passwords in an answer only that a lookup names none.
-/

namespace MailboxKeeper.Provisioning

open Http

variable {σ : Type} {config : Config} {userId localPart address : String} {x : σ}

/-- What is asked for in the body of a request for a mailbox is what its reader finds there. -/
theorem CreationDocument.ofJson?_render (d : CreationDocument) :
    (Json.parse? d.toJson.render).bind ofJson? = some d := by
  rw [Json.parse?_render]
  rfl

/-- Requests about a user's mailbox, or about what is below it, can be sent. -/
def Reachable (config : Config) (userId : String) (below : List String) : Prop :=
  ∃ url, mailboxUrl config userId below = .ok url ∧ Exchange.isSendable url = true

/-- A request of the client at a URL. -/
structure IsRequest (config : Config) (r : Request) (method : Method) (url : Url) : Prop where
  method : r.method = method
  url : r.url = url.renderWithoutFragment
  authorization : r.authorization = some (authorization config)

/-- How the service answers requests about one user's mailbox, by the name of `localPart` if it
is made; `held` is its address. -/
structure ServesUser (send : Request → σ → Reply × σ) (config : Config) (userId localPart : String)
    (held : σ → Option String) : Prop where
  created : ∀ url r d x, mailboxUrl config userId [] = .ok url → IsRequest config r .post url →
    (Json.parse? r.body).bind CreationDocument.ofJson? = some d → d.localPart = localPart →
    d.domain = config.domain → held x = none →
    ∃ status body mailbox, (send r x).1 = .response status body ∧ isSuccess status = true ∧
      document MailboxDocument.ofJson? status body = .ok mailbox ∧
      mailbox.email = Address.ofParts d.localPart d.domain ∧
      held (send r x).2 = some mailbox.email
  refused : ∀ url r x address, mailboxUrl config userId [] = .ok url →
    IsRequest config r .post url → held x = some address →
    ∃ body, (send r x).1 = .response 409 body ∧ held (send r x).2 = some address
  shown : ∀ url r x address, mailboxUrl config userId [] = .ok url →
    IsRequest config r .get url → held x = some address →
    ∃ body mailbox, (send r x).1 = .response 200 body ∧
      document MailboxDocument.ofJson? 200 body = .ok mailbox ∧ mailbox.email = address ∧
      mailbox.imap.password = none ∧ mailbox.smtp.password = none ∧
      held (send r x).2 = some address
  reset : ∀ url r x address, mailboxUrl config userId ["password"] = .ok url →
    IsRequest config r .post url → held x = some address →
    ∃ status body password, (send r x).1 = .response status body ∧ isSuccess status = true ∧
      document PasswordDocument.ofJson? status body = .ok password ∧
      held (send r x).2 = some address

/-- What the engine is told of the mailbox at an address. -/
structure IsMailboxAt (mailbox : Mailbox) (address : String) : Prop where
  wellFormed : Address.isWellFormed address = true
  email : mailbox.email = Text.trim address

theorem isMailboxAt_of_ofDocument {d : MailboxDocument} {mailbox : Mailbox}
    (read : Mailbox.ofDocument d = .ok mailbox) : IsMailboxAt mailbox d.email := by
  unfold Mailbox.ofDocument at read
  split at read
  · rename_i wellFormed
    cases read
    exact ⟨wellFormed, rfl⟩
  · cases read

/-! ## Exchanges -/

section Exchanges

variable {α : Type} {send : Request → σ → Reply × σ} {below : List String} {url : Url}

/-- The request without a body that the client makes at a URL. -/
def plainRequest (config : Config) (method : Method) (url : Url) : Request :=
  ⟨method, url.renderWithoutFragment, some (authorization config), none, ""⟩

/-- The request for a mailbox that the client makes at a URL. -/
def creationRequest (config : Config) (url : Url) (localPart : String) : Request :=
  ⟨.post, url.renderWithoutFragment, some (authorization config), some "application/json",
    (CreationDocument.mk localPart config.domain).toJson.render⟩

theorem exchange_of_url (at_ : mailboxUrl config userId below = .ok url) (method : Method)
    (read : Nat → Body → Except Error α) :
    exchange config method userId below read = .ok ⟨url, plainRequest config method url, read⟩ := by
  unfold exchange
  rw [at_]
  rfl

theorem createMailbox_of_url (localPart : String) (at_ : mailboxUrl config userId [] = .ok url) :
    createMailbox config userId localPart = .ok ⟨url, creationRequest config url localPart,
      fun status body =>
        if isSuccess status then document MailboxDocument.ofJson? status body
        else .error (refusal status body)⟩ := by
  unfold createMailbox
  rw [exchange_of_url at_]
  rfl

theorem run_perform {e : Exchange α} (sendable : Exchange.isSendable e.url = true) :
    StateT.run (perform (m := StateM σ) send (.ok e)) x
      = (e.ofReply (send e.request x).1, (send e.request x).2) := by
  show StateT.run (Exchange.perform (m := StateM σ) send e) x = _
  unfold Exchange.perform
  rw [if_pos sendable]
  rfl

theorem run_perform_unsendable {e : Exchange α} (unsendable : Exchange.isSendable e.url = false) :
    StateT.run (perform (m := StateM σ) send (.ok e)) x
      = (.error (.transport (.unsendable e.url.render)), x) := by
  show StateT.run (Exchange.perform (m := StateM σ) send e) x = _
  unfold Exchange.perform
  rw [unsendable, if_neg Bool.false_ne_true]
  rfl

/-- What cannot be sent has no effect. -/
theorem run_perform_unreachable (send : Request → σ → Reply × σ) (x : σ)
    (unreachable : ¬Reachable config userId below) {made : Except Error (Exchange α)}
    (url : made.map Exchange.url = mailboxUrl config userId below) :
    ∃ error, StateT.run (perform (m := StateM σ) send made) x = (.error error, x) := by
  cases made with
  | error error => exact ⟨error, rfl⟩
  | ok e =>
    have unsendable : Exchange.isSendable e.url = false := Bool.eq_false_iff.2 fun sendable =>
      unreachable ⟨e.url, url.symm, sendable⟩
    exact ⟨_, run_perform_unsendable unsendable⟩

theorem map_url_exchange (method : Method) (read : Nat → Body → Except Error α) :
    (exchange config method userId below read).map Exchange.url
      = mailboxUrl config userId below := by
  unfold exchange
  cases mailboxUrl config userId below <;> rfl

theorem map_url_createMailbox :
    (createMailbox config userId localPart).map Exchange.url = mailboxUrl config userId [] := by
  unfold createMailbox exchange
  cases mailboxUrl config userId [] <;> rfl

theorem map_url_getMailbox :
    (getMailbox config userId).map Exchange.url = mailboxUrl config userId [] :=
  map_url_exchange _ _

theorem map_url_resetPassword :
    (resetPassword config userId).map Exchange.url = mailboxUrl config userId ["password"] :=
  map_url_exchange _ _

end Exchanges

end MailboxKeeper.Provisioning

namespace MailboxKeeper.Engine

open Provisioning

variable {σ : Type} {config : Config} {send : Http.Request → σ → Http.Reply × σ}
variable {encrypt : String → σ → Except Credential.Error String × σ} {held : σ → Option String}
variable {userId localPart address : String} {x : σ}

/-- The service over HTTP, a table that does not fail, and an encryption. -/
def overHttp (config : Config) (send : Http.Request → σ → Http.Reply × σ)
    (encrypt : String → σ → Except Credential.Error String × σ) : Collaborators σ where
  tableFailure? _ x := (none, x)
  service c := StateT.run (c.perform (m := StateM σ) send config)
  encrypt := encrypt

/-! ## Calls to the service -/

theorem service_create :
    (overHttp config send encrypt).service (.create userId localPart) x
      = (outcome Mailbox.ofDocument
          (StateT.run (perform (m := StateM σ) send (createMailbox config userId localPart)) x).1,
        (StateT.run (perform (m := StateM σ) send (createMailbox config userId localPart)) x).2) :=
  rfl

theorem service_get :
    (overHttp config send encrypt).service (.get userId) x
      = (outcome foundMailbox
          (StateT.run (perform (m := StateM σ) send (getMailbox config userId)) x).1,
        (StateT.run (perform (m := StateM σ) send (getMailbox config userId)) x).2) := rfl

theorem service_resetPassword :
    (overHttp config send encrypt).service (.resetPassword userId) x
      = (outcome .ok
          (StateT.run (perform (m := StateM σ) send (resetPassword config userId)) x).1,
        (StateT.run (perform (m := StateM σ) send (resetPassword config userId)) x).2) := rfl

variable (send encrypt localPart x) in
theorem create_unreachable (unreachable : ¬Reachable config userId []) :
    ∃ failure, (overHttp config send encrypt).service (.create userId localPart) x
      = (.error failure, x) := by
  obtain ⟨error, run⟩ := run_perform_unreachable send x unreachable map_url_createMailbox
  rw [service_create, run]
  exact ⟨error.toFailure, rfl⟩

variable (encrypt localPart) in
/-- Where there is no mailbox, one is made at the requested address, be its description of use or
not. -/
theorem create_of_none (serves : ServesUser send config userId localPart held)
    (free : held x = none) (reachable : Reachable config userId []) :
    held ((overHttp config send encrypt).service (.create userId localPart) x).2
        = some (Address.ofParts localPart config.domain) ∧
      ∀ mailbox,
        ((overHttp config send encrypt).service (.create userId localPart) x).1 = .ok mailbox →
          IsMailboxAt mailbox (Address.ofParts localPart config.domain) := by
  obtain ⟨url, at_, sendable⟩ := reachable
  obtain ⟨status, body, d, answered, success, read, email, holds⟩ :=
    serves.created url (creationRequest config url localPart) ⟨localPart, config.domain⟩ x at_
      ⟨rfl, rfl, rfl⟩ (CreationDocument.ofJson?_render _) rfl rfl free
  have made := createMailbox_of_url localPart at_
  rw [email] at holds
  rw [service_create, made, run_perform sendable]
  dsimp only
  rw [answered]
  simp only [Exchange.ofReply, success, if_true, read]
  refine ⟨holds, ?_⟩
  intro mailbox shown
  rw [← email]
  exact isMailboxAt_of_ofDocument shown

variable (encrypt localPart) in
/-- Where there is a mailbox, the request for another is refused. -/
theorem create_of_some (serves : ServesUser send config userId localPart held)
    (there : held x = some address) (reachable : Reachable config userId []) :
    ∃ failure, ((overHttp config send encrypt).service (.create userId localPart) x).1
        = .error failure ∧
      held ((overHttp config send encrypt).service (.create userId localPart) x).2
        = some address := by
  obtain ⟨url, at_, sendable⟩ := reachable
  obtain ⟨body, answered, holds⟩ :=
    serves.refused url (creationRequest config url localPart) x address at_ ⟨rfl, rfl, rfl⟩ there
  have made := createMailbox_of_url localPart at_
  rw [service_create, made, run_perform sendable]
  dsimp only
  rw [answered]
  exact ⟨_, rfl, holds⟩

variable (send encrypt x) in
theorem get_unreachable (unreachable : ¬Reachable config userId []) :
    ∃ failure, (overHttp config send encrypt).service (.get userId) x = (.error failure, x) := by
  obtain ⟨error, run⟩ := run_perform_unreachable send x unreachable map_url_getMailbox
  rw [service_get, run]
  exact ⟨error.toFailure, rfl⟩

variable (encrypt) in
/-- A mailbox is shown without passwords, if its address is of use at all. -/
theorem get_of_some (serves : ServesUser send config userId localPart held)
    (there : held x = some address) (reachable : Reachable config userId []) :
    held ((overHttp config send encrypt).service (.get userId) x).2 = some address ∧
      if Address.isWellFormed address then
        ∃ mailbox, ((overHttp config send encrypt).service (.get userId) x).1 = .ok (some mailbox) ∧
          IsMailboxAt mailbox address ∧ mailbox.hasCredentials = false
      else
        ∃ failure, ((overHttp config send encrypt).service (.get userId) x).1 = .error failure := by
  obtain ⟨url, at_, sendable⟩ := reachable
  obtain ⟨body, d, answered, read, email, imap, smtp, holds⟩ :=
    serves.shown url (plainRequest config .get url) x address at_ ⟨rfl, rfl, rfl⟩ there
  have made : getMailbox config userId = .ok ⟨url, plainRequest config .get url,
      fun status body => if status = 404 then .ok none
        else if Http.isSuccess status then
          (document MailboxDocument.ofJson? status body).map some
        else .error (refusal status body)⟩ := exchange_of_url at_ _ _
  rw [service_get, made, run_perform sendable]
  dsimp only
  rw [answered]
  have found : (200 : Nat) ≠ 404 := by decide
  have success : Http.isSuccess 200 = true := rfl
  simp only [Exchange.ofReply, if_neg found, success, if_true, read]
  refine ⟨holds, ?_⟩
  show if Address.isWellFormed address then ∃ mailbox, (Mailbox.ofDocument d).map some
    = .ok (some mailbox) ∧ _ else ∃ failure, (Mailbox.ofDocument d).map some = .error failure
  unfold Mailbox.ofDocument
  rw [email]
  split
  · rename_i wellFormed
    refine ⟨_, rfl, ⟨wellFormed, rfl⟩, ?_⟩
    simp [Mailbox.hasCredentials, MailServer.ofDocument, imap]
  · exact ⟨_, rfl⟩

variable (send encrypt x) in
theorem reset_unreachable (unreachable : ¬Reachable config userId ["password"]) :
    ∃ failure, (overHttp config send encrypt).service (.resetPassword userId) x
      = (.error failure, x) := by
  obtain ⟨error, run⟩ := run_perform_unreachable send x unreachable map_url_resetPassword
  rw [service_resetPassword, run]
  exact ⟨error.toFailure, rfl⟩

variable (encrypt) in
theorem reset_of_some (serves : ServesUser send config userId localPart held)
    (there : held x = some address) (reachable : Reachable config userId ["password"]) :
    (∃ password, ((overHttp config send encrypt).service (.resetPassword userId) x).1
        = .ok password) ∧
      held ((overHttp config send encrypt).service (.resetPassword userId) x).2 = some address := by
  obtain ⟨url, at_, sendable⟩ := reachable
  obtain ⟨status, body, d, answered, success, read, holds⟩ :=
    serves.reset url (plainRequest config .post url) x address at_ ⟨rfl, rfl, rfl⟩ there
  have made : resetPassword config userId = .ok ⟨url, plainRequest config .post url,
      fun status body => if Http.isSuccess status then
          (document PasswordDocument.ofJson? status body).map fun d => d.password
        else .error (refusal status body)⟩ := exchange_of_url at_ _ _
  rw [service_resetPassword, made, run_perform sendable]
  dsimp only
  rw [answered]
  simp only [Exchange.ofReply, success, if_true, read]
  exact ⟨⟨_, rfl⟩, holds⟩

end MailboxKeeper.Engine
