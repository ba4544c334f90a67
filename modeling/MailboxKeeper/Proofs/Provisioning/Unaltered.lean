import MailboxKeeper.Proofs.Credential.MasterKey
import MailboxKeeper.Proofs.Provisioning.RepeatedRequest
import MailboxKeeper.Proofs.Provisioning.Wire
import MailboxKeeper.Proofs.Security

/-!
# A mailbox on its way to the table

A mailbox that the service has made goes through many hands before its record can be read: the body
of a response, the document in it, the mailbox that the engine takes it for, an account with
encrypted passwords, and the columns of a row. None of them alters what the service has said
(`createOrUpdate_unaltered`): the record tells of both servers as the document does, and under the
key the passwords can be read.
-/

namespace MailboxKeeper.Engine

open AccountRequest Credential Provisioning Store

variable {σ : Type} {config : Config} {key : MasterKey}
variable {send : Http.Request → σ × ByteSource → Http.Reply × (σ × ByteSource)}
variable {userId localPart displayName imapPassword smtpPassword password : String}
variable {x : σ × ByteSource} {status : Nat} {bytes : List UInt8} {d : MailboxDocument}
variable {s : Scene (σ × ByteSource)} {t : Table} {id : AccountId}

/-- The encryption under a key, with nonces from a source of random bytes. -/
def encryptUnder (key : MasterKey) (plaintext : String) (x : σ × ByteSource) :
    Except Credential.Error String × (σ × ByteSource) :=
  (.ok (key.encrypt x.2 plaintext).1, x.1, (key.encrypt x.2 plaintext).2)

/-- The service answers the request for a mailbox by a success, with a body that describes one at a
well-formed address and with both passwords. -/
structure Makes (send : Http.Request → σ × ByteSource → Http.Reply × (σ × ByteSource))
    (config : Config) (userId localPart : String) (x : σ × ByteSource) (status : Nat)
    (bytes : List UInt8) (d : MailboxDocument) (imapPassword smtpPassword : String) : Prop where
  answered : ∃ url, mailboxUrl config userId [] = .ok url ∧ Exchange.isSendable url = true ∧
    (send (creationRequest config url localPart) x).1 = .response status (.complete bytes)
  success : Http.isSuccess status = true
  carries : Http.isBodiless status = false
  decoded : (Json.ofBytes? bytes).bind MailboxDocument.ofJson? = some d
  wellFormed : Address.isWellFormed d.email = true
  imap : d.imap.password = some imapPassword
  smtp : d.smtp.password = some smtpPassword

/-- The endpoint is that of the server in a document, and its password can be read under the key. -/
structure Endpoint.Renders (key : MasterKey) (server : ServerDocument) (password : String)
    (e : Endpoint) : Prop where
  host : e.host = server.host
  port : e.port = server.port
  user : e.user = server.username
  security : Security.Describes server.sslMode e.security
  password : key.decrypt? e.encryptedPassword = some password

/-- The account is that of the mailbox in a document. -/
structure Account.Renders (key : MasterKey) (userId displayName : String) (d : MailboxDocument)
    (imapPassword smtpPassword : String) (a : Account) : Prop where
  userId : a.userId = userId
  email : a.email = Text.trim d.email
  displayName : a.displayName = Text.trim displayName
  authMethod : a.authMethod = .password
  inbound : Endpoint.Renders key d.imap imapPassword a.inbound
  outbound : Endpoint.Renders key d.smtp smtpPassword a.outbound

/-! ## Encryption -/

theorem encryptUnder_steady :
    (overHttp config send (encryptUnder key)).Steady fun _ => () :=
  ⟨fun _ _ => ⟨rfl, rfl⟩, fun _ _ => ⟨⟨_, rfl⟩, rfl⟩⟩

/-- The endpoint of a server differs from it in the password only, and that can be read. -/
theorem yields_encryptedEndpoint (server : MailServer) (has : server.password = some password) :
    (Operation.encryptEndpoint server).Yields (overHttp config send (encryptUnder key)).answer s
      fun e s' => s'.table = s.table ∧ ∃ ciphertext, e = endpointOf server ciphertext ∧
        key.decrypt? ciphertext = some password := by
  have encrypted : (Operation.encrypt (server.password.getD "")).Yields
      (overHttp config send (encryptUnder key)).answer s fun ciphertext s' =>
        s'.table = s.table ∧ key.decrypt? ciphertext = some password := by
    refine Operation.ends_encrypt ?_
    intro answer others heard
    cases heard
    rw [has]
    exact ⟨_, rfl, rfl, key.decrypt?_encrypt s.others.2 password⟩
  refine encrypted.bind ?_
  rintro ciphertext s' ⟨kept, reads⟩
  exact ⟨_, rfl, kept, ciphertext, rfl, reads⟩

/-! ## The document -/

theorem renders_endpointOf {server : ServerDocument} {ciphertext : String}
    (reads : key.decrypt? ciphertext = some password) :
    Endpoint.Renders key server password (endpointOf (.ofDocument server) ciphertext) :=
  ⟨rfl, rfl, rfl, Security.describes_ofMode server.sslMode, reads⟩

/-- What the service has made reaches the engine as the document describes it. -/
theorem Makes.service_create
    (makes : Makes send config userId localPart x status bytes d imapPassword smtpPassword) :
    ((overHttp config send (encryptUnder key)).service (.create userId localPart) x).1
      = .ok ⟨Text.trim d.email, .ofDocument d.imap, .ofDocument d.smtp⟩ := by
  obtain ⟨url, at_, sendable, answered⟩ := makes.answered
  obtain ⟨json, parsed, decoded⟩ := Option.bind_eq_some_iff.1 makes.decoded
  have whole : Http.bodyBytes? status (.complete bytes) = some bytes := by
    rw [Http.bodyBytes?, makes.carries]
    rfl
  have read : document MailboxDocument.ofJson? status (.complete bytes) = .ok d :=
    document_eq_ok_iff.2 ⟨bytes, json, whole, parsed, decoded⟩
  have described := ofDocument_eq_ok_iff.2 ⟨makes.wellFormed, rfl⟩
  rw [Engine.service_create, createMailbox_of_url localPart at_, run_perform sendable]
  dsimp only
  rw [answered]
  simp only [Exchange.ofReply, makes.success, if_true, read]
  exact described

/-! ## The row -/

/-- The account that is returned for a mailbox, and found in the table. -/
def RecordsAs (key : MasterKey) (userId displayName : String) (d : MailboxDocument)
    (imapPassword smtpPassword : String) (id : AccountId) (result : Except Fault Account)
    (t : Table) : Prop :=
  ∃ a, result = .ok a ∧ a.id = some id ∧ t.findById userId id = some a ∧
    Account.Renders key userId displayName d imapPassword smtpPassword a

/-- A mailbox with both passwords is recorded in a table without rows. -/
theorem ends_persist_unaltered (vacant : s.table.rows = []) (next : s.table.nextId? = some id)
    (imap : d.imap.password = some imapPassword) (smtp : d.smtp.password = some smtpPassword) :
    (persist (.new userId (Text.trim d.email))
        ⟨Text.trim d.email, .ofDocument d.imap, .ofDocument d.smtp⟩ displayName).Ends
      (overHttp config send (encryptUnder key)).answer s fun result s' =>
        RecordsAs key userId displayName d imapPassword smtpPassword id result s'.table := by
  have has : Mailbox.hasCredentials
      ⟨Text.trim d.email, .ofDocument d.imap, .ofDocument d.smtp⟩ = true := by
    simp [Mailbox.hasCredentials, MailServer.ofDocument, imap, smtp]
  have whole : withIssuedPassword userId
      ⟨Text.trim d.email, .ofDocument d.imap, .ofDocument d.smtp⟩ = .done _ := if_pos has
  unfold persist
  rw [show (Account.new userId (Text.trim d.email)).userId = userId from rfl, whole]
  refine (yields_encryptedEndpoint (.ofDocument d.imap) imap).bind ?_
  rintro inbound s₁ ⟨first, inCiphertext, rfl, readsImap⟩
  refine (yields_encryptedEndpoint (.ofDocument d.smtp) smtp).bind ?_
  rintro outbound s₂ ⟨second, outCiphertext, rfl, readsSmtp⟩
  have kept : s₂.table = s.table := second.trans first
  refine encryptUnder_steady.ends_write.mono ?_
  intro result s' ends
  obtain ⟨answered, after, -⟩ := ends
  have wrote := Table.write_of_rows_eq_nil
    (a := renewed (.new userId (Text.trim d.email)) displayName
      (endpointOf (.ofDocument d.imap) inCiphertext)
      (endpointOf (.ofDocument d.smtp) outCiphertext)) vacant next rfl
  obtain ⟨_, given, found⟩ :=
    (Table.sound_of_rows_eq_nil vacant).findById_of_write_eq_ok wrote
  cases given
  rw [kept] at answered after
  -- The new account has no id yet, so the statement that writes it is the one to save it.
  change result = (s.table.afterWrite (s.table.write (renewed _ displayName _ _))).1.mapError _
    at answered
  change s'.table = (s.table.afterWrite (s.table.write (renewed _ displayName _ _))).2 at after
  rw [wrote] at answered after
  rw [after]
  exact ⟨_, answered, rfl, found, rfl, rfl, rfl, rfl, renders_endpointOf readsImap,
    renders_endpointOf readsSmtp⟩

/-- A mailbox that the service has made for a valid request is recorded as it is: the record that is
found in the table, and returned, tells of the mailbox what the service has told. -/
theorem createOrUpdate_unaltered (valid : violations userId localPart displayName = [])
    (makes : Makes send config userId localPart x status bytes d imapPassword smtpPassword)
    (vacant : t.rows = []) (next : t.nextId? = some id) :
    (createOrUpdate config.domain userId localPart displayName).Ends
      (overHttp config send (encryptUnder key)).answer ⟨t, x, []⟩ fun result s' =>
        RecordsAs key userId displayName d imapPassword smtpPassword id result s'.table := by
  have nothing : t.findByAddress userId (Address.ofParts localPart config.domain) = none := by
    rw [Table.findByAddress, vacant]
    rfl
  have first : (Operation.table (.findByAddress userId (Address.ofParts localPart
      config.domain))).Yields (overHttp config send (encryptUnder key)).answer ⟨t, x, []⟩
      fun found s₁ => found = none ∧ s₁.table = t ∧ s₁.others = x := by
    refine Operation.ends_table ?_ ?_
    · intro e others fails
      cases fails
    · intro others works
      cases works
      exact ⟨_, rfl, nothing, rfl, rfl⟩
  simp only [createOrUpdate, valid]
  refine first.bind ?_
  rintro found s₁ ⟨rfl, kept, others⟩
  refine Operation.yields_tryService.bind ?_
  rintro answer s₂ ⟨rfl, after⟩
  rw [others, makes.service_create]
  have same : s₂.table = t := by
    rw [after]
    exact kept
  rw [← same] at vacant next
  exact ends_persist_unaltered vacant next makes.imap makes.smtp

/-- Jane's service, with a source of random bytes beside it. -/
def janesServerBeside (r : Http.Request) (x : Bool × ByteSource) :
    Http.Reply × (Bool × ByteSource) :=
  ((janesServer "example.com" r x.1).1, (janesServer "example.com" r x.1).2, x.2)

/-- The first account of all is Jane's, under a key of zeros and with nonces of zeros. -/
theorem createOrUpdate_unaltered_jane :
    (createOrUpdate "example.com" "u1" "jane" " Jane ").Ends
      (overHttp (janesConfig "example.com") janesServerBeside
        (encryptUnder ⟨List.replicate 32 0, rfl⟩)).answer
      ⟨.empty, (false, ByteSource.ofList []), []⟩ fun result s' =>
        RecordsAs ⟨List.replicate 32 0, rfl⟩ "u1" " Jane "
          (janesDocument "example.com" (some "first")) "first" "first" ⟨1⟩ result s'.table := by
  have makes : Makes janesServerBeside (janesConfig "example.com") "u1" "jane"
      (false, ByteSource.ofList []) 201
      (Text.utf8 (janesDocument "example.com" (some "first")).toJson.renderChars)
      (janesDocument "example.com" (some "first")) "first" "first" := by
    refine ⟨⟨_, rfl, by decide +kernel, ?_⟩, rfl, rfl, by decide +kernel, by decide +kernel, rfl,
      rfl⟩
    have domain : (janesConfig "example.com").domain = "example.com" := rfl
    unfold janesServerBeside janesServer creationRequest
    dsimp only
    rw [domain, if_pos (CreationDocument.ofJson?_render _)]
    rfl
  exact createOrUpdate_unaltered (by decide +kernel) makes rfl rfl

end MailboxKeeper.Engine
