import MailboxKeeper.Proofs.Address.Domain
import MailboxKeeper.Proofs.Engine.AddressMismatch
import MailboxKeeper.Proofs.Provisioning.RepeatedRequest
import MailboxKeeper.Settings

/-!
# Domains under which accounts can be made over HTTP

A configuration is accepted with any domain that is not blank, but the client takes no mailbox whose
address is not well-formed. The two rules meet in a first request for an account that the service
grants to the letter: it makes a mailbox at the very address that was asked for and names both
passwords. The request succeeds exactly if the domain is dotted, blanks at its end aside; under any
other domain the mailbox is made, but the account is not (`createOrUpdate_granted_iff`). The domain
that settings have by default is of the other kind.
-/

namespace MailboxKeeper.Engine

open AccountRequest Provisioning Store

variable {σ : Type} {config : Config} {send : Http.Request → σ → Http.Reply × σ}
variable {encrypt : String → σ → Except Credential.Error String × σ}
variable {userId localPart displayName : String} {s : Scene σ} {x : σ} {url : Url} {status : Nat}
variable {body : Http.Body} {d : MailboxDocument} {mailbox : Mailbox}

/-- The service answers the request for a mailbox by a success, with a document that shows it at the
very address that was asked for and with both passwords. -/
structure Grants (send : Http.Request → σ → Http.Reply × σ) (config : Config)
    (userId localPart : String) (x : σ) (url : Url) (status : Nat) (body : Http.Body)
    (d : MailboxDocument) : Prop where
  at_ : mailboxUrl config userId [] = .ok url
  sendable : Exchange.isSendable url = true
  answered : (send (creationRequest config url localPart) x).1 = .response status body
  success : Http.isSuccess status = true
  read : document MailboxDocument.ofJson? status body = .ok d
  email : d.email = Address.ofParts localPart config.domain
  imap : d.imap.password.isSome = true
  smtp : d.smtp.password.isSome = true

theorem Grants.service_create (grants : Grants send config userId localPart x url status body d) :
    ((overHttp config send encrypt).service (.create userId localPart) x).1
      = Mailbox.ofDocument d := by
  have made := createMailbox_of_url localPart grants.at_
  rw [Engine.service_create, made, run_perform grants.sendable]
  dsimp only
  rw [grants.answered]
  simp only [Exchange.ofReply, grants.success, if_true, grants.read]
  rfl

theorem Grants.hasCredentials (grants : Grants send config userId localPart x url status body d)
    (read : Mailbox.ofDocument d = .ok mailbox) : mailbox.hasCredentials = true := by
  unfold Mailbox.ofDocument at read
  split at read
  · cases read
    simp [Mailbox.hasCredentials, MailServer.ofDocument, grants.imap, grants.smtp]
  · cases read

/-! ## An address that is of no use -/

/-- What the client finds has an address that was well-formed. -/
theorem isMailboxAt_of_outcome {found : Except Provisioning.Error (Option MailboxDocument)}
    (shown : outcome foundMailbox found = .ok (some mailbox)) :
    ∃ address, IsMailboxAt mailbox address := by
  cases found with
  | error e => cases shown
  | ok document? =>
    cases document? with
    | none => cases shown
    | some d =>
      cases read : Mailbox.ofDocument d with
      | error failure =>
        simp only [outcome, foundMailbox, read] at shown
        cases shown
      | ok m =>
        simp only [outcome, foundMailbox, read] at shown
        cases shown
        exact ⟨d.email, isMailboxAt_of_ofDocument read⟩

/-- Whatever the service is found to hold, the client sees no mailbox at an address that is not
well-formed. -/
theorem ends_resolve_unusable
    (unusable : Address.isWellFormed (Address.ofParts localPart config.domain) = false) :
    (resolve config.domain userId localPart).Ends (overHttp config send encrypt).answer s
      fun result s' => s'.table = s.table ∧ ∀ mailbox, result ≠ .ok (.retry mailbox) := by
  refine (Operation.ends_service ?_).bind (m := fun result s₁ => s₁.table = s.table ∧
    ∀ mailbox, result = .ok (some mailbox) → ∃ address, IsMailboxAt mailbox address) ?_ ?_
  · intro answer others heard
    refine ⟨rfl, ?_⟩
    intro mailbox shown
    have found : answer = .ok (some mailbox) := by
      cases answer with
      | error failure => cases shown
      | ok found => exact congrArg Except.ok (Except.ok.inj shown)
    exact isMailboxAt_of_outcome ((congrArg Prod.fst heard).trans found)
  · intro found s₁ ends
    obtain ⟨kept, told⟩ := ends
    refine ⟨kept, ?_⟩
    intro mailbox retry
    obtain ⟨rfl, same⟩ := of_ofMailbox_eq_retry (Except.ok.inj retry)
    obtain ⟨address, wellFormed, email⟩ := told mailbox rfl
    have trimmed : Address.same mailbox.email address = true := by
      rw [email, Address.same_iff, Text.toList_trim, Text.trimChars_trimChars]
    rw [← Address.isWellFormed_of_same same, Address.isWellFormed_of_same trimmed, wellFormed]
      at unusable
    cases unusable
  · intro fault s₁ ends
    exact ⟨ends.1, fun _ => nofun⟩

theorem ends_recover_unusable {refusal : Fault}
    (unusable : Address.isWellFormed (Address.ofParts localPart config.domain) = false) :
    (recover config.domain userId localPart displayName refusal).Ends
      (overHttp config send encrypt).answer s
      fun result s' => (∃ fault, result = .error fault) ∧ s'.table = s.table := by
  refine Dialogue.Ends.bind (m := fun result s₁ => s₁.table = s.table ∧
    ∀ mailbox, result ≠ .ok (.retry mailbox)) ?_ ?_ ?_
  · refine ((ends_resolve_unusable unusable).mono ?_).mapError
    intro result s₁ ends
    cases result with
    | error fault => exact ⟨ends.1, fun _ => nofun⟩
    | ok resolution => exact ends
  · intro resolution s₁ ends
    obtain ⟨kept, otherwise⟩ := ends
    cases resolution with
    | retry mailbox => exact absurd rfl (otherwise mailbox)
    | noExistingAccount => exact ⟨⟨_, rfl⟩, kept⟩
    | emailMismatch expected existing => exact ⟨⟨_, rfl⟩, kept⟩
  · exact fun fault _ ends => ⟨⟨fault, rfl⟩, ends.1⟩

/-! ## A mailbox with both passwords -/

/-- A mailbox with passwords is recorded in an empty table, if passwords can be encrypted. -/
theorem ends_persist_empty (encrypts : ∀ p x, ∃ c, (encrypt p x).1 = .ok c)
    (has : mailbox.hasCredentials = true) (empty : s.table = .empty) :
    (persist (.new userId mailbox.email) mailbox displayName).Ends
      (overHttp config send encrypt).answer s
      fun result s' => ∃ a, result = .ok a ∧ s'.Stores a ∧ a.email = mailbox.email := by
  have steady : (overHttp config send encrypt).Steady fun _ => () :=
    ⟨fun _ _ => ⟨rfl, rfl⟩, fun p x => ⟨encrypts p x, rfl⟩⟩
  have issued : withIssuedPassword userId mailbox = .done mailbox := if_pos has
  unfold persist
  rw [show (Account.new userId mailbox.email).userId = userId from rfl, issued]
  refine (steady.ends_encrypt_write _).mono ?_
  intro result s' ends
  obtain ⟨inbound, outbound, -, -, answered, wrote, -⟩ := ends
  rw [empty, Table.write_of_rows_eq_nil rfl rfl rfl] at answered wrote
  refine ⟨_, answered, ⟨⟨1⟩, rfl, ?_⟩, rfl⟩
  rw [wrote]
  exact Table.mem_append.2 (.inr rfl)

/-! ## A granted mailbox -/

section Granted

variable (grants : Grants send config userId localPart x url status body d)
variable (empty : s.table = .empty) (others : s.others = x)

include grants empty others

theorem ends_provision_usable (encrypts : ∀ p x, ∃ c, (encrypt p x).1 = .ok c)
    (usable : Address.isWellFormed (Address.ofParts localPart config.domain) = true) :
    (provision config.domain userId localPart displayName).Ends
      (overHttp config send encrypt).answer s
      fun result s' => ∃ a, result = .ok a ∧ s'.Stores a := by
  refine Operation.yields_tryService.bind ?_
  intro answer s₁ heard
  obtain ⟨rfl, after⟩ := heard
  have kept : s₁.table = .empty := by
    rw [after]
    exact empty
  rw [others, grants.service_create]
  cases read : Mailbox.ofDocument d with
  | ok mailbox =>
    refine (ends_persist_empty encrypts (grants.hasCredentials read) kept).mono ?_
    intro result s' ends
    obtain ⟨a, succeeded, stored, -⟩ := ends
    exact ⟨a, succeeded, stored⟩
  | error failure =>
    rw [← grants.email] at usable
    rw [Mailbox.ofDocument, if_pos usable] at read
    cases read

/-- The service has made the mailbox, but the client does not take it. -/
theorem ends_provision_unusable
    (unusable : Address.isWellFormed (Address.ofParts localPart config.domain) = false) :
    (provision config.domain userId localPart displayName).Ends
      (overHttp config send encrypt).answer s
      fun result s' => (∃ fault, result = .error fault) ∧ s'.table = .empty := by
  refine Operation.yields_tryService.bind ?_
  intro answer s₁ heard
  obtain ⟨rfl, after⟩ := heard
  have kept : s₁.table = .empty := by
    rw [after]
    exact empty
  rw [others, grants.service_create]
  cases read : Mailbox.ofDocument d with
  | ok mailbox =>
    obtain ⟨wellFormed, -⟩ := isMailboxAt_of_ofDocument read
    rw [grants.email, unusable] at wellFormed
    cases wellFormed
  | error failure =>
    refine (ends_recover_unusable unusable).mono ?_
    intro result s' ends
    obtain ⟨failed, same⟩ := ends
    exact ⟨failed, same.trans kept⟩

end Granted

/-- A first request for an account, which the service grants, succeeds exactly if the domain is
dotted, blanks at its end aside. Otherwise nothing is recorded of the mailbox that was made. -/
theorem createOrUpdate_granted_iff (valid : violations userId localPart displayName = [])
    (grants : Grants send config userId localPart x url status body d)
    (encrypts : ∀ p x, ∃ c, (encrypt p x).1 = .ok c) :
    (createOrUpdate config.domain userId localPart displayName).Ends
      (overHttp config send encrypt).answer ⟨.empty, x, []⟩ fun result s' =>
        ((∃ a, result = .ok a ∧ s'.Stores a) ↔
          Address.isDottedDomain (config.domain.toList.rdropWhile Text.isBlank) = true) ∧
        (Address.isDottedDomain (config.domain.toList.rdropWhile Text.isBlank) = false →
          (∃ fault, result = .error fault) ∧ s'.table = .empty) := by
  have local_ := localPartViolation?_of_violations valid
  simp only [createOrUpdate, valid, ← Address.isWellFormed_ofParts local_]
  refine Dialogue.Ends.bind (m := fun result s₁ => result = .ok none ∧ s₁.table = .empty ∧
    s₁.others = x) ?_ ?_ ?_
  · refine Operation.ends_table ?_ ?_
    · intro e others fails
      cases fails
    · intro others works
      cases works
      exact ⟨rfl, rfl, rfl⟩
  · intro found s₁ ends
    obtain ⟨same, empty, others⟩ := ends
    cases same
    cases dotted : Address.isWellFormed (Address.ofParts localPart config.domain) with
    | true =>
      refine (ends_provision_usable grants empty others encrypts dotted).mono ?_
      intro result s' succeeds
      refine ⟨⟨fun _ => rfl, fun _ => succeeds⟩, ?_⟩
      intro undotted
      cases undotted
    | false =>
      refine (ends_provision_unusable grants empty others dotted).mono ?_
      intro result s' ends
      refine ⟨⟨?_, ?_⟩, fun _ => ends⟩
      · rintro ⟨a, rfl, -⟩
        obtain ⟨⟨fault, failed⟩, -⟩ := ends
        cases failed
      · intro dotted
        cases dotted
  · intro fault s₁ ends
    cases ends.1

/-! ## Two configurations -/

variable (config) in
/-- Jane's service grants the first request for her mailbox, wherever it is, if its document can be
read. -/
theorem janesServer_grants (reachable : Reachable config "u1" [])
    (read : document MailboxDocument.ofJson? 201
      (documentBody (janesDocument config.domain (some "first")).toJson)
        = .ok (janesDocument config.domain (some "first"))) :
    ∃ url, Grants (janesServer config.domain) config "u1" "jane" false url 201
      (documentBody (janesDocument config.domain (some "first")).toJson)
      (janesDocument config.domain (some "first")) := by
  obtain ⟨url, at_, sendable⟩ := reachable
  refine ⟨url, at_, sendable, ?_, rfl, read, rfl, rfl, rfl⟩
  unfold janesServer creationRequest
  dsimp only
  rw [if_pos (CreationDocument.ofJson?_render _)]

/-- Under a dotted domain Jane gets her account. -/
theorem createOrUpdate_granted_jane :
    (createOrUpdate "example.com" "u1" "jane" "Jane").Ends (janes "example.com").answer
      ⟨.empty, false, []⟩ fun result s' => ∃ a, result = .ok a ∧ s'.Stores a := by
  obtain ⟨url, grants⟩ := janesServer_grants (janesConfig "example.com")
    ⟨_, rfl, by decide +kernel⟩ (by decide +kernel)
  refine (createOrUpdate_granted_iff (by decide +kernel) grants fun p _ => ⟨p, rfl⟩).mono ?_
  intro result s' ends
  exact ends.1.2 (by decide +kernel)

/-- The client for the settings that hold when nothing is set, but for the password. -/
def localConfig : Config :=
  ⟨⟨"http", some ⟨"", "", .domain "localhost", some 8080⟩, false, .segments ["api", "v1"], none,
    none⟩, "mailprov", "secret", "localhost", 30000, false⟩

/-- Jane's first request under that configuration, and where it ends. -/
def localFirst : Except Fault Account × Scene Bool :=
  (overHttp localConfig (janesServer "localhost") keepPlain).perform
    (createOrUpdate localConfig.domain "u1" "jane" "Jane") ⟨.empty, false, []⟩

/-- Under the domain that settings have by default Jane gets a mailbox, but no account. -/
theorem createOrUpdate_granted_localhost :
    Config.new Settings.default.apiUrl Settings.default.apiUser "secret" Settings.default.domain
        = .ok localConfig ∧
      violations "u1" "jane" "Jane" = [] ∧ (∀ p x, ∃ c, (keepPlain p x).1 = .ok c) ∧
      (∃ url, Grants (janesServer "localhost") localConfig "u1" "jane" false url 201
        (documentBody (janesDocument "localhost" (some "first")).toJson)
        (janesDocument "localhost" (some "first"))) ∧
      localFirst.1.isOk = false ∧ localFirst.2.table = .empty ∧ localFirst.2.others = true :=
  ⟨by decide +kernel, by decide +kernel, fun p _ => ⟨p, rfl⟩,
    janesServer_grants localConfig ⟨_, rfl, by decide +kernel⟩ (by decide +kernel),
    by decide +kernel, by decide +kernel, by decide +kernel⟩

end MailboxKeeper.Engine
