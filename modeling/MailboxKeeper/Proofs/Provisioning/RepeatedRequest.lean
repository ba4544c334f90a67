import MailboxKeeper.Proofs.Address.Comparison
import MailboxKeeper.Proofs.Engine.Steady
import MailboxKeeper.Proofs.Provisioning.OverHttp

/-!
# Making a request again over HTTP

A request for an account that has succeeded is made once more, over a service that answers HTTP
requests as it should. Three notions of the requested address meet here: the one the service was
asked for, the one the client keeps, without blanks at its ends, and the one the table looks for,
blanks and all. If the provisioning domain ends in a blank, the record of the first request is at
the second but not at the third, and the second request runs into it (`createOrUpdate_again_iff`).
-/

namespace MailboxKeeper.Engine

open AccountRequest Provisioning Store

variable {σ α : Type} {config : Config} {send : Http.Request → σ → Http.Reply × σ}
variable {encrypt : String → σ → Except Credential.Error String × σ} {held : σ → Option String}
variable {userId localPart displayName address : String} {s : Scene σ} {op : Operation α}

/-- The encryption never fails, and it does not concern the service. -/
def Encrypts (encrypt : String → σ → Except Credential.Error String × σ)
    (held : σ → Option String) : Prop :=
  ∀ p x, (∃ c, (encrypt p x).1 = .ok c) ∧ held (encrypt p x).2 = held x

/-- The service holds a mailbox that can be looked up, and `email` is what the client makes of its
address. -/
structure Found (config : Config) (userId localPart : String) (held : σ → Option String) (x : σ)
    (email : String) : Prop where
  reachable : Reachable config userId []
  there : ∃ address, held x = some address ∧ Address.isWellFormed address = true ∧
    email = Text.trim address
  same : Address.same email (Address.ofParts localPart config.domain) = true

/-- Where a request succeeds, it has saved a new account of a mailbox that can be looked up. -/
def SavesFound (config : Config) (userId localPart : String) (held : σ → Option String)
    (t : Table) (result : Except Fault Account) (s' : Scene σ) : Prop :=
  ∀ account, result = .ok account → Found config userId localPart held s'.others account.email ∧
    ∃ a, a.id = none ∧ a.userId = userId ∧ t.write a = .ok (account, s'.table)

/-- The scene after a first request that has succeeded: the table has one row, for a mailbox that
can be looked up. -/
structure Once (config : Config) (userId localPart : String) (held : σ → Option String)
    (account : Account) (s : Scene σ) : Prop where
  found : Found config userId localPart held s.others account.email
  owner : account.userId = userId
  id : account.id = some ⟨1⟩
  table : s.table = Table.empty.append ⟨⟨1⟩, .ofAccount account⟩

/-- Nothing has been saved to a new row. -/
def Scene.SavesNothing (s : Scene σ) : Prop :=
  ∀ turn ∈ s.transcript, ∀ a, turn.call ≠ .table (.save a)

theorem ends_savesNothing {k : Collaborators σ} (asks : op.Asks fun c => ∀ a, c ≠ .table (.save a))
    (before : s.SavesNothing) : op.Ends k.answer s fun _ s' => s'.SavesNothing := by
  refine (ends_transcript asks).mono ?_
  intro result s' ends turn member
  obtain ⟨turns, transcript, others⟩ := ends
  rw [transcript, List.mem_append] at member
  exact member.elim (before turn) (others turn)

theorem overHttp_steady (encrypts : Encrypts encrypt held) :
    (overHttp config send encrypt).Steady held :=
  ⟨fun _ _ => ⟨rfl, rfl⟩, encrypts⟩

theorem withIssuedPassword_of_lacks {mailbox : Mailbox} (lacks : mailbox.hasCredentials = false) :
    withIssuedPassword userId mailbox = do
      let password ← Operation.service (.resetPassword userId)
      return mailbox.withPassword password :=
  if_neg (by rw [lacks]; exact Bool.false_ne_true)

/-! ## The table of one row -/

section OneRow

variable {account a : Account} {email : String}

theorem findByAddress_once (owner : account.userId = userId) (id : account.id = some ⟨1⟩) :
    (Table.empty.append ⟨⟨1⟩, .ofAccount account⟩).findByAddress userId email
      = if sameAddress account.email email then some account else none := by
  have row : (Row.mk ⟨1⟩ (.ofAccount account)).toAccount = account := by
    rw [toAccount_ofAccount, ← id]
  subst owner
  simp only [Table.findByAddress, Table.append, Table.empty, List.nil_append, List.find?_singleton,
    Entry.isAt, Entry.ofAccount, beq_self_eq_true, Bool.true_and]
  split
  · exact congrArg some row
  · rfl

theorem write_once (id : a.id = some ⟨1⟩) (owner : a.userId = account.userId) :
    (Table.empty.append ⟨⟨1⟩, .ofAccount account⟩).write a
      = .ok (a, Table.empty.append ⟨⟨1⟩, .ofAccount a⟩) := by
  have saved : a.isSaved = true := by rw [Account.isSaved, id]; rfl
  rw [Table.write, if_pos saved,
    Table.update_of_row (r := ⟨⟨1⟩, .ofAccount account⟩) (by simp [Table.append]) id owner.symm]
  · rfl
  · intro s member at_
    rw [List.mem_singleton.1 member]

/-- The same address cannot be saved to another row. -/
theorem write_twice (id : a.id = none) (owner : a.userId = account.userId)
    (address : a.email = account.email) :
    (Table.empty.append ⟨⟨1⟩, .ofAccount account⟩).write a
      = .error (.database .duplicateAddress) := by
  have unsaved : a.isSaved = false := by rw [Account.isSaved, id]; rfl
  have sound : (Table.empty.append ⟨⟨1⟩, .ofAccount account⟩).Sound :=
    Table.Sound.empty.append (show (0 : Int64) < 1 by decide) nofun
  have same : (Entry.ofAccount account).isAt a.userId a.email = true := by
    rw [owner, address]
    exact Entry.isAt_self (.ofAccount account)
  have next : (Table.empty.append ⟨⟨1⟩, .ofAccount account⟩).nextId? = some ⟨2⟩ := rfl
  rw [Table.write, if_neg (by rw [unsaved]; exact Bool.false_ne_true)]
  exact sound.save_of_taken next (List.mem_singleton_self _) same

theorem count_once (owner : a.userId = userId) :
    (Table.empty.append ⟨⟨1⟩, .ofAccount a⟩).count userId = 1 := by
  subst owner
  simp [Table.count, Table.append, Table.empty, Entry.ofAccount]

theorem Once.quiet {s' : Scene σ} (once : Once config userId localPart held account s)
    (quiet : Quiet held s s') : Once config userId localPart held account s' := by
  obtain ⟨⟨reachable, ⟨address, there, wellFormed⟩, same⟩, owner, id, table⟩ := once
  exact ⟨⟨reachable, ⟨address, quiet.holdings.trans there, wellFormed⟩, same⟩, owner, id,
    quiet.table.trans table⟩

/-- The record of the first request is found only if the domain does not end in a blank. -/
theorem Once.findByAddress (once : Once config userId localPart held account s)
    (valid : localPartViolation? localPart = none) :
    s.table.findByAddress userId (Address.ofParts localPart config.domain)
      = if config.domain.toList.rdropWhile Text.isBlank = config.domain.toList then some account
        else none := by
  obtain ⟨found, owner, id, table⟩ := once
  have trimmed : Text.trimChars account.email.toList = account.email.toList := by
    obtain ⟨address, -, -, email⟩ := found.there
    rw [email, Text.toList_trim, Text.trimChars_trimChars]
  rw [table, findByAddress_once owner id]
  exact if_congr (sameAddress_trimmed_iff valid trimmed found.same) rfl rfl

end OneRow

section Requests

variable (serves : ServesUser send config userId localPart held) (encrypts : Encrypts encrypt held)

include serves encrypts

/-- A mailbox that is there stays there, whatever the client looks up or resets. -/
theorem ends_there (there : held s.others = some address)
    (asks : op.Asks fun c => ∀ r, c = .service r → r = .get userId ∨ r = .resetPassword userId) :
    op.Ends (overHttp config send encrypt).answer s fun _ s' => held s'.others = some address := by
  refine asks.runFrom (R := fun s s' : Scene σ =>
    held s.others = some address → held s'.others = some address)
    (fun _ => id) (fun first second => second ∘ first) ?_ s there
  intro c s kind there
  cases c with
  | table statement => exact there
  | encrypt p => exact (encrypts p s.others).2.trans there
  | service r =>
    show held ((overHttp config send encrypt).service r s.others).2 = some address
    rcases kind r rfl with rfl | rfl
    · by_cases reachable : Reachable config userId []
      · exact (get_of_some encrypt serves there reachable).1
      · obtain ⟨failure, failed⟩ := get_unreachable send encrypt s.others reachable
        rw [failed]
        exact there
    · by_cases reachable : Reachable config userId ["password"]
      · exact (reset_of_some encrypt serves there reachable).2
      · obtain ⟨failure, failed⟩ := reset_unreachable send encrypt s.others reachable
        rw [failed]
        exact there

/-! ## The first request -/

variable (encrypt) in
omit encrypts in
/-- After a request for a mailbox there is one, if the service was reached at all, and what the
service tells of it can be found again. -/
theorem created_found (x : σ) :
    match ((overHttp config send encrypt).service (.create userId localPart) x).1 with
    | .ok mailbox => Found config userId localPart held
        ((overHttp config send encrypt).service (.create userId localPart) x).2
        (Mailbox.email mailbox)
    | .error _ => Reachable config userId [] → ∃ address,
        held ((overHttp config send encrypt).service (.create userId localPart) x).2
          = some address := by
  by_cases reachable : Reachable config userId []
  · cases there : held x with
    | none =>
      obtain ⟨holds, told⟩ := create_of_none encrypt localPart serves there reachable
      cases answered : ((overHttp config send encrypt).service (.create userId localPart) x).1 with
      | error failure => exact fun _ => ⟨_, holds⟩
      | ok mailbox =>
        obtain ⟨wellFormed, email⟩ := told mailbox answered
        refine ⟨reachable, ⟨_, holds, wellFormed, email⟩, ?_⟩
        rw [email, Address.same_iff, Text.toList_trim, Text.trimChars_trimChars]
    | some address =>
      obtain ⟨failure, refused, holds⟩ := create_of_some encrypt localPart serves there reachable
      rw [refused]
      exact fun _ => ⟨address, holds⟩
  · obtain ⟨failure, failed⟩ := create_unreachable send encrypt localPart x reachable
    rw [failed]
    exact fun reachable' => absurd reachable' reachable

omit encrypts in
theorem ends_resolve_found
    (there : Reachable config userId [] → ∃ address, held s.others = some address) :
    (resolve config.domain userId localPart).Ends (overHttp config send encrypt).answer s
      fun result s' => s'.table = s.table ∧ ∀ mailbox, result = .ok (.retry mailbox) →
        Found config userId localPart held s'.others mailbox.email := by
  refine (Operation.ends_service ?_).bind (m := fun result s₁ => s₁.table = s.table ∧
    ∀ mailbox, result = .ok (some mailbox) → Reachable config userId [] ∧ ∃ address,
      held s₁.others = some address ∧ IsMailboxAt mailbox address) ?_ ?_
  · intro answer others heard
    refine ⟨rfl, ?_⟩
    intro mailbox shown
    cases answer with
    | error failure => cases shown
    | ok found =>
      cases shown
      by_cases reachable : Reachable config userId []
      · obtain ⟨address, holds⟩ := there reachable
        obtain ⟨holds', told⟩ := get_of_some encrypt serves holds reachable
        rw [heard] at holds' told
        split at told
        · obtain ⟨_, same, isAt, -⟩ := told
          cases same
          exact ⟨reachable, address, holds', isAt⟩
        · obtain ⟨failure, same⟩ := told
          cases same
      · obtain ⟨failure, failed⟩ := get_unreachable send encrypt s.others reachable
        rw [heard] at failed
        cases failed
  · intro found s₁ ends
    obtain ⟨kept, told⟩ := ends
    refine ⟨kept, ?_⟩
    intro mailbox retry
    obtain ⟨rfl, same⟩ := of_ofMailbox_eq_retry (Except.ok.inj retry)
    obtain ⟨reachable, address, holds, wellFormed, email⟩ := told mailbox rfl
    exact ⟨reachable, ⟨address, holds, wellFormed, email⟩, same⟩
  · intro fault s₁ ends
    exact ⟨ends.1, fun _ => nofun⟩

theorem ends_persist_found {mailbox : Mailbox} {email : String}
    (found : Found config userId localPart held s.others email) :
    (persist (.new userId email) mailbox displayName).Ends (overHttp config send encrypt).answer s
      (SavesFound config userId localPart held s.table) := by
  obtain ⟨reachable, ⟨address, holds, wellFormed, trimmed⟩, same⟩ := found
  refine ((ends_there serves encrypts holds (asks_persist ?_ ?_ ?_ ?_)).and ends_persist).mono ?_
  · intro r same
    cases same
    exact .inr rfl
  · exact fun _ _ => nofun
  · exact fun _ _ _ => nofun
  · exact fun _ _ _ => nofun
  · intro result s' ends account ok
    obtain ⟨holds', wrote⟩ := ends
    subst ok
    obtain ⟨a, id, owner, address_, write⟩ := wrote
    obtain ⟨_, written, -⟩ := Table.of_write_eq_ok write
    have kept : account.email = email := by
      rw [written]
      exact address_
    refine ⟨?_, a, id, owner, write⟩
    rw [kept]
    exact ⟨reachable, ⟨address, holds', wellFormed, trimmed⟩, same⟩

theorem ends_recover_found {refusal : Fault}
    (there : Reachable config userId [] → ∃ address, held s.others = some address) :
    (recover config.domain userId localPart displayName refusal).Ends
      (overHttp config send encrypt).answer s
      (SavesFound config userId localPart held s.table) := by
  refine Dialogue.Ends.bind (m := fun result s₁ => s₁.table = s.table ∧
    ∀ mailbox, result = .ok (.retry mailbox) →
      Found config userId localPart held s₁.others mailbox.email) ?_ ?_ ?_
  · refine ((ends_resolve_found serves there).mono ?_).mapError
    intro result s₁ ends
    cases result with
    | error fault => exact ⟨ends.1, fun _ => nofun⟩
    | ok resolution => exact ends
  · intro resolution s₁ ends
    obtain ⟨kept, found⟩ := ends
    cases resolution with
    | retry mailbox =>
      rw [← kept]
      exact ends_persist_found serves encrypts (found mailbox rfl)
    | noExistingAccount => exact fun _ => nofun
    | emailMismatch expected existing => exact fun _ => nofun
  · exact fun _ _ _ _ => nofun

theorem ends_provision_found :
    (provision config.domain userId localPart displayName).Ends
      (overHttp config send encrypt).answer s
      (SavesFound config userId localPart held s.table) := by
  refine Operation.yields_tryService.bind ?_
  intro answer s₁ heard
  obtain ⟨rfl, after⟩ := heard
  have found := created_found encrypt serves s.others
  have kept : s₁.table = s.table := by rw [after]; rfl
  have others : s₁.others = ((overHttp config send encrypt).service (.create userId localPart)
      s.others).2 := by rw [after]; rfl
  rw [← others] at found
  rw [← kept]
  cases answered :
    ((overHttp config send encrypt).service (.create userId localPart) s.others).1 with
  | error failure =>
    rw [answered] at found
    exact ends_recover_found serves encrypts found
  | ok mailbox =>
    rw [answered] at found
    exact ends_persist_found serves encrypts found

/-- A request that succeeds on an empty table leaves one row, of a mailbox that can be looked up. -/
theorem ends_createOrUpdate_once (empty : s.table = .empty) :
    (createOrUpdate config.domain userId localPart displayName).Ends
      (overHttp config send encrypt).answer s fun result s' =>
        ∀ account, result = .ok account → Once config userId localPart held account s' := by
  unfold createOrUpdate
  split
  · have steady : (overHttp config send encrypt).Steady held := overHttp_steady encrypts
    refine steady.yields_findByAddress.bind ?_
    intro account? s₁ ends
    obtain ⟨found, quiet⟩ := ends
    rw [empty] at found
    subst found
    refine (ends_provision_found serves encrypts).mono ?_
    intro result s' wrote account ok
    obtain ⟨found, a, unsaved, owner, write⟩ := wrote account ok
    rw [quiet.table, empty, Table.write, Account.isSaved, unsaved] at write
    obtain ⟨id, next, rfl, table, -⟩ := Table.Sound.empty.of_save_eq_ok write
    cases next
    exact ⟨found, owner, rfl, table⟩
  · exact fun _ => nofun

/-! ## The second request -/

omit encrypts in
/-- What was found can be taken over, though its passwords are not shown. -/
theorem yields_resolve_again {email : String}
    (found : Found config userId localPart held s.others email) :
    (resolve config.domain userId localPart).Yields (overHttp config send encrypt).answer s
      fun resolution s' => Quiet held s s' ∧ ∃ mailbox, resolution = .retry mailbox ∧
        mailbox.email = email ∧ mailbox.hasCredentials = false := by
  obtain ⟨reachable, ⟨address, holds, wellFormed, trimmed⟩, same⟩ := found
  obtain ⟨holds', told⟩ := get_of_some encrypt serves holds reachable
  rw [if_pos wellFormed] at told
  obtain ⟨mailbox, shown, ⟨-, address_⟩, lacks⟩ := told
  have kept : mailbox.email = email := address_.trans trimmed.symm
  have retry : Resolution.ofMailbox (Address.ofParts localPart config.domain) (some mailbox)
      = .retry mailbox := by rw [Resolution.ofMailbox, if_pos (by rw [kept]; exact same)]
  refine (Operation.yields_service shown).bind ?_
  intro found s₁ heard
  obtain ⟨rfl, rfl⟩ := heard
  exact ⟨_, rfl, .hear (holds'.trans holds.symm), mailbox, retry, kept, lacks⟩

/-- The client asks for a password where none is shown, and writes the account. -/
theorem ends_persist_again (account : Account) {mailbox : Mailbox}
    (owner : account.userId = userId) (lacks : mailbox.hasCredentials = false)
    (there : held s.others = some address) (reachable : Reachable config userId ["password"]) :
    (persist account mailbox displayName).Ends (overHttp config send encrypt).answer s
      fun result s' => ∃ a, a.id = account.id ∧ a.userId = account.userId ∧
        a.email = account.email ∧
        result = (s.table.afterWrite (s.table.write a)).1.mapError Error.toFault ∧
        s'.table = (s.table.afterWrite (s.table.write a)).2 := by
  subst owner
  have steady : (overHttp config send encrypt).Steady held := overHttp_steady encrypts
  unfold persist
  rw [withIssuedPassword_of_lacks lacks]
  obtain ⟨⟨password, answered⟩, -⟩ := reset_of_some encrypt serves there reachable
  have issue : (Operation.service (.resetPassword account.userId) >>= fun password =>
      (return mailbox.withPassword password : Operation Mailbox)).Yields
        (overHttp config send encrypt).answer s fun _ s₁ => s₁.table = s.table := by
    refine (Operation.yields_service answered).bind ?_
    intro password s₁ heard
    exact ⟨_, rfl, by rw [heard.2]; rfl⟩
  refine issue.bind ?_
  intro issued s₁ first
  rw [← first]
  refine Dialogue.Ends.mono (steady.ends_encrypt_write _) ?_
  intro result s' ends
  obtain ⟨inbound, outbound, -, -, answered, wrote, -⟩ := ends
  exact ⟨{ account with
    displayName := Text.trim displayName, authMethod := .password, inbound, outbound },
    rfl, rfl, rfl, answered, wrote⟩

omit serves encrypts in
/-- Where no password can be asked for, nothing is written. -/
theorem ends_persist_unreachable (account : Account) {mailbox : Mailbox}
    (owner : account.userId = userId) (lacks : mailbox.hasCredentials = false)
    (unreachable : ¬Reachable config userId ["password"]) :
    (persist account mailbox displayName).Ends (overHttp config send encrypt).answer s
      fun result s' => (∃ fault, result = .error fault) ∧ s'.table = s.table := by
  subst owner
  unfold persist
  rw [withIssuedPassword_of_lacks lacks]
  refine Dialogue.Ends.bind (m := fun result s₁ => (∃ fault, result = .error fault) ∧
    s₁.table = s.table) ?_ ?_ ?_
  · refine (Operation.ends_service ?_).bind (m := fun result s₁ =>
      (∃ fault, result = .error fault) ∧ s₁.table = s.table) ?_ ?_
    · intro answer others heard
      obtain ⟨failure, failed⟩ := reset_unreachable send encrypt s.others unreachable
      rw [heard] at failed
      cases failed
      exact ⟨⟨_, rfl⟩, rfl⟩
    · intro password s₁ ends
      obtain ⟨⟨fault, same⟩, -⟩ := ends
      cases same
    · exact fun fault _ ends => ⟨⟨fault, rfl⟩, ends.2⟩
  · intro issued s₁ ends
    obtain ⟨⟨fault, same⟩, -⟩ := ends
    cases same
  · exact fun fault _ ends => ⟨⟨fault, rfl⟩, ends.2⟩

/-- The record is repaired if a password can be asked for. -/
theorem ends_repair_again {account : Account} (once : Once config userId localPart held account s) :
    (repair config.domain localPart displayName account).Ends
      (overHttp config send encrypt).answer s fun result s' =>
        (Reachable config userId ["password"] → ∃ a, result = .ok a ∧ a.id = account.id ∧
          a.email = account.email ∧ s'.table.count userId = 1) ∧
        (¬Reachable config userId ["password"] →
          (∃ fault, result = .error fault) ∧ s'.table = s.table) := by
  obtain ⟨found, owner, id, table⟩ := once
  subst owner
  refine (yields_resolve_again serves found).bind ?_
  intro resolution s₁ ends
  obtain ⟨quiet, mailbox, rfl, -, lacks⟩ := ends
  rw [← quiet.table]
  obtain ⟨address, there, -⟩ := found.there
  by_cases reachable : Reachable config account.userId ["password"]
  · refine (ends_persist_again serves encrypts account rfl lacks (quiet.holdings.trans there)
      reachable).mono ?_
    intro result s' ends
    obtain ⟨a, id', owner, email, answered, wrote⟩ := ends
    have written : s₁.table.write a = .ok (a, Table.empty.append ⟨⟨1⟩, .ofAccount a⟩) := by
      rw [quiet.table, table]
      exact write_once (id'.trans id) owner
    rw [written] at answered wrote
    refine ⟨fun _ => ⟨a, answered, id', email, ?_⟩, absurd reachable⟩
    rw [wrote]
    exact count_once owner
  · exact (ends_persist_unreachable account rfl lacks reachable).mono fun _ _ failed =>
      ⟨fun reachable' => absurd reachable' reachable, fun _ => failed⟩

/-- The mailbox that is there has its row already. -/
theorem ends_recover_again {account : Account} {refusal : Fault}
    (once : Once config userId localPart held account s) :
    (recover config.domain userId localPart displayName refusal).Ends
      (overHttp config send encrypt).answer s fun result s' => s'.table = s.table ∧
        ∃ fault, result = .error fault ∧ (Reachable config userId ["password"] →
          fault = Error.toFault (.database .duplicateAddress)) := by
  obtain ⟨found, owner, id, table⟩ := once
  obtain ⟨address, there, -⟩ := found.there
  refine (yields_resolve_again serves found).mapError.bind ?_
  intro resolution s₁ ends
  obtain ⟨quiet, mailbox, rfl, email, lacks⟩ := ends
  rw [← quiet.table]
  by_cases reachable : Reachable config userId ["password"]
  · refine (ends_persist_again serves encrypts (.new userId mailbox.email) rfl lacks
      (quiet.holdings.trans there) reachable).mono ?_
    intro result s' ends
    obtain ⟨a, unsaved, owner', email', answered, wrote⟩ := ends
    have taken : s₁.table.write a = .error (.database .duplicateAddress) := by
      rw [quiet.table, table]
      exact write_twice unsaved (owner'.trans owner.symm) (email'.trans email)
    rw [taken] at answered wrote
    exact ⟨wrote, _, answered, fun _ => rfl⟩
  · refine (ends_persist_unreachable (.new userId mailbox.email) rfl lacks reachable).mono ?_
    intro result s' ends
    obtain ⟨⟨fault, failed⟩, same⟩ := ends
    exact ⟨same, fault, failed, fun reachable' => absurd reachable' reachable⟩

/-- A second mailbox is refused. -/
theorem ends_provision_again {account : Account}
    (once : Once config userId localPart held account s) :
    (provision config.domain userId localPart displayName).Ends
      (overHttp config send encrypt).answer s fun result s' => s'.table = s.table ∧
        ∃ fault, result = .error fault ∧ (Reachable config userId ["password"] →
          fault = Error.toFault (.database .duplicateAddress)) := by
  obtain ⟨address, there, -⟩ := once.found.there
  obtain ⟨failure, refused, holds⟩ :=
    create_of_some encrypt localPart serves there once.found.reachable
  refine Operation.yields_tryService.bind ?_
  intro answer s₁ heard
  obtain ⟨rfl, after⟩ := heard
  have quiet : Quiet held s s₁ := by
    rw [after]
    exact .hear (holds.trans there.symm)
  rw [refused, ← quiet.table]
  exact ends_recover_again serves encrypts (once.quiet quiet)

end Requests

section Again

variable {n₁ n₂ : String} {others : σ} {a₁ : Account} {s₁ : Scene σ}

/-- A request that has succeeded succeeds again, by an update of the same row, exactly if a
password can be asked for and the domain does not end in a blank. If it ends in a blank, the
second request runs into the row of the first. -/
theorem createOrUpdate_again_iff (serves : ServesUser send config userId localPart held)
    (encrypts : Encrypts encrypt held)
    (first : (overHttp config send encrypt).perform
      (createOrUpdate config.domain userId localPart n₁) ⟨.empty, others, []⟩ = (.ok a₁, s₁))
    (valid : violations userId localPart n₂ = []) :
    (createOrUpdate config.domain userId localPart n₂).Ends (overHttp config send encrypt).answer
      { s₁ with transcript := [] } fun result s₂ =>
        ((∃ a₂, result = .ok a₂) ↔ Reachable config userId ["password"] ∧
          config.domain.toList.rdropWhile Text.isBlank = config.domain.toList) ∧
        (∀ a₂, result = .ok a₂ → a₂.id = a₁.id ∧ a₂.email = a₁.email ∧
          s₂.table.count userId = 1 ∧ s₂.SavesNothing ∧
          ∃ a, (⟨.table (.update a), .ok a₂⟩ : Turn) ∈ s₂.transcript) ∧
        ∀ fault, result = .error fault → s₂.table = s₁.table ∧
          (Reachable config userId ["password"] →
            fault = Error.toFault (.database .duplicateAddress)) := by
  have made : Once config userId localPart held a₁ s₁ :=
    (ends_createOrUpdate_once serves encrypts rfl).of_runFrom first a₁ rfl
  have once : Once config userId localPart held a₁ { s₁ with transcript := [] } :=
    ⟨made.found, made.owner, made.id, made.table⟩
  have steady : (overHttp config send encrypt).Steady held := overHttp_steady encrypts
  have saved : a₁.isSaved = true := by rw [Account.isSaved, made.id]; rfl
  have silent : ({ s₁ with transcript := [] } : Scene σ).SavesNothing :=
    fun _ member => absurd member List.not_mem_nil
  have reads : (Operation.table
      (.findByAddress userId (Address.ofParts localPart config.domain))).Asks
        fun c => ∀ a, c ≠ .table (.save a) := asks_table fun _ => nofun
  simp only [createOrUpdate, valid]
  have lookup := (ends_savesNothing reads silent).and steady.yields_findByAddress
  refine lookup.bind ?_ ?_
  · intro account? s ends
    obtain ⟨saves, _, same, looked, quiet⟩ := ends
    cases same
    rw [once.findByAddress (localPartViolation?_of_violations valid)] at looked
    have kept : s.table = s₁.table := quiet.table
    by_cases whole : config.domain.toList.rdropWhile Text.isBlank = config.domain.toList
    · rw [if_pos whole] at looked
      subst looked
      have asks : (repair config.domain localPart n₂ a₁).Asks fun c => ∀ a, c ≠ .table (.save a) :=
        asks_repair (fun _ => nofun) (fun _ => nofun) (fun _ _ => nofun)
          (by rw [saved]; exact nofun) fun _ _ _ => nofun
      refine (((ends_repair_again serves encrypts (once.quiet quiet)).and
        (ends_repair_update saved)).and (ends_savesNothing asks saves)).mono ?_
      intro result s₂ ends
      obtain ⟨⟨⟨repaired, failed⟩, updated⟩, saves⟩ := ends
      by_cases reachable : Reachable config userId ["password"]
      · obtain ⟨a₂, rfl, id, email, count⟩ := repaired reachable
        refine ⟨⟨fun _ => ⟨reachable, whole⟩, fun _ => ⟨a₂, rfl⟩⟩, ?_, fun _ => nofun⟩
        intro a same
        cases same
        exact ⟨id, email, count, saves, updated a₂ rfl⟩
      · obtain ⟨⟨fault, rfl⟩, same⟩ := failed reachable
        refine ⟨⟨?_, fun both => absurd both.1 reachable⟩, fun _ => nofun, ?_⟩
        · exact fun succeeds => nomatch succeeds
        · exact fun _ _ => ⟨same.trans kept, fun reachable' => absurd reachable' reachable⟩
    · rw [if_neg whole] at looked
      subst looked
      refine (ends_provision_again serves encrypts (once.quiet quiet)).mono ?_
      intro result s₂ ends
      obtain ⟨same, fault, rfl, taken⟩ := ends
      refine ⟨⟨?_, fun both => absurd both.2 whole⟩, fun _ => nofun, ?_⟩
      · exact fun succeeds => nomatch succeeds
      · intro other failed
        cases failed
        exact ⟨same.trans kept, taken⟩
  · intro fault s ends
    obtain ⟨-, account?, same, -⟩ := ends
    cases same

end Again

/-! ## A service for one mailbox -/

/-- The configuration of a client for the service at `mail.test`. -/
def janesConfig (domain : String) : Config :=
  ⟨⟨"http", some ⟨"", "", .domain "mail.test", none⟩, false, .segments [""], none, none⟩,
    "admin", "secret", domain, 30000, false⟩

/-- Jane's mailbox, with a password or without. -/
def janesDocument (domain : String) (password : Option String) : MailboxDocument :=
  ⟨Address.ofParts "jane" domain, ⟨"imap.mail.test", 993, "tls", "jane", password⟩,
    ⟨"smtp.mail.test", 465, "tls", "jane", password⟩⟩

def documentBody (j : Json) : Http.Body := .complete (Text.utf8 j.renderChars)

/-- A service that makes Jane's mailbox and no other. -/
def janesServer (domain : String) (r : Http.Request) (there : Bool) : Http.Reply × Bool :=
  match r.method, there with
  | .post, false =>
    if (Json.parse? r.body).bind CreationDocument.ofJson? = some ⟨"jane", domain⟩ then
      (.response 201 (documentBody (janesDocument domain (some "first")).toJson), true)
    else (.response 400 (.complete []), false)
  | .post, true =>
    if r.url = "http://mail.test/users/u1/mailbox/password" then
      (.response 200 (documentBody (PasswordDocument.mk "second").toJson), true)
    else (.response 409 (.complete []), true)
  | .get, true => (.response 200 (documentBody (janesDocument domain none).toJson), true)
  | .get, false => (.response 404 (.complete []), false)
  | .delete, _ => (.response 204 (.complete []), false)

/-- The address of Jane's mailbox, when it is there. -/
def janesMailbox (domain : String) (there : Bool) : Option String :=
  if there then some (Address.ofParts "jane" domain) else none

/-- Passwords are written down as they are. -/
def keepPlain (plaintext : String) (there : Bool) : Except Credential.Error String × Bool :=
  (.ok plaintext, there)

theorem keepPlain_encrypts (domain : String) : Encrypts keepPlain (janesMailbox domain) :=
  fun p _ => ⟨⟨p, rfl⟩, rfl⟩

/-- The URLs of a user do not depend on the domain. -/
theorem render_janesUrl {domain : String} (text : String) {below : List String} {url : Url}
    (at_ : mailboxUrl (janesConfig domain) "u1" below = .ok url)
    (render : (mailboxUrl (janesConfig "") "u1" below).map Url.renderWithoutFragment = .ok text) :
    url.renderWithoutFragment = text := by
  have same : mailboxUrl (janesConfig domain) "u1" below = mailboxUrl (janesConfig "") "u1" below :=
    rfl
  rw [← same, at_] at render
  exact Except.ok.inj render

/-- The service answers as it should under a domain if its documents can be read. -/
theorem janesServer_serves (domain : String)
    (created : document MailboxDocument.ofJson? 201
      (documentBody (janesDocument domain (some "first")).toJson)
        = .ok (janesDocument domain (some "first")))
    (shown : document MailboxDocument.ofJson? 200 (documentBody (janesDocument domain none).toJson)
      = .ok (janesDocument domain none)) :
    ServesUser (janesServer domain) (janesConfig domain) "u1" "jane" (janesMailbox domain) := by
  have there : ∀ {x address}, janesMailbox domain x = some address →
      x = true ∧ address = Address.ofParts "jane" domain := by
    intro x address held
    cases x with
    | false => cases held
    | true =>
      cases held
      exact ⟨rfl, rfl⟩
  constructor
  · intro url r d x at_ request asked localPart_ domain_ free
    obtain ⟨_, _⟩ := d
    subst localPart_ domain_
    have method := request.method
    have absent : x = false := by
      cases x with
      | false => rfl
      | true => cases free
    subst absent
    unfold janesServer
    rw [method]
    dsimp only
    rw [if_pos asked]
    exact ⟨201, _, _, rfl, rfl, created, rfl, rfl⟩
  · intro url r x address at_ request held
    obtain ⟨method, sent, -⟩ := request
    obtain ⟨rfl, rfl⟩ := there held
    have elsewhere : r.url ≠ "http://mail.test/users/u1/mailbox/password" := by
      rw [sent, render_janesUrl "http://mail.test/users/u1/mailbox" at_
        (by decide +kernel)]
      decide
    unfold janesServer
    rw [method]
    dsimp only
    rw [if_neg elsewhere]
    exact ⟨_, rfl, rfl⟩
  · intro url r x address at_ request held
    have method := request.method
    obtain ⟨rfl, rfl⟩ := there held
    unfold janesServer
    rw [method]
    exact ⟨_, _, rfl, shown, rfl, rfl, rfl, rfl⟩
  · intro url r x address at_ request held
    obtain ⟨method, sent, -⟩ := request
    obtain ⟨rfl, rfl⟩ := there held
    have password : r.url = "http://mail.test/users/u1/mailbox/password" :=
      sent.trans (render_janesUrl _ at_ (by decide +kernel))
    have read : document PasswordDocument.ofJson? 200
        (documentBody (PasswordDocument.mk "second").toJson) = .ok ⟨"second"⟩ := by decide +kernel
    unfold janesServer
    rw [method]
    dsimp only
    rw [if_pos password]
    exact ⟨200, _, _, rfl, rfl, read, rfl⟩

/-- Jane's service, and passwords that are not encrypted. -/
def janes (domain : String) : Collaborators Bool :=
  overHttp (janesConfig domain) (janesServer domain) keepPlain

/-- Jane's first request under a domain, and where it ends. -/
def janesFirst (domain : String) : Except Fault Account × Scene Bool :=
  (janes domain).perform (createOrUpdate domain "u1" "jane" "Jane") ⟨.empty, false, []⟩

theorem exists_of_isOk (first : Except Fault Account × Scene Bool) (ok : first.1.isOk = true) :
    ∃ a s, first = (.ok a, s) := by
  obtain ⟨fault | a, s⟩ := first
  · cases ok
  · exact ⟨a, s, rfl⟩

/-- A request that is made again under another display name. -/
theorem createOrUpdate_again_jane :
    ∃ a₁ s₁, janesFirst "example.com" = (.ok a₁, s₁) ∧
      (createOrUpdate "example.com" "u1" "jane" "Jane Doe").Ends (janes "example.com").answer
        { s₁ with transcript := [] } fun result s₂ => ∃ a₂, result = .ok a₂ ∧ a₂.id = a₁.id ∧
          a₂.email = a₁.email ∧ s₂.table.count "u1" = 1 := by
  obtain ⟨a₁, s₁, first⟩ := exists_of_isOk (janesFirst "example.com") (by decide +kernel)
  have serves := janesServer_serves "example.com" (by decide +kernel) (by decide +kernel)
  have reachable : Reachable (janesConfig "example.com") "u1" ["password"] :=
    ⟨_, rfl, by decide +kernel⟩
  refine ⟨a₁, s₁, first, (createOrUpdate_again_iff serves (keepPlain_encrypts "example.com") first
    (by decide +kernel)).mono ?_⟩
  intro result s₂ ends
  obtain ⟨succeeds, same, -⟩ := ends
  obtain ⟨a₂, rfl⟩ := succeeds.2 ⟨reachable, by decide +kernel⟩
  obtain ⟨id, email, count, -⟩ := same a₂ rfl
  exact ⟨a₂, rfl, id, email, count⟩

/-- Under a domain that ends in a blank, which a configuration may have, the request cannot be
made again. -/
theorem createOrUpdate_again_blank :
    Config.new "http://mail.test" "admin" "secret" "example.com "
        = .ok (janesConfig "example.com ") ∧
      ServesUser (janesServer "example.com ") (janesConfig "example.com ") "u1" "jane"
        (janesMailbox "example.com ") ∧
      Encrypts keepPlain (janesMailbox "example.com ") ∧ violations "u1" "jane" "Jane" = [] ∧
      ∃ a₁ s₁, janesFirst "example.com " = (.ok a₁, s₁) ∧
        (createOrUpdate "example.com " "u1" "jane" "Jane").Ends (janes "example.com ").answer
          { s₁ with transcript := [] } fun result _ => ∀ a₂, result ≠ .ok a₂ := by
  refine ⟨by decide +kernel, janesServer_serves "example.com " (by decide +kernel)
    (by decide +kernel), keepPlain_encrypts _, by decide +kernel, ?_⟩
  obtain ⟨a₁, s₁, first⟩ := exists_of_isOk (janesFirst "example.com ") (by decide +kernel)
  refine ⟨a₁, s₁, first, ?_⟩
  have again : ((janes "example.com ").perform (createOrUpdate "example.com " "u1" "jane" "Jane")
      { (janesFirst "example.com ").2 with transcript := [] }).1.isOk = false := by decide +kernel
  rw [first] at again
  intro a₂ succeeds
  have ok : ((janes "example.com ").perform _ _).1 = _ := succeeds
  rw [ok] at again
  cases again

end MailboxKeeper.Engine
