import MailboxKeeper.Proofs.Engine.Mirror

/-!
# Requests that nothing disturbs

When no collaborator fails, what a request comes to is determined up to the choices of the
service. A request for an account is settled in one of three ways (`Settled`): the account is
recorded, the user has a mailbox at another address and nothing changes, or the table has no id
left for a new row.
-/

namespace MailboxKeeper.Engine

open AccountRequest Store

variable {σ : Type} {domain : String} {held : σ → Holdings} {k : Collaborators σ}
variable {s s' s'' : Scene σ} {x : σ} {h : Holding} {userId localPart displayName : String}

/-- The service has given a user's mailbox a password, and nothing else has changed. -/
structure Issued (held : σ → Holdings) (userId : String) (h : Holding) (s s' : Scene σ) : Prop where
  table : s'.table = s.table
  holdings : held s'.others = Function.update (held s.others) userId (some h)
  transcript : s.transcript ⊆ s'.transcript

theorem Issued.after (issued : Issued held userId h s' s'') (quiet : Quiet held s s') :
    Issued held userId h s s'' :=
  ⟨issued.table.trans quiet.table, by rw [issued.holdings, quiet.holdings],
    List.Subset.trans quiet.transcript issued.transcript⟩

/-- The account `a` was handed to the table in place of `account`, with both columns encrypted
from the password of the mailbox. -/
structure Persisted (held : σ → Holdings) (account a : Account) (h : Holding) (s : Scene σ)
    (result : Except Fault Account) (s' : Scene σ) : Prop where
  id : a.id = account.id
  userId : a.userId = account.userId
  email : a.email = account.email
  holdings : held s'.others = Function.update (held s.others) account.userId (some h)
  transcript : s.transcript ⊆ s'.transcript
  inbound : s'.Encrypted h.password a.inbound.encryptedPassword
  outbound : s'.Encrypted h.password a.outbound.encryptedPassword
  result : result = (s.table.afterWrite (s.table.write a)).1.mapError Error.toFault
  table : s'.table = (s.table.afterWrite (s.table.write a)).2

namespace Collaborators.Reliable

variable (reliable : k.Reliable domain held)

include reliable

/-! ## Single calls -/

theorem create_of_none (localPart : String) (free : held x userId = none) :
    ∃ (mailbox : Mailbox) (password : String),
      (k.service (.create userId localPart) x).1 = .ok mailbox ∧
        mailbox.email = Address.ofParts localPart domain ∧ Discloses mailbox password ∧
        held (k.service (.create userId localPart) x).2 = Function.update (held x) userId
          (some ⟨Address.ofParts localPart domain, password⟩) := by
  have serves := reliable.service (.create userId localPart) x
  generalize (k.service (.create userId localPart) x).1 = answer at serves
  generalize held (k.service (.create userId localPart) x).2 = after at serves
  cases serves with
  | created _ address disclosed => exact ⟨_, _, rfl, address, disclosed, rfl⟩
  | refused taken => rw [free] at taken; cases taken

theorem create_of_some (localPart : String) (taken : held x userId = some h) :
    ∃ failure : Provisioning.Failure, (k.service (.create userId localPart) x).1 = .error failure ∧
      failure.code = some 409 ∧ held (k.service (.create userId localPart) x).2 = held x := by
  have serves := reliable.service (.create userId localPart) x
  generalize (k.service (.create userId localPart) x).1 = answer at serves
  generalize held (k.service (.create userId localPart) x).2 = after at serves
  cases serves with
  | created free => rw [free] at taken; cases taken
  | refused _ conflict => exact ⟨_, rfl, conflict, rfl⟩

theorem get_of_none (free : held x userId = none) :
    (k.service (.get userId) x).1 = .ok none ∧ held (k.service (.get userId) x).2 = held x := by
  have serves := reliable.service (.get userId) x
  generalize (k.service (.get userId) x).1 = answer at serves ⊢
  generalize held (k.service (.get userId) x).2 = after at serves ⊢
  cases serves with
  | shown taken => rw [free] at taken; cases taken
  | absent => exact ⟨rfl, rfl⟩

theorem get_of_some (taken : held x userId = some h) :
    ∃ mailbox : Mailbox, (k.service (.get userId) x).1 = .ok (some mailbox) ∧
      mailbox.email = h.address ∧ Discloses mailbox h.password ∧
        held (k.service (.get userId) x).2 = held x := by
  have serves := reliable.service (.get userId) x
  generalize (k.service (.get userId) x).1 = answer at serves
  generalize held (k.service (.get userId) x).2 = after at serves
  cases serves with
  | shown taken' address imap smtp =>
    rw [taken] at taken'
    cases taken'
    refine ⟨_, rfl, address, ⟨?_, ?_⟩, rfl⟩
    · intro p named
      rw [imap] at named
      cases named
    · intro p named
      rw [smtp] at named
      cases named
  | absent free => rw [free] at taken; cases taken

theorem reset_of_some (taken : held x userId = some h) :
    ∃ password : String, (k.service (.resetPassword userId) x).1 = .ok password ∧
      held (k.service (.resetPassword userId) x).2
        = Function.update (held x) userId (some ⟨h.address, password⟩) := by
  have serves := reliable.service (.resetPassword userId) x
  generalize (k.service (.resetPassword userId) x).1 = answer at serves
  generalize held (k.service (.resetPassword userId) x).2 = after at serves
  cases serves with
  | reset taken' =>
    rw [taken] at taken'
    cases taken'
    exact ⟨_, rfl, rfl⟩
  | unknown free => rw [free] at taken; cases taken

theorem delete_of_some (taken : held x userId = some h) :
    (k.service (.delete userId) x).1 = .ok true ∧
      held (k.service (.delete userId) x).2 = Function.update (held x) userId none := by
  have serves := reliable.service (.delete userId) x
  generalize (k.service (.delete userId) x).1 = answer at serves ⊢
  generalize held (k.service (.delete userId) x).2 = after at serves ⊢
  cases serves with
  | deleted => exact ⟨rfl, rfl⟩
  | missing free => rw [free] at taken; cases taken

/-! ## Parts of requests -/

theorem yields_resolve_of_none (free : held s.others userId = none) :
    (resolve domain userId localPart).Yields k.answer s fun resolution s' =>
      resolution = .noExistingAccount ∧ Quiet held s s' := by
  obtain ⟨answered, same⟩ := reliable.get_of_none free
  refine (Operation.yields_service answered).bind ?_
  intro found s₁ heard
  obtain ⟨rfl, rfl⟩ := heard
  exact ⟨_, rfl, rfl, .hear same⟩

theorem yields_resolve_of_some (taken : held s.others userId = some h) :
    (resolve domain userId localPart).Yields k.answer s fun resolution s' =>
      ∃ mailbox, resolution = .ofMailbox (Address.ofParts localPart domain) (some mailbox) ∧
        mailbox.email = h.address ∧ Discloses mailbox h.password ∧ Quiet held s s' := by
  obtain ⟨mailbox, answered, address, disclosed, same⟩ := reliable.get_of_some taken
  refine (Operation.yields_service answered).bind ?_
  intro found s₁ heard
  obtain ⟨rfl, rfl⟩ := heard
  exact ⟨_, rfl, mailbox, rfl, address, disclosed, .hear same⟩

theorem yields_resetPassword (taken : held s.others userId = some h) :
    (Operation.service (.resetPassword userId)).Yields k.answer s fun password s' =>
      Issued held userId ⟨h.address, password⟩ s s' := by
  obtain ⟨password, answered, same⟩ := reliable.reset_of_some taken
  refine (Operation.yields_service answered).mono ?_
  intro p s' heard
  obtain ⟨rfl, rfl⟩ := heard
  exact ⟨rfl, same, List.subset_append_left _ _⟩

/-- Afterwards both servers are described with the current password of the mailbox. -/
theorem yields_withIssuedPassword {mailbox : Mailbox} (taken : held s.others userId = some h)
    (disclosed : Discloses mailbox h.password) :
    (withIssuedPassword userId mailbox).Yields k.answer s fun issued s' =>
      ∃ password, Issued held userId ⟨h.address, password⟩ s s' ∧
        issued.imap.password = some password ∧ issued.smtp.password = some password := by
  unfold withIssuedPassword
  split
  · rename_i full
    have both := Bool.and_eq_true_iff.1 full
    obtain ⟨p, imap⟩ := Option.isSome_iff_exists.1 both.1
    obtain ⟨q, smtp⟩ := Option.isSome_iff_exists.1 both.2
    have current : Function.update (held s.others) userId (some h) = held s.others := by
      rw [← taken, Function.update_eq_self]
    refine ⟨mailbox, rfl, h.password, ⟨rfl, current.symm, List.Subset.refl _⟩, ?_, ?_⟩
    · rw [imap, disclosed.1 p imap]
    · rw [smtp, disclosed.2 q smtp]
  · refine (reliable.yields_resetPassword taken).bind ?_
    intro password s₁ issued
    exact ⟨mailbox.withPassword password, rfl, password, issued, rfl, rfl⟩

/-- What is written after a password was issued: the account with two new endpoints, both
encrypted from that password. -/
theorem ends_encrypt_write (account : Account) (renewed : Endpoint → Endpoint → Account)
    {imap smtp : MailServer} {password : String}
    (keeps : ∀ inbound outbound, (renewed inbound outbound).id = account.id ∧
      (renewed inbound outbound).userId = account.userId ∧
      (renewed inbound outbound).email = account.email ∧
      (renewed inbound outbound).inbound = inbound ∧ (renewed inbound outbound).outbound = outbound)
    (first : Issued held account.userId ⟨h.address, password⟩ s s')
    (incoming : imap.password = some password) (outgoing : smtp.password = some password) :
    (Operation.encryptEndpoint imap >>= fun inbound =>
        Operation.encryptEndpoint smtp >>= fun outbound =>
          Operation.write (renewed inbound outbound)).Ends k.answer s' fun result s'' =>
      ∃ a, Persisted held account a ⟨h.address, password⟩ s result s'' := by
  refine (reliable.toSteady.ends_encrypt_write renewed).mono ?_
  intro result s'' ends
  obtain ⟨inbound, outbound, imapColumn, smtpColumn, wrote, table, holdings, more⟩ := ends
  obtain ⟨id, owner, email, inbound_, outbound_⟩ := keeps inbound outbound
  rw [incoming] at imapColumn
  rw [outgoing] at smtpColumn
  rw [first.table] at wrote table
  refine ⟨renewed inbound outbound, id, owner, email, holdings.trans first.holdings,
    List.Subset.trans first.transcript more, ?_, ?_, wrote, table⟩
  · rw [inbound_]
    exact imapColumn
  · rw [outbound_]
    exact smtpColumn

theorem ends_persist (account : Account) {mailbox : Mailbox}
    (taken : held s.others account.userId = some h) (disclosed : Discloses mailbox h.password) :
    (persist account mailbox displayName).Ends k.answer s fun result s' =>
      ∃ password a, Persisted held account a ⟨h.address, password⟩ s result s' := by
  refine (reliable.yields_withIssuedPassword taken disclosed).bind ?_
  intro issued s₁ ends
  obtain ⟨password, first, imap, smtp⟩ := ends
  refine Dialogue.Ends.mono (reliable.ends_encrypt_write account _
    (fun _ _ => ⟨rfl, rfl, rfl, rfl, rfl⟩) first imap smtp) ?_
  exact fun _ _ persisted => ⟨password, persisted⟩

end Collaborators.Reliable

/-! ## Requests for accounts -/

/-- How a request for the address `requested` ends. -/
inductive Settled (held : σ → Holdings) (userId requested : String) (s : Scene σ) :
    Except Fault Account → Scene σ → Prop where
  /-- The mailbox is at that address, and the user's record is written from it. -/
  | recorded {a account : Account} {h : Holding} {s' : Scene σ}
      (same : Address.same h.address requested = true)
      (before : ∀ h₀, held s.others userId = some h₀ → h₀.address = h.address)
      (owner : a.userId = userId) (email : a.email = h.address)
      (written : s.table.write a = .ok (account, s'.table))
      (issued : held s'.others = Function.update (held s.others) userId (some h))
      (transcript : s.transcript ⊆ s'.transcript)
      (inbound : s'.Encrypted h.password a.inbound.encryptedPassword)
      (outbound : s'.Encrypted h.password a.outbound.encryptedPassword) :
      Settled held userId requested s (.ok account) s'
  /-- The user's mailbox is at another address and stays as it is. -/
  | elsewhere {h : Holding} {refusal : Fault} {s' : Scene σ}
      (taken : held s.others userId = some h) (apart : Address.same h.address requested = false)
      (quiet : Quiet held s s') :
      Settled held userId requested s
        (.error ((Fault.emailMismatch requested h.address).withCause refusal)) s'
  /-- The mailbox is at that address, but there is no id for a record of it. -/
  | exhausted {h : Holding} {s' : Scene σ} (full : s.table.nextId? = none)
      (recordless : ∀ r ∈ s.table.rows, r.entry.userId ≠ userId)
      (issued : Issued held userId h s s') :
      Settled held userId requested s (.error (Error.toFault (.database .idsExhausted))) s'

theorem Quiet.issued (quiet : Quiet held s s') (taken : held s.others userId = some h) :
    Issued held userId h s s' :=
  ⟨quiet.table, by rw [← taken, Function.update_eq_self, quiet.holdings], quiet.transcript⟩

theorem Persisted.issued {account a : Account} {result : Except Fault Account} {h' : Holding}
    (persisted : Persisted held account a h s' result s'')
    (issued : Issued held account.userId h' s s') :
    held s''.others = Function.update (held s.others) account.userId (some h) := by
  rw [persisted.holdings, issued.holdings, Function.update_idem]

/-- The row of a user can always be rewritten. -/
theorem Persisted.written_of_row {r : Row} {a : Account} {result : Except Fault Account}
    (persisted : Persisted held r.toAccount a h s result s') (sound : s.table.Sound)
    (member : r ∈ s.table.rows) : result = .ok a ∧ s.table.write a = .ok (a, s'.table) := by
  have id : a.id = some r.id := persisted.id
  have owner : a.userId = r.entry.userId := persisted.userId
  have email : a.email = r.entry.email := persisted.email
  have updated : s.table.update a = .ok (a, s.table.replace r.id (.ofAccount a)) := by
    refine Table.update_of_row member id owner.symm ?_
    intro t other at_
    rw [owner, email] at at_
    rw [sound.eq_of_isAt member other at_]
  have written : s.table.write a = .ok (a, s.table.replace r.id (.ofAccount a)) := by
    rw [Table.write, Account.isSaved, id]
    exact updated
  have table := persisted.table
  have result := persisted.result
  rw [written] at table result
  exact ⟨result, by rw [written, table]; rfl⟩

/-- A user without a row gets one if there is an id for it. -/
theorem Persisted.written_of_new {email : String} {a : Account} {result : Except Fault Account}
    (persisted : Persisted held (.new userId email) a h s result s') (sound : s.table.Sound)
    (recordless : ∀ r ∈ s.table.rows, r.entry.userId ≠ userId) :
    (∃ account, result = .ok account ∧ s.table.write a = .ok (account, s'.table)) ∨
      s.table.nextId? = none ∧ result = .error (Error.toFault (.database .idsExhausted)) ∧
        s'.table = s.table := by
  have id : a.id = none := persisted.id
  have owner : a.userId = userId := persisted.userId
  have write : s.table.write a = s.table.save a := by
    rw [Table.write, Account.isSaved, id]
    rfl
  have table := persisted.table
  have result := persisted.result
  cases next : s.table.nextId? with
  | none =>
    have refused : s.table.save a = .error (.database .idsExhausted) := by
      simp [Table.save, Table.insert, next]
    rw [write, refused] at table result
    exact .inr ⟨rfl, result, table⟩
  | some id =>
    have saved := sound.save_of_free (a := a) next fun r member => by
      rw [Bool.eq_false_iff]
      exact fun at_ => recordless r member ((Entry.isAt_iff.1 at_).1.trans owner)
    rw [write, saved] at table result
    exact .inl ⟨_, result, by rw [write, saved, table]; rfl⟩

namespace Collaborators.Reliable

variable (reliable : k.Reliable domain held)

include reliable

/-- A mailbox at the requested address gets a record, whether it was there or is new. -/
theorem ends_persist_new_settled {requested : String} {mailbox : Mailbox}
    (mirrors : s.Mirrors domain held) (issued : Issued held userId h s s')
    (same : Address.same h.address requested = true)
    (before : ∀ h₀, held s.others userId = some h₀ → h₀.address = h.address)
    (recordless : ∀ r ∈ s.table.rows, r.entry.userId ≠ userId)
    (email : mailbox.email = h.address) (disclosed : Discloses mailbox h.password) :
    (persist (.new userId mailbox.email) mailbox displayName).Ends k.answer s'
      (Settled held userId requested s) := by
  have taken : held s'.others userId = some h := by rw [issued.holdings, Function.update_self]
  refine (reliable.ends_persist (.new userId mailbox.email) taken disclosed).mono ?_
  intro result s'' ends
  obtain ⟨password, a, persisted⟩ := ends
  have sound : s'.table.Sound := by rw [issued.table]; exact mirrors.sound
  have more := List.Subset.trans issued.transcript persisted.transcript
  have holdings := persisted.issued issued
  rcases persisted.written_of_new sound (by rw [issued.table]; exact recordless) with
    ⟨account, rfl, written⟩ | ⟨full, rfl, kept⟩
  · rw [issued.table] at written
    exact .recorded (h := ⟨h.address, password⟩) same before persisted.userId
      (persisted.email.trans email) written holdings more persisted.inbound persisted.outbound
  · rw [issued.table] at full kept
    exact .exhausted full recordless ⟨kept, holdings, more⟩

/-- The record of a user is brought up to date. -/
theorem ends_repair_settled {r : Row} (mirrors : s.Mirrors domain held) (quiet : Quiet held s s')
    (member : r ∈ s.table.rows) (taken : held s.others r.entry.userId = some h)
    (same : Address.same h.address (Address.ofParts localPart domain) = true) :
    (repair domain localPart displayName r.toAccount).Ends k.answer s'
      (Settled held r.entry.userId (Address.ofParts localPart domain) s) := by
  have there : held s'.others r.entry.userId = some h := by rw [quiet.holdings, taken]
  refine (reliable.yields_resolve_of_some there).bind ?_
  intro resolution s₁ ends
  obtain ⟨mailbox, shown, address, disclosed, looked⟩ := ends
  have retry : resolution = .retry mailbox := by
    rw [shown, Resolution.ofMailbox, address, if_pos same]
  subst retry
  have before := quiet.trans looked
  have there₁ : held s₁.others r.entry.userId = some h := by rw [before.holdings, taken]
  refine (reliable.ends_persist r.toAccount there₁ disclosed).mono ?_
  intro result s'' ends
  obtain ⟨password, a, persisted⟩ := ends
  have holdings : held s''.others
      = Function.update (held s.others) r.entry.userId (some ⟨h.address, password⟩) :=
    persisted.issued (before.issued taken)
  obtain ⟨rfl, written⟩ := persisted.written_of_row (by rw [before.table]; exact mirrors.sound)
    (by rw [before.table]; exact member)
  rw [before.table] at written
  have email : a.email = h.address := persisted.email.trans (mirrors.email_eq member taken)
  refine .recorded (h := ⟨h.address, password⟩) same ?_ persisted.userId email written holdings
    (List.Subset.trans before.transcript persisted.transcript) persisted.inbound persisted.outbound
  intro h₀ taken₀
  rw [taken] at taken₀
  cases taken₀
  rfl

/-- After a refusal the mailbox of the user is taken over, or is at another address. -/
theorem ends_recover_settled {refusal : Fault} (mirrors : s.Mirrors domain held)
    (quiet : Quiet held s s') (taken : held s.others userId = some h)
    (recordless : Address.same h.address (Address.ofParts localPart domain) = true →
      ∀ r ∈ s.table.rows, r.entry.userId ≠ userId) :
    (recover domain userId localPart displayName refusal).Ends k.answer s'
      (Settled held userId (Address.ofParts localPart domain) s) := by
  have there : held s'.others userId = some h := by rw [quiet.holdings, taken]
  refine (reliable.yields_resolve_of_some there).mapError.bind ?_
  intro resolution s₁ ends
  obtain ⟨mailbox, rfl, address, disclosed, looked⟩ := ends
  cases same : Address.same h.address (Address.ofParts localPart domain) with
  | true =>
    have retry : Resolution.ofMailbox (Address.ofParts localPart domain) (some mailbox)
        = .retry mailbox := by rw [Resolution.ofMailbox, address, if_pos same]
    rw [retry]
    refine reliable.ends_persist_new_settled mirrors ((quiet.trans looked).issued taken) same ?_
      (recordless same) address disclosed
    intro h₀ taken₀
    rw [taken] at taken₀
    cases taken₀
    rfl
  | false =>
    have apart : Resolution.ofMailbox (Address.ofParts localPart domain) (some mailbox)
        = .emailMismatch (Address.ofParts localPart domain) h.address := by
      rw [Resolution.ofMailbox, address, if_neg (by rw [same]; exact Bool.false_ne_true)]
    rw [apart]
    exact .elsewhere taken same (quiet.trans looked)

theorem ends_provision_settled (mirrors : s.Mirrors domain held) (quiet : Quiet held s s')
    (valid : localPartViolation? localPart = none)
    (missed : s.table.findByAddress userId (Address.ofParts localPart domain) = none) :
    (provision domain userId localPart displayName).Ends k.answer s'
      (Settled held userId (Address.ofParts localPart domain) s) := by
  have recordless := mirrors.of_findByAddress_eq_none valid missed
  cases there : held s.others userId with
  | none =>
    have free : held s'.others userId = none := by rw [quiet.holdings, there]
    obtain ⟨mailbox, password, answered, address, disclosed, made⟩ :=
      reliable.create_of_none localPart free
    refine Operation.yields_tryService.bind ?_
    intro answer s₁ heard
    obtain ⟨rfl, rfl⟩ := heard
    rw [answered]
    rw [quiet.holdings] at made
    have issued : Issued held userId ⟨Address.ofParts localPart domain, password⟩ s (s'.hear
        ⟨.service (.create userId localPart), .ok mailbox⟩
        (k.service (.create userId localPart) s'.others).2) :=
      ⟨quiet.table, made, List.Subset.trans quiet.transcript (List.subset_append_left _ _)⟩
    refine reliable.ends_persist_new_settled mirrors issued (Address.same_iff.2 rfl) ?_
      (recordless ?_) address disclosed
    · intro h₀ taken₀
      rw [there] at taken₀
      cases taken₀
    · intro h₀ taken₀
      rw [there] at taken₀
      cases taken₀
  | some h =>
    have taken : held s'.others userId = some h := by rw [quiet.holdings, there]
    obtain ⟨failure, answered, -, same⟩ :=
      reliable.create_of_some localPart taken
    refine Operation.yields_tryService.bind ?_
    intro answer s₁ heard
    obtain ⟨rfl, rfl⟩ := heard
    rw [answered]
    refine reliable.ends_recover_settled mirrors (quiet.trans (.hear same)) there ?_
    intro same
    refine recordless ?_
    intro h₀ taken₀
    rw [there] at taken₀
    cases taken₀
    exact same

/-- When nothing fails, a valid request for an account is settled. -/
theorem ends_createOrUpdate_settled (mirrors : s.Mirrors domain held)
    (valid : violations userId localPart displayName = []) :
    (createOrUpdate domain userId localPart displayName).Ends k.answer s
      (Settled held userId (Address.ofParts localPart domain) s) := by
  have letters := localPartViolation?_of_violations valid
  unfold createOrUpdate
  rw [valid]
  refine reliable.toSteady.yields_findByAddress.bind ?_
  intro account? s₁ ends
  obtain ⟨found, quiet⟩ := ends
  cases account? with
  | none => exact reliable.ends_provision_settled mirrors quiet letters found.symm
  | some account =>
    obtain ⟨r, member, rfl, rfl, h, taken, -, same⟩ :=
      mirrors.of_findByAddress_eq_some letters found.symm
    exact reliable.ends_repair_settled mirrors quiet member taken same

/-! ## Requests about accounts -/

theorem ends_resolveChecked :
    (resolveChecked domain userId localPart).Ends k.answer s fun result s' =>
      Quiet held s s' ∧ ∀ fault, result = .error fault → fault.kind ≠ .inconsistency := by
  unfold resolveChecked
  split
  · cases there : held s.others userId with
    | none =>
      refine Dialogue.Ends.mono (reliable.yields_resolve_of_none there) ?_
      intro result s' ends
      obtain ⟨resolution, rfl, -, quiet⟩ := ends
      exact ⟨quiet, fun _ => nofun⟩
    | some h =>
      refine Dialogue.Ends.mono (reliable.yields_resolve_of_some there) ?_
      intro result s' ends
      obtain ⟨resolution, rfl, mailbox, -, -, -, quiet⟩ := ends
      exact ⟨quiet, fun _ => nofun⟩
  · refine ⟨.refl s, ?_⟩
    intro fault same
    cases same
    exact nofun

theorem ends_requireAccount {id : AccountId} :
    (Operation.requireAccount userId id).Ends k.answer s fun result s' => Quiet held s s' ∧
      ((∃ r ∈ s.table.rows, r.id = id ∧ r.entry.userId = userId ∧ result = .ok r.toAccount) ∨
        result = .error (Fault.accountNotFound id.text)) := by
  refine reliable.toSteady.yields_findById.bind ?_
  intro account? s₁ ends
  obtain ⟨found, quiet⟩ := ends
  cases account? with
  | none => exact ⟨quiet, .inr rfl⟩
  | some account =>
    obtain ⟨r, member, same, owner, rfl⟩ := Table.of_findById_eq_some found.symm
    exact ⟨quiet, .inl ⟨r, member, same, owner, rfl⟩⟩

/-- A reset is refused, or it gives the mailbox of a row a password and writes the row again. -/
theorem ends_resetAccountPassword {id : AccountId} (mirrors : s.Mirrors domain held) :
    (resetAccountPassword domain userId id).Ends k.answer s fun result s' =>
      (∃ fault, result = .error fault ∧ fault.kind ≠ .inconsistency ∧ Quiet held s s') ∨
        ∃ r ∈ s.table.rows, ∃ h password a, held s.others r.entry.userId = some h ∧
          Persisted held r.toAccount a ⟨h.address, password⟩ s result s' := by
  refine reliable.ends_requireAccount.bind ?_ ?_
  · intro account s₁ ends
    obtain ⟨quiet, ⟨r, member, -, rfl, same⟩ | missing⟩ := ends
    · cases same
      obtain ⟨h, taken, -⟩ := mirrors.backed r member
      have there : held s₁.others r.entry.userId = some h := by rw [quiet.holdings, taken]
      split
      · refine (reliable.yields_resetPassword there).bind ?_
        intro password s₂ issued
        have first : Issued held r.toAccount.userId ⟨h.address, password⟩ s s₂ :=
          issued.after quiet
        refine Dialogue.Ends.mono (reliable.ends_encrypt_write r.toAccount
          (fun inbound outbound => { r.toAccount with inbound, outbound })
          (fun _ _ => ⟨rfl, rfl, rfl, rfl, rfl⟩) first rfl rfl) ?_
        intro result s' ends
        obtain ⟨a, persisted⟩ := ends
        exact .inr ⟨r, member, h, password, a, taken, persisted⟩
      · exact .inl ⟨_, rfl, nofun, quiet⟩
    · cases missing
  · intro fault s₁ ends
    obtain ⟨quiet, ⟨r, -, -, -, found⟩ | missing⟩ := ends
    · cases found
    · cases missing
      exact .inl ⟨_, rfl, nofun, quiet⟩

/-- What becomes of the mailbox does not keep the row from being removed. -/
theorem yields_reconcileDeletion {r : Row} (mirrors : s.Mirrors domain held)
    (member : r ∈ s.table.rows) :
    (reconcileDeletion domain r.entry.userId r.toAccount).Yields k.answer s fun _ s' =>
      s'.table = s.table ∧ s.transcript ⊆ s'.transcript ∧
        (held s'.others = held s.others ∨
          held s'.others = Function.update (held s.others) r.entry.userId none) := by
  obtain ⟨h, taken, email⟩ := mirrors.backed r member
  unfold reconcileDeletion
  split
  · obtain ⟨mailbox, answered, address, -, same⟩ := reliable.get_of_some taken
    refine Operation.yields_tryService.bind ?_
    intro answer s₁ heard
    obtain ⟨rfl, after⟩ := heard
    have quiet : Quiet held s s₁ := by
      rw [after]
      exact .hear same
    have there : held s₁.others r.entry.userId = some h := by rw [quiet.holdings, taken]
    rw [answered]
    show (deleteMailboxAt r.entry.userId r.entry.email (some mailbox)).Ends k.answer s₁ _
    unfold deleteMailboxAt
    dsimp only
    split
    · obtain ⟨done, gone⟩ := reliable.delete_of_some there
      refine Operation.yields_tryService.bind ?_
      intro answer s₂ heard
      obtain ⟨rfl, rfl⟩ := heard
      rw [quiet.holdings] at gone
      rw [done]
      exact ⟨.deleted, rfl, quiet.table,
        List.Subset.trans quiet.transcript (List.subset_append_left _ _), .inr gone⟩
    · exact ⟨_, rfl, quiet.table, quiet.transcript, .inl quiet.holdings⟩
  · exact ⟨_, rfl, rfl, List.Subset.refl _, .inl rfl⟩

/-- A deletion finds nothing, or it removes a row and at most the mailbox that the row is of. -/
theorem ends_deleteAccount {id : AccountId} (mirrors : s.Mirrors domain held) :
    (deleteAccount domain userId id).Ends k.answer s fun result s' =>
      (∃ fault, result = .error fault ∧ fault.kind ≠ .inconsistency ∧ Quiet held s s') ∨
        (∃ outcome, result = .ok outcome) ∧ ∃ r ∈ s.table.rows,
          s'.table = s.table.delete r.entry.userId r.id ∧ s.transcript ⊆ s'.transcript ∧
            (held s'.others = held s.others ∨
              held s'.others = Function.update (held s.others) r.entry.userId none) := by
  refine reliable.ends_requireAccount.bind ?_ ?_
  · intro account s₁ ends
    obtain ⟨quiet, ⟨r, member, rfl, rfl, same⟩ | missing⟩ := ends
    · cases same
      have mirrors₁ : s₁.Mirrors domain held := by
        unfold Scene.Mirrors
        rw [quiet.table, quiet.holdings]
        exact mirrors
      have there : r ∈ s₁.table.rows := by rw [quiet.table]; exact member
      refine (reliable.yields_reconcileDeletion mirrors₁ there).bind ?_
      intro outcome s₂ ends
      obtain ⟨kept, more, holdings⟩ := ends
      refine reliable.toSteady.ends_statement.bind ?_ ?_
      · intro _ s' ends
        obtain ⟨-, removed, same, last⟩ := ends
        rw [kept, quiet.table] at removed
        rw [quiet.holdings, ← same] at holdings
        exact .inr ⟨⟨outcome, rfl⟩, r, member, removed,
          List.Subset.trans quiet.transcript (List.Subset.trans more last), holdings⟩
      · intro fault s' ends
        obtain ⟨same, -⟩ := ends
        cases same
    · cases missing
  · intro fault s₁ ends
    obtain ⟨quiet, ⟨r, -, -, -, found⟩ | missing⟩ := ends
    · cases found
    · cases missing
      exact .inl ⟨_, rfl, nofun, quiet⟩

end Collaborators.Reliable

end MailboxKeeper.Engine
