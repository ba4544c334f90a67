import MailboxKeeper.Proofs.Engine.Scene

/-!
# What operations ask and what they write

Two things are settled here for any collaborators. The `asks` lemmas list the calls that each
operation may make, so that whatever those calls preserve, the operation preserves
(`Dialogue.Asks.runFrom`). The `ends` lemmas say that a request for an account changes the table
in its last call or not at all, and which account it writes.
-/

namespace MailboxKeeper.Engine

open AccountRequest

variable {σ α : Type} {k : Collaborators σ} {s : Scene σ} {op : Operation α}

theorem of_ofMailbox_eq_retry {expected : String} {found : Option Mailbox} {mailbox : Mailbox}
    (retry : Resolution.ofMailbox expected found = .retry mailbox) :
    found = some mailbox ∧ Address.same mailbox.email expected = true := by
  cases found with
  | none => cases retry
  | some m =>
    by_cases same : Address.same m.email expected = true
    · rw [Resolution.ofMailbox, if_pos same] at retry
      cases retry
      exact ⟨rfl, same⟩
    · rw [Resolution.ofMailbox, if_neg same] at retry
      cases retry

/-! ## Calls -/

section Calls

variable {kind : Call → Prop} {domain userId localPart displayName : String}

theorem asks_orFault {ε : Type} (toFault : ε → Fault) (a : Except ε α) :
    (Operation.orFault toFault a).Asks kind := by
  cases a <;> trivial

theorem asks_table {statement : Store.Statement} (states : kind (.table statement)) :
    (Operation.table statement).Asks kind :=
  ⟨states, asks_orFault _⟩

theorem asks_service {c : Provisioning.Call} (calls : kind (.service c)) :
    (Operation.service c).Asks kind :=
  ⟨calls, asks_orFault _⟩

theorem asks_tryService {c : Provisioning.Call} (calls : kind (.service c)) :
    (Operation.tryService c).Asks kind :=
  ⟨calls, fun _ => trivial⟩

theorem asks_requireAccount {id : AccountId} (reads : kind (.table (.findById userId id))) :
    (Operation.requireAccount userId id).Asks kind := by
  refine (asks_table reads).bind ?_
  rintro (_ | account) <;> trivial

theorem write_of_saved {account : Account} (saved : account.isSaved = true) :
    Operation.write account = Operation.table (.update account) := if_pos saved

theorem write_of_unsaved {account : Account} (unsaved : account.isSaved = false) :
    Operation.write account = Operation.table (.save account) :=
  if_neg (by rw [unsaved]; exact Bool.false_ne_true)

theorem asks_write {account : Account}
    (saves : account.isSaved = false → ∀ a, kind (.table (.save a)))
    (updates : account.isSaved = true → ∀ a, kind (.table (.update a))) :
    (Operation.write account).Asks kind := by
  cases saved : account.isSaved with
  | true => rw [write_of_saved saved]; exact asks_table (updates saved account)
  | false => rw [write_of_unsaved saved]; exact asks_table (saves saved account)

theorem asks_encryptEndpoint {server : MailServer} (encrypts : ∀ p, kind (.encrypt p)) :
    (Operation.encryptEndpoint server).Asks kind :=
  Dialogue.Asks.bind ⟨encrypts _, asks_orFault _⟩ fun _ => trivial

theorem asks_withIssuedPassword {mailbox : Mailbox}
    (resets : kind (.service (.resetPassword userId))) :
    (withIssuedPassword userId mailbox).Asks kind := by
  unfold withIssuedPassword
  split
  · trivial
  · exact (asks_service resets).bind fun _ => trivial

theorem asks_persist {account : Account} {mailbox : Mailbox}
    (resets : kind (.service (.resetPassword account.userId))) (encrypts : ∀ p, kind (.encrypt p))
    (saves : account.isSaved = false → ∀ a, kind (.table (.save a)))
    (updates : account.isSaved = true → ∀ a, kind (.table (.update a))) :
    (persist account mailbox displayName).Asks kind :=
  (asks_withIssuedPassword resets).bind fun _ =>
    (asks_encryptEndpoint encrypts).bind fun _ =>
      (asks_encryptEndpoint encrypts).bind fun _ => asks_write saves updates

theorem asks_resolve (looks : kind (.service (.get userId))) :
    (resolve domain userId localPart).Asks kind :=
  (asks_service looks).bind fun _ => trivial

theorem asks_repair {account : Account} (looks : kind (.service (.get account.userId)))
    (resets : kind (.service (.resetPassword account.userId))) (encrypts : ∀ p, kind (.encrypt p))
    (saves : account.isSaved = false → ∀ a, kind (.table (.save a)))
    (updates : account.isSaved = true → ∀ a, kind (.table (.update a))) :
    (repair domain localPart displayName account).Asks kind := by
  refine (asks_resolve looks).bind ?_
  intro resolution
  cases resolution with
  | retry mailbox => exact asks_persist resets encrypts saves updates
  | noExistingAccount => trivial
  | emailMismatch expected existing => trivial

theorem asks_resetAccountPassword {id : AccountId}
    (reads : kind (.table (.findById userId id)))
    (resets : kind (.service (.resetPassword userId))) (encrypts : ∀ p, kind (.encrypt p))
    (updates : ∀ a, kind (.table (.update a))) :
    (resetAccountPassword domain userId id).Asks kind := by
  refine (asks_requireAccount reads).bind ?_
  intro account
  split
  · exact (asks_service resets).bind fun _ =>
      (asks_encryptEndpoint encrypts).bind fun _ =>
        (asks_encryptEndpoint encrypts).bind fun _ => asks_table (updates _)
  · trivial

end Calls

/-! ## Calls that write nothing -/

/-- Does the call leave the table as it is? -/
def Call.WritesNothing : Call → Prop
  | .table statement => statement.isRead = true
  | .service _ => True
  | .encrypt _ => True

theorem ends_unwritten (asks : op.Asks Call.WritesNothing) :
    op.Ends k.answer s fun _ s' => s'.table = s.table := by
  refine asks.runFrom (R := fun s s' : Scene σ => s'.table = s.table) (fun _ => rfl)
    (fun first second => second.trans first) ?_ s
  intro c s quiet
  cases c with
  | service c => rfl
  | encrypt plaintext => rfl
  | table statement =>
    show (k.answer (.table statement) s).2.table = s.table
    rcases k.answer_table_cases s statement with ⟨e, others, -, said⟩ | ⟨others, -, said⟩
    · rw [said]
      rfl
    · rw [said]
      exact Store.Table.execute_of_isRead s.table quiet

/-- The turns that an operation adds to the transcript are among those it may take. -/
theorem ends_transcript {kind : Call → Prop} (asks : op.Asks kind) :
    op.Ends k.answer s fun _ s' =>
      ∃ turns, s'.transcript = s.transcript ++ turns ∧ ∀ turn ∈ turns, kind turn.call := by
  refine asks.runFrom (R := fun s s' : Scene σ =>
    ∃ turns, s'.transcript = s.transcript ++ turns ∧ ∀ turn ∈ turns, kind turn.call)
    (fun s => ⟨[], by simp⟩) ?_ ?_ s
  · intro s s' s'' before after
    obtain ⟨turns, first, firstKind⟩ := before
    obtain ⟨more, second, secondKind⟩ := after
    refine ⟨turns ++ more, by rw [second, first, List.append_assoc], ?_⟩
    intro turn member
    exact (List.mem_append.1 member).elim (firstKind turn) (secondKind turn)
  · intro c s states
    exact ⟨_, k.transcript_answer c s, by simpa using states⟩

theorem ends_findByAddress {userId email : String} :
    (Operation.table (.findByAddress userId email)).Ends k.answer s fun result s' =>
      s'.table = s.table ∧
        ∀ account?, result = .ok account? → account? = s.table.findByAddress userId email := by
  refine Operation.ends_table ?_ ?_
  · exact fun _ _ _ => ⟨rfl, fun _ => nofun⟩
  · exact fun _ _ => ⟨rfl, fun _ same => by cases same; rfl⟩

theorem ends_requireAccount {userId : String} {id : AccountId} :
    (Operation.requireAccount userId id).Ends k.answer s fun result s' =>
      s'.table = s.table ∧
        ∀ account, result = .ok account → s.table.findById userId id = some account := by
  have quiet : (Operation.requireAccount userId id).Asks Call.WritesNothing :=
    asks_requireAccount rfl
  refine (ends_unwritten quiet).and ?_
  refine Dialogue.Ends.bind (m := fun result _ =>
    ∀ account?, result = .ok account? → account? = s.table.findById userId id) ?_ ?_ ?_
  · refine Operation.ends_table ?_ ?_
    · exact fun _ _ _ _ => nofun
    · exact fun _ _ _ same => by cases same; rfl
  · intro (account? : Option Account) s₁ lookup account same
    have found : account? = s.table.findById userId id := lookup account? rfl
    cases account? with
    | none => cases same
    | some a =>
      cases same
      exact found.symm
  · exact fun _ _ _ _ => nofun

/-! ## The call that writes -/

theorem ends_write {account : Account} :
    (Operation.write account).Ends k.answer s fun result s' =>
      match result with
      | .ok written => s.table.write account = .ok (written, s'.table)
      | .error _ => s'.table = s.table := by
  cases saved : account.isSaved with
  | true =>
    have writes : s.table.write account = s.table.update account := if_pos saved
    rw [write_of_saved saved, writes]
    refine Operation.ends_table (fun _ _ _ => rfl) fun others _ => ?_
    simp only [Scene.execute, Store.Table.execute]
    cases s.table.update account with
    | error e => rfl
    | ok after => rfl
  | false =>
    have writes : s.table.write account = s.table.save account :=
      if_neg (by rw [saved]; exact Bool.false_ne_true)
    rw [write_of_unsaved saved, writes]
    refine Operation.ends_table (fun _ _ _ => rfl) fun others _ => ?_
    simp only [Scene.execute, Store.Table.execute]
    cases s.table.save account with
    | error e => rfl
    | ok after => rfl

/-- However the collaborators answer, a mailbox is written in one call at the end: to the user
and the address of the account, or not at all. -/
theorem ends_persist {account : Account} {mailbox : Mailbox} {displayName : String} :
    (persist account mailbox displayName).Ends k.answer s fun result s' =>
      match result with
      | .ok written => ∃ a, a.id = account.id ∧ a.userId = account.userId ∧ a.email = account.email
          ∧ s.table.write a = .ok (written, s'.table)
      | .error _ => s'.table = s.table := by
  refine (ends_unwritten (asks_withIssuedPassword trivial)).bind ?_ fun _ _ kept => kept
  intro issued s₁ first
  refine (ends_unwritten (asks_encryptEndpoint fun _ => trivial)).bind ?_
    fun _ _ kept => kept.trans first
  intro inbound s₂ second
  refine (ends_unwritten (asks_encryptEndpoint fun _ => trivial)).bind ?_
    fun _ _ kept => kept.trans (second.trans first)
  intro outbound s₃ third
  have kept : s₃.table = s.table := third.trans (second.trans first)
  refine ends_write.mono ?_
  intro result s' wrote
  cases result with
  | error fault => exact wrote.trans kept
  | ok written =>
    rw [kept] at wrote
    exact ⟨{ account with
      displayName := Text.trim displayName, authMethod := .password, inbound, outbound },
      rfl, rfl, rfl, wrote⟩

/-- A saved account is written by an update. -/
theorem ends_persist_update {account : Account} {mailbox : Mailbox} {displayName : String}
    (saved : account.isSaved = true) :
    (persist account mailbox displayName).Ends k.answer s fun result s' =>
      ∀ written, result = .ok written →
        ∃ a, (⟨.table (.update a), .ok written⟩ : Turn) ∈ s'.transcript := by
  refine Dialogue.Ends.bind (m := fun _ _ => True) trivial ?_ fun _ _ _ _ => nofun
  intro issued s₁ _
  refine Dialogue.Ends.bind (m := fun _ _ => True) trivial ?_ fun _ _ _ _ => nofun
  intro inbound s₂ _
  refine Dialogue.Ends.bind (m := fun _ _ => True) trivial ?_ fun _ _ _ _ => nofun
  intro outbound s₃ _
  let a : Account := { account with
    displayName := Text.trim displayName, authMethod := .password, inbound, outbound }
  show (Operation.write a).Ends k.answer s₃ _
  have saved : a.isSaved = true := saved
  rw [write_of_saved saved]
  refine Operation.ends_table (fun _ _ _ _ => nofun) ?_
  intro others _ written ok
  refine ⟨a, List.mem_append_right _ (List.mem_singleton.2 ?_)⟩
  cases updated : (s₃.table.execute (.update a)).1 with
  | error e => rw [updated] at ok; cases ok
  | ok b => rw [updated] at ok; cases ok; rfl

theorem ends_repair_update {account : Account} {domain localPart displayName : String}
    (saved : account.isSaved = true) :
    (repair domain localPart displayName account).Ends k.answer s fun result s' =>
      ∀ written, result = .ok written →
        ∃ a, (⟨.table (.update a), .ok written⟩ : Turn) ∈ s'.transcript := by
  refine Dialogue.Ends.bind (m := fun _ _ => True) trivial ?_ fun _ _ _ _ => nofun
  intro resolution s₁ _
  cases resolution with
  | retry mailbox => exact ends_persist_update saved
  | noExistingAccount => exact fun _ => nofun
  | emailMismatch expected existing => exact fun _ => nofun

/-- A reset writes the account it was asked for, at the address it had, or nothing. -/
theorem ends_resetAccountPassword {domain userId : String} {id : AccountId} :
    (resetAccountPassword domain userId id).Ends k.answer s fun result s' =>
      match result with
      | .ok written => ∃ r ∈ s.table.rows, r.entry.userId = userId ∧
          ∃ a, a.id = some r.id ∧ a.userId = r.entry.userId ∧ a.email = r.entry.email
            ∧ s.table.write a = .ok (written, s'.table)
      | .error _ => s'.table = s.table := by
  refine ends_requireAccount.bind ?_ fun _ _ kept => kept.1
  intro account s₁ ends
  obtain ⟨first, found⟩ := ends
  obtain ⟨r, member, -, owner, rfl⟩ := Store.Table.of_findById_eq_some (found account rfl)
  split
  · refine (ends_unwritten (asks_service trivial)).bind ?_ fun _ _ kept => kept.trans first
    intro password s₂ second
    refine (ends_unwritten (asks_encryptEndpoint fun _ => trivial)).bind ?_
      fun _ _ kept => kept.trans (second.trans first)
    intro inbound s₃ third
    refine (ends_unwritten (asks_encryptEndpoint fun _ => trivial)).bind ?_
      fun _ _ kept => kept.trans (third.trans (second.trans first))
    intro outbound s₄ fourth
    have kept : s₄.table = s.table := fourth.trans (third.trans (second.trans first))
    have saved : ({ r.toAccount with inbound, outbound } : Account).isSaved = true := rfl
    rw [← write_of_saved saved]
    refine ends_write.mono ?_
    intro result s' wrote
    cases result with
    | error fault => exact wrote.trans kept
    | ok written =>
      rw [kept] at wrote
      exact ⟨r, member, owner, { r.toAccount with inbound, outbound }, rfl, rfl, rfl, wrote⟩
  · exact first

end MailboxKeeper.Engine
