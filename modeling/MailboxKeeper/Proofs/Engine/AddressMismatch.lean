import MailboxKeeper.Proofs.Address.Comparison
import MailboxKeeper.Proofs.Engine.Calls

/-!
# When an account is at the requested address

A request for an account can succeed in four ways, and each takes the address from another place:
from the row that the table found, from a mailbox that was taken over, or from one that the
service has just made, with passwords or without. Only what is looked up is compared with the
address that was asked for. So the account that is stored and returned is at that address exactly
if the service has made no mailbox at another one (`createOrUpdate_same_iff`).
-/

namespace MailboxKeeper.Engine

variable {σ α : Type} {k : Collaborators σ} {s : Scene σ} {op : Operation α}
variable {domain userId localPart displayName : String}

/-- The service has said that it made this mailbox. -/
def Scene.Made (s : Scene σ) (userId localPart : String) (mailbox : Mailbox) : Prop :=
  (⟨.service (.create userId localPart), .ok mailbox⟩ : Turn) ∈ s.transcript

/-- The account stands in the table, with its id. -/
def Scene.Stores (s : Scene σ) (account : Account) : Prop :=
  ∃ id, account.id = some id ∧ (⟨id, .ofAccount account⟩ : Store.Row) ∈ s.table.rows

/-- An operation that asks for no mailbox to be made has none made. -/
theorem ends_made (asks : op.Asks fun c => ∀ u l, c ≠ .service (.create u l)) :
    op.Ends k.answer s fun _ s' => ∀ u l mailbox, s'.Made u l mailbox ↔ s.Made u l mailbox := by
  refine (ends_transcript asks).mono ?_
  intro result s' ends u l mailbox
  obtain ⟨turns, transcript, others⟩ := ends
  unfold Scene.Made
  rw [transcript, List.mem_append]
  constructor
  · intro member
    rcases member with before | during
    · exact before
    · exact absurd rfl (others _ during u l)
  · exact .inl

/-- What becomes of the account of a request at the end: it is written at the address it came
with, without another mailbox being made. -/
theorem ends_persist_email {account : Account} {mailbox : Mailbox} :
    (persist account mailbox displayName).Ends k.answer s fun result s' =>
      (∀ u l m, s'.Made u l m ↔ s.Made u l m) ∧
        match result with
        | .ok written => written.email = account.email ∧ s'.Stores written
        | .error _ => s'.table = s.table := by
  refine ((ends_made (asks_persist ?_ ?_ ?_ ?_)).and ends_persist).mono ?_
  · exact fun _ _ => nofun
  · exact fun _ _ _ => nofun
  · exact fun _ _ _ _ => nofun
  · exact fun _ _ _ _ => nofun
  · intro result s' ends
    obtain ⟨made, wrote⟩ := ends
    cases result with
    | error fault => exact ⟨made, wrote⟩
    | ok written =>
      obtain ⟨a, -, -, email, write⟩ := wrote
      obtain ⟨id, same, member⟩ := Store.Table.of_write_eq_ok write
      refine ⟨made, ?_, id, ?_, member⟩
      · rw [same]; exact email
      · rw [same]

/-- A mailbox that is looked up to be taken over is at the requested address. -/
theorem ends_resolve_retry :
    (resolve domain userId localPart).Ends k.answer s fun result s' =>
      ((∀ u l m, s'.Made u l m ↔ s.Made u l m) ∧ s'.table = s.table) ∧
        ∀ mailbox, result = .ok (.retry mailbox) →
          Address.same mailbox.email (Address.ofParts localPart domain) = true := by
  refine ((ends_made ?_).and (ends_unwritten (asks_resolve trivial))).and ?_
  · exact asks_resolve fun _ _ => nofun
  · refine (Operation.ends_service ?_).bind (m := fun _ _ => True) ?_ ?_
    · exact fun _ _ _ => trivial
    · intro found _ _ mailbox retry
      exact (of_ofMailbox_eq_retry (Except.ok.inj retry)).2
    · exact fun _ _ _ _ => nofun

/-- A repaired record keeps its address. -/
theorem ends_repair_email {account : Account} :
    (repair domain localPart displayName account).Ends k.answer s fun result s' =>
      (∀ u l m, s'.Made u l m ↔ s.Made u l m) ∧
        match result with
        | .ok written => written.email = account.email ∧ s'.Stores written
        | .error _ => s'.table = s.table := by
  refine ends_resolve_retry.bind ?_ ?_
  · intro resolution s₁ ends
    obtain ⟨⟨made, kept⟩, -⟩ := ends
    cases resolution with
    | retry mailbox =>
      refine ends_persist_email.mono ?_
      intro result s' ends
      obtain ⟨madeAfter, wrote⟩ := ends
      cases result with
      | error fault => exact ⟨fun u l m => (madeAfter u l m).trans (made u l m), wrote.trans kept⟩
      | ok written => exact ⟨fun u l m => (madeAfter u l m).trans (made u l m), wrote⟩
    | noExistingAccount => exact ⟨made, kept⟩
    | emailMismatch expected existing => exact ⟨made, kept⟩
  · intro fault s₁ ends
    obtain ⟨kept, -⟩ := ends
    exact kept

/-- A mailbox that is taken over is at the requested address. -/
theorem ends_recover_email {refusal : Fault} :
    (recover domain userId localPart displayName refusal).Ends k.answer s fun result s' =>
      (∀ u l m, s'.Made u l m ↔ s.Made u l m) ∧
        match result with
        | .ok written =>
          Address.same written.email (Address.ofParts localPart domain) = true ∧ s'.Stores written
        | .error _ => s'.table = s.table := by
  refine Dialogue.Ends.bind (m := fun result s' =>
      ((∀ u l m, s'.Made u l m ↔ s.Made u l m) ∧ s'.table = s.table) ∧
        ∀ mailbox, result = .ok (.retry mailbox) →
          Address.same mailbox.email (Address.ofParts localPart domain) = true) ?_ ?_ ?_
  · refine (ends_resolve_retry.mono ?_).mapError
    intro result s₁ ends
    obtain ⟨kept, retry⟩ := ends
    cases result with
    | error fault => exact ⟨kept, fun _ => nofun⟩
    | ok resolution => exact ⟨kept, retry⟩
  · intro resolution s₁ ends
    obtain ⟨⟨made, kept⟩, retry⟩ := ends
    cases resolution with
    | retry mailbox =>
      refine ends_persist_email.mono ?_
      intro result s' ends
      obtain ⟨madeAfter, wrote⟩ := ends
      cases result with
      | error fault => exact ⟨fun u l m => (madeAfter u l m).trans (made u l m), wrote.trans kept⟩
      | ok written =>
        have same := retry mailbox rfl
        obtain ⟨email, stored⟩ := wrote
        refine ⟨fun u l m => (madeAfter u l m).trans (made u l m), ?_, stored⟩
        rw [email]
        exact same
    | noExistingAccount => exact ⟨made, kept⟩
    | emailMismatch expected existing => exact ⟨made, kept⟩
  · intro fault s₁ ends
    obtain ⟨kept, -⟩ := ends
    exact kept

/-- A new account is at the requested address unless the service made a mailbox at another. -/
theorem ends_provision_email (fresh : ∀ m, ¬s.Made userId localPart m) :
    (provision domain userId localPart displayName).Ends k.answer s fun result s' =>
      match result with
      | .ok written => s'.Stores written ∧
        (Address.same written.email (Address.ofParts localPart domain) = true ↔
          ∀ mailbox, s'.Made userId localPart mailbox →
            Address.same mailbox.email (Address.ofParts localPart domain) = true)
      | .error _ => s'.table = s.table := by
  refine (Operation.ends_tryService ?_).bind (m := fun result s' => s'.table = s.table ∧
      ∃ answer, result = .ok answer ∧
        s'.transcript = s.transcript ++ [⟨.service (.create userId localPart), answer⟩]) ?_ ?_
  · exact fun answer _ _ => ⟨rfl, answer, rfl, rfl⟩
  · intro answer s₁ ends
    obtain ⟨kept, heard, same, transcript⟩ := ends
    cases same
    have made : ∀ m, s₁.Made userId localPart m ↔ answer = .ok m := by
      intro m
      unfold Scene.Made
      rw [transcript, List.mem_append, List.mem_singleton]
      constructor
      · intro member
        rcases member with before | now
        · exact absurd before (fresh m)
        · cases now; rfl
      · intro same
        exact .inr (by rw [same])
    cases answer with
    | ok mailbox =>
      refine ends_persist_email.mono ?_
      intro result s' ends
      obtain ⟨madeAfter, wrote⟩ := ends
      cases result with
      | error fault => exact wrote.trans kept
      | ok written =>
        obtain ⟨email, stored⟩ := wrote
        refine ⟨stored, ?_⟩
        have only : ∀ m, s'.Made userId localPart m ↔ m = mailbox := by
          intro m
          rw [madeAfter, made]
          exact ⟨fun same => (Except.ok.inj same).symm, fun same => by rw [same]⟩
        rw [email]
        constructor
        · intro same m now
          rw [(only m).1 now]
          exact same
        · exact fun all => all mailbox ((only mailbox).2 rfl)
    | error failure =>
      refine ends_recover_email.mono ?_
      intro result s' ends
      obtain ⟨madeAfter, wrote⟩ := ends
      cases result with
      | error fault => exact wrote.trans kept
      | ok written =>
        obtain ⟨same, stored⟩ := wrote
        refine ⟨stored, fun _ m now => ?_, fun _ => same⟩
        rw [madeAfter, made] at now
        cases now
  · intro fault s₁ ends
    obtain ⟨kept, -⟩ := ends
    exact kept

/-- What is stored and returned is at the requested address exactly if neither the service made a
mailbox at another one nor the table gave a row at another one for it. -/
theorem createOrUpdate_same_iff (k : Collaborators σ) (table : Store.Table) (others : σ)
    (domain userId localPart displayName : String) :
    (createOrUpdate domain userId localPart displayName).Ends k.answer ⟨table, others, []⟩
      fun result s' =>
        match result with
        | .ok account => s'.Stores account ∧
          (Address.same account.email (Address.ofParts localPart domain) = true ↔
            (∀ mailbox, s'.Made userId localPart mailbox →
              Address.same mailbox.email (Address.ofParts localPart domain) = true) ∧
            ∀ found, table.findByAddress userId (Address.ofParts localPart domain) = some found →
              Address.same found.email (Address.ofParts localPart domain) = true)
        | .error _ => s'.table = table := by
  unfold createOrUpdate
  split
  · refine ((ends_made (asks_table ?_)).and ends_findByAddress).bind ?_ ?_
    · exact fun _ _ => nofun
    · intro (account? : Option Account) s₁ ends
      obtain ⟨made, (kept : s₁.table = table), lookup⟩ := ends
      have found : account? = table.findByAddress userId (Address.ofParts localPart domain) :=
        lookup account? rfl
      have fresh : ∀ m, ¬s₁.Made userId localPart m := fun m now =>
        List.not_mem_nil ((made userId localPart m).1 now)
      rw [← found, ← kept]
      cases account? with
      | some account =>
        refine ends_repair_email.mono ?_
        intro result s' ends
        obtain ⟨made, wrote⟩ := ends
        cases result with
        | error fault => exact wrote
        | ok written =>
          obtain ⟨email, stored⟩ := wrote
          refine ⟨stored, ?_⟩
          have never : ∀ m, ¬s'.Made userId localPart m := fun m now =>
            fresh m ((made userId localPart m).1 now)
          rw [email]
          simp [never]
      | none =>
        refine (ends_provision_email fresh).mono ?_
        intro result s' wrote
        cases result with
        | error fault => exact wrote
        | ok written => simpa using wrote
    · intro fault s₁ ends
      obtain ⟨-, kept, -⟩ := ends
      exact kept
  · rfl

/-- A service that makes the same mailbox for everybody. -/
def mistaken : Collaborators Unit where
  tableFailure? _ _ := (none, ())
  service c _ :=
    match c with
    | .create .. =>
      (.ok ⟨"jane@example.com", ⟨"imap.example.com", 993, .tls, "jane", some "secret"⟩,
        ⟨"smtp.example.com", 465, .tls, "jane", some "secret"⟩⟩, ())
    | .get _ => (.ok none, ())
    | .delete _ => (.ok true, ())
    | .resetPassword _ => (.ok "secret", ())
  encrypt plaintext _ := (.ok plaintext, ())

/-- A request for one address can store another and succeed. -/
theorem createOrUpdate_mistaken :
    (createOrUpdate "example.com" "u1" "john" "John").Ends mistaken.answer ⟨.empty, (), []⟩
      fun result s' => ∃ account, result = .ok account ∧ s'.Stores account ∧
        Address.same account.email (Address.ofParts "john" "example.com") = false := by
  refine ⟨_, rfl, ⟨⟨1⟩, rfl, ?_⟩, ?_⟩
  · decide +kernel
  · decide +kernel

/-- The rows that the table gives for an address are at that address, as far as it has no
U+0000. -/
theorem same_of_findByAddress {table : Store.Table} {email : String} {found : Account}
    (whole : ∀ c ∈ email.toList, c.toNat ≠ 0)
    (lookup : table.findByAddress userId email = some found) :
    Address.same found.email email = true := by
  obtain ⟨r, -, at_, rfl⟩ := Store.Table.of_findByAddress_eq_some lookup
  exact Store.same_of_sameAddress (Store.Entry.isAt_iff.1 at_).2 whole

end MailboxKeeper.Engine
