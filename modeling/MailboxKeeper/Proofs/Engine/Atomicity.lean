import MailboxKeeper.Proofs.Engine.ConformingService
import MailboxKeeper.Proofs.Engine.Course
import MailboxKeeper.Proofs.Store.SingleRow

/-!
# What a request leaves in the table

A request that fails leaves the account table as it was, whichever call has failed. One that
succeeds changes one row at most: `Request.Effect` says which, and how. All other rows are as and
where they were.
-/

namespace MailboxKeeper.Engine

open Store

variable {t t' : Table} {turns : List Turn} {domain userId localPart displayName : String}
variable {id : AccountId} {account a b : Account}

/-- The account with other encrypted passwords. -/
def withEncrypted (account : Account) (inbound outbound : String) : Account :=
  { account with
    inbound := { account.inbound with encryptedPassword := inbound }
    outbound := { account.outbound with encryptedPassword := outbound } }

/-- What a request that succeeds does to the table. -/
def Request.Effect (domain : String) (t : Table) : (q : Request) → q.Result → Table → Prop
  | .create userId localPart _, account, t' =>
    match t.findByAddress userId (Address.ofParts localPart domain) with
    | none => ∃ new : Row, t.Gains new t' ∧ new.toAccount = account ∧ new.entry.userId = userId
    | some found => ∃ old new : Row, t.Exchanges old new t' ∧ old.toAccount = found ∧
        new.toAccount = account ∧ new.id = old.id ∧ old.entry.userId = userId ∧
          new.entry.userId = userId ∧ new.entry.email = old.entry.email
  | .resolve .., _, t' => t' = t
  | .resetPassword userId id, account, t' => ∃ old new : Row, t.Exchanges old new t' ∧
      old.id = id ∧ old.entry.userId = userId ∧ new.toAccount = account ∧
        ∃ inbound outbound, account = withEncrypted old.toAccount inbound outbound
  | .delete userId id, _, t' => ∃ row : Row, t.Loses row t' ∧ row.id = id ∧
      row.entry.userId = userId

/-- What a request does to the table: that, or nothing if it fails. -/
def Request.Leaves (domain : String) (t : Table) (q : Request) :
    Except Fault q.Result → Table → Prop
  | .ok value, t' => q.Effect domain t value t'
  | .error _, t' => t' = t

/-! ## Rows -/

/-- An account that was read from a row and is written back goes to that row. -/
theorem exchanges_of_write_eq_ok {r : Row} (keyed : t.Keyed) (member : r ∈ t.rows)
    (named : a.id = some r.id) (wrote : t.write a = .ok (b, t')) :
    b = a ∧ t.Exchanges r ⟨r.id, .ofAccount a⟩ t' := by
  have saved : a.isSaved = true := by rw [Account.isSaved, named]; rfl
  rw [Table.write, if_pos saved] at wrote
  obtain ⟨id, same, rfl, rfl, -, -⟩ := Table.of_update_eq_ok wrote
  rw [named] at same
  cases same
  exact ⟨rfl, keyed.exchanges member⟩

/-- An account that was never saved goes to a new row. -/
theorem gains_of_write_eq_ok (unsaved : a.id = none) (wrote : t.write a = .ok (b, t')) :
    ∃ id, b = { a with id := some id } ∧ t.Gains ⟨id, .ofAccount a⟩ t' := by
  have new : ¬a.isSaved = true := by rw [Account.isSaved, unsaved]; exact Bool.false_ne_true
  rw [Table.write, if_neg new] at wrote
  exact Table.gains_of_save_eq_ok wrote

/-! ## Courses -/

namespace Course

theorem Recording.table {imap smtp : MailServer} {renewed : Endpoint → Endpoint → Account}
    {result : Except Fault Account}
    (recording : Recording imap smtp renewed t turns result t') :
    (∃ fault, result = .error fault ∧ t' = t) ∨
      ∃ inbound outbound written, result = .ok written ∧
        t.write (renewed (endpointOf imap inbound) (endpointOf smtp outbound))
          = .ok (written, t') := by
  cases recording with
  | inboundFailed e => exact .inl ⟨_, rfl, rfl⟩
  | outboundFailed inbound e => exact .inl ⟨_, rfl, rfl⟩
  | refused inbound outbound e writes => exact .inl ⟨_, rfl, rfl⟩
  | written inbound outbound writes wrote => exact .inr ⟨inbound, outbound, _, rfl, wrote⟩

theorem Persistence.table {mailbox : Mailbox} {result : Except Fault Account}
    (persistence : Persistence account mailbox displayName t turns result t') :
    (∃ fault, result = .error fault ∧ t' = t) ∨ ∃ inbound outbound written,
      result = .ok written ∧ t.write (renewed account displayName inbound outbound)
        = .ok (written, t') := by
  cases persistence with
  | unissued issue => exact .inl ⟨_, rfl, rfl⟩
  | recorded issue recording =>
    rcases recording.table with failed | ⟨inbound, outbound, written, succeeded, wrote⟩
    · exact .inl failed
    · exact .inr ⟨_, _, written, succeeded, wrote⟩

theorem Creation.leaves {result : Except Fault Account} (keyed : t.Keyed)
    (creation : Creation domain userId localPart displayName t turns result t') :
    (Request.create userId localPart displayName).Leaves domain t result t' := by
  cases creation with
  | unread e => rfl
  | retreated lookup retreat => rfl
  | @approached found _ _ mailbox _ _ lookup approach persistence =>
    rcases persistence.table with ⟨fault, rfl, rfl⟩ | ⟨inbound, outbound, written, rfl, wrote⟩
    · rfl
    · simp only [Request.Leaves, Request.Effect, lookup]
      cases found with
      | none =>
        obtain ⟨id, rfl, gains⟩ := gains_of_write_eq_ok rfl wrote
        exact ⟨_, gains, toAccount_ofAccount _ _, rfl⟩
      | some account =>
        -- The account has the id of the row that it was read from, so it is written back there.
        obtain ⟨r, member, at_, rfl⟩ := Table.of_findByAddress_eq_some lookup
        obtain ⟨rfl, exchanges⟩ := exchanges_of_write_eq_ok keyed member rfl wrote
        exact ⟨r, _, exchanges, rfl, toAccount_ofAccount _ _, rfl, (Entry.isAt_iff.1 at_).1,
          (Entry.isAt_iff.1 at_).1, rfl⟩

theorem PasswordReset.leaves {result : Except Fault Account} (keyed : t.Keyed)
    (reset : PasswordReset domain userId id t turns result t') :
    (Request.resetPassword userId id).Leaves domain t result t' := by
  cases reset with
  | unread e => rfl
  | unknown lookup => rfl
  | foreign lookup outside => rfl
  | refused lookup inside failure => rfl
  | issued lookup inside password recording =>
    rcases recording.table with ⟨fault, rfl, rfl⟩ | ⟨inbound, outbound, written, rfl, wrote⟩
    · rfl
    · obtain ⟨r, member, same, owner, rfl⟩ := Table.of_findById_eq_some lookup
      obtain ⟨rfl, exchanges⟩ := exchanges_of_write_eq_ok keyed member rfl wrote
      exact ⟨r, _, exchanges, same, owner, toAccount_ofAccount _ _, inbound, outbound, rfl⟩

theorem Deletion.leaves {result : Except Fault DeletionOutcome} (keyed : t.Keyed)
    (deletion : Deletion domain userId id t turns result t') :
    (Request.delete userId id).Leaves domain t result t' := by
  cases deletion with
  | unread e => rfl
  | unknown lookup => rfl
  | refused lookup cleanup e => rfl
  | deleted lookup cleanup =>
    obtain ⟨row, member, rfl, rfl, rfl⟩ := Table.of_findById_eq_some lookup
    exact ⟨row, keyed.loses member, rfl, rfl⟩

end Course

theorem leaves_of_takes_resolveChecked {result : Except Fault Resolution}
    (takes : Takes (resolveChecked domain userId localPart) t turns result t') :
    (Request.resolve userId localPart).Leaves domain t result t' := by
  have kept : t' = t := takes.of_resolveChecked
  cases result with
  | ok resolution => exact kept
  | error fault => exact kept

/-- What the table can be after a request. -/
theorem Request.leaves_of_takes (q : Request) {result : Except Fault q.Result} (keyed : t.Keyed)
    (takes : Takes (q.operation domain) t turns result t') : q.Leaves domain t result t' := by
  cases q with
  | create userId localPart displayName =>
    by_cases valid : AccountRequest.violations userId localPart displayName = []
    · exact (creation_of_takes valid takes).leaves keyed
    · obtain ⟨-, rfl, rfl⟩ := of_takes_of_violations valid takes
      rfl
  | resolve userId localPart => exact leaves_of_takes_resolveChecked takes
  | resetPassword userId id => exact (passwordReset_of_takes takes).leaves keyed
  | delete userId id => exact (deletion_of_takes takes).leaves keyed

/-! ## Runs -/

variable {σ : Type}

theorem Collaborators.keyed_after (k : Collaborators σ) (domain : String)
    (requests : List Request) {s : Scene σ} (keyed : s.table.Keyed) :
    (k.after domain requests s).table.Keyed := by
  refine Collaborators.after_induction (motive := fun s => s.table.Keyed) keyed ?_
  intro q _ s keyed
  obtain ⟨turns, -, takes⟩ := k.takes (q.operation domain) s
  exact takes.keeps (fun _ statement keyed => keyed.execute statement) keyed

/-- After any requests, over any rows to begin with and whatever the collaborators answer, a
request that fails leaves the table as it was, and one that succeeds has its effect and no other. -/
theorem request_leaves (k : Collaborators σ) (domain : String) (requests : List Request)
    {start : Scene σ} (keyed : start.table.Keyed) (q : Request) :
    (q.operation domain).Ends k.answer (k.after domain requests start) fun result s' =>
      q.Leaves domain (k.after domain requests start).table result s'.table := by
  refine ends_of_takes ?_
  intro turns result s' _ takes
  exact q.leaves_of_takes (k.keyed_after domain requests keyed) takes

/-- A row that was written by hand, after another row was saved. -/
theorem request_leaves_reset :
    Table.handWritten.Keyed ∧
      ((Request.resetPassword "u1" ⟨3⟩).operation "example.com").Ends (calm "example.com").answer
        ((calm "example.com").after "example.com" [.create "u3" "john" "John"]
          ⟨.handWritten, fun _ => none, []⟩)
        fun result s' => (Request.resetPassword "u1" ⟨3⟩).Leaves "example.com"
          ((calm "example.com").after "example.com" [.create "u3" "john" "John"]
            ⟨.handWritten, fun _ => none, []⟩).table result s'.table :=
  ⟨Table.handWritten_keyed, request_leaves _ _ _ Table.handWritten_keyed _⟩

end MailboxKeeper.Engine
