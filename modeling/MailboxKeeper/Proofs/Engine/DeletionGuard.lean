import MailboxKeeper.Proofs.Engine.ConformingService
import MailboxKeeper.Proofs.Engine.Course
import MailboxKeeper.Proofs.Store.SingleRow

/-!
# The guard of deletion

A remote mailbox cannot be had back once it is deleted. So it is deleted only if the local record
lies in the provisioning domain and the service has just shown a mailbox at the address of the
record. The row is not guarded: once the record is found it goes, whatever the service answers.
`Guarded` says both, and what the outcome reports.
-/

namespace MailboxKeeper.Engine

open Store

variable {t t' : Table} {turns first : List Turn} {domain userId : String} {id : AccountId}
variable {account : Account} {outcome : DeletionOutcome}

/-- The service is asked to delete the user's mailbox. -/
def Removes (userId : String) (turns : List Turn) : Prop :=
  ∃ turn ∈ turns, turn.call = .service (.delete userId)

/-- The service was asked for the user's mailbox, and has shown this one. -/
def Shown (userId : String) (mailbox : Mailbox) (turns : List Turn) : Prop :=
  ⟨.service (.get userId), .ok (some mailbox)⟩ ∈ turns

/-- The record that was found lies in the domain, and the service has then shown a mailbox at its
address. -/
def Meets (domain userId : String) (id : AccountId) (account : Account) (mailbox : Mailbox)
    (turns : List Turn) : Prop :=
  Address.inDomain account.email domain = true ∧
    Address.same mailbox.email account.email = true ∧
      [⟨.table (.findById userId id), .ok (some account)⟩,
        ⟨.service (.get userId), .ok (some mailbox)⟩] <+: turns

/-- Has the service failed to answer, or answered a deletion by "no"? -/
def Turn.refuses : Turn → Bool
  | ⟨.service _, .error _⟩ => true
  | ⟨.service (.delete _), .ok removed⟩ => !removed
  | _ => false

/-- What a request to delete an account does, and what it leaves alone. -/
structure Guarded (domain userId : String) (id : AccountId) (t : Table) (turns : List Turn)
    (result : Except Fault DeletionOutcome) (t' : Table) : Prop where
  /-- The mailbox is deleted if and only if the record that was found lies in the domain, and the
  service has then shown a mailbox at its address. -/
  remote : Removes userId turns ↔ ∃ account mailbox, Meets domain userId id account mailbox turns
  /-- The service is asked for nothing else. -/
  service : ∀ turn ∈ turns, ∀ c, turn.call = .service c → c = .get userId ∨ c = .delete userId
  /-- The row of a record that was found is deleted at last, and nothing else is written. -/
  row : ∀ account, Finds userId id account turns → ∃ before answer,
    turns = before ++ [⟨.table (.delete userId id), answer⟩] ∧
      (∀ turn ∈ before, ∀ statement, turn.call = .table statement → statement.isRead = true) ∧
        (answer = .ok () → (∃ outcome, result = .ok outcome) ∧
          ∃ row, row.id = id ∧ row.entry.userId = userId ∧ t.Loses row t')
  /-- Without a record nobody else is called. -/
  unfound : (¬∃ account, Finds userId id account turns) →
    (∃ answer, turns = [⟨.table (.findById userId id), answer⟩]) ∧ t' = t
  deleted : result = .ok .deleted → ⟨.service (.delete userId), .ok true⟩ ∈ turns
  absent : result = .ok .noRemoteMailbox → ⟨.service (.get userId), .ok none⟩ ∈ turns
  elsewhere : result = .ok .addressMismatch → ∃ account mailbox, Finds userId id account turns ∧
    Shown userId mailbox turns ∧ Address.same mailbox.email account.email = false
  failed : (∃ turn ∈ turns, turn.refuses = true) →
    ∀ outcome, result = .ok outcome → outcome = .failed

/-! ## The remote mailbox -/

namespace Course.Cleanup

theorem service (cleanup : Cleanup domain userId account turns outcome) :
    ∀ turn ∈ turns, turn.call = .service (.get userId) ∨ turn.call = .service (.delete userId) := by
  cases cleanup with
  | foreign | lookupFailed | absent | elsewhere | removed | left => simp

/-- A mailbox is deleted only after it was shown, at the address of a record in the domain. -/
theorem of_removes (cleanup : Cleanup domain userId account turns outcome)
    (removes : Removes userId turns) : Address.inDomain account.email domain = true ∧
      ∃ mailbox, Address.same mailbox.email account.email = true ∧
        [⟨.service (.get userId), .ok (some mailbox)⟩] <+: turns := by
  cases cleanup with
  | foreign | lookupFailed | absent | elsewhere => simp [Removes] at removes
  | removed inside same => exact ⟨inside, _, same, [_], rfl⟩
  | left inside same unremoved => exact ⟨inside, _, same, [_], rfl⟩

/-- A mailbox that was shown at the address of a record in the domain is deleted. -/
theorem removes (cleanup : Cleanup domain userId account turns outcome) {mailbox : Mailbox}
    (same : Address.same mailbox.email account.email = true)
    (shown : [⟨.service (.get userId), .ok (some mailbox)⟩] <+: turns) : Removes userId turns := by
  obtain ⟨rest, split⟩ := shown
  cases cleanup with
  | foreign | lookupFailed | absent => cases split
  | elsewhere inside apart =>
    cases split
    rw [same] at apart
    cases apart
  | removed | left => simp [Removes]

theorem of_deleted (cleanup : Cleanup domain userId account turns .deleted) :
    ⟨.service (.delete userId), .ok true⟩ ∈ turns := by
  cases cleanup with
  | removed inside same => exact List.mem_cons_of_mem _ List.mem_cons_self

theorem of_noRemoteMailbox (cleanup : Cleanup domain userId account turns .noRemoteMailbox) :
    ⟨.service (.get userId), .ok none⟩ ∈ turns := by
  cases cleanup with
  | absent inside => exact List.mem_cons_self

theorem of_addressMismatch (cleanup : Cleanup domain userId account turns .addressMismatch) :
    ∃ mailbox, Shown userId mailbox turns ∧ Address.same mailbox.email account.email = false := by
  cases cleanup with
  | elsewhere inside apart => exact ⟨_, List.mem_cons_self, apart⟩

theorem of_refuses (cleanup : Cleanup domain userId account turns outcome)
    (refuses : ∃ turn ∈ turns, turn.refuses = true) : outcome = .failed := by
  cases cleanup with
  | foreign | absent | elsewhere | removed => simp [Turn.refuses] at refuses
  | lookupFailed | left => rfl

end Course.Cleanup

/-! ## The whole request -/

theorem shown_of_append {mailbox : Mailbox} {statement : Statement} {answer : statement.Answer}
    (shown : [⟨.service (.get userId), .ok (some mailbox)⟩]
      <+: first ++ [⟨.table statement, answer⟩]) :
    [⟨.service (.get userId), .ok (some mailbox)⟩] <+: first := by
  obtain ⟨rest, split⟩ := shown
  cases first with
  | nil => cases split
  | cons turn turns =>
    cases split
    exact ⟨turns, rfl⟩

/-- Without a record no mailbox is deleted, and none was shown. -/
theorem removes_iff_of_unfound {answer : Except Error (Option Account)} :
    Removes userId [⟨.table (.findById userId id), answer⟩] ↔
      ∃ found mailbox, Meets domain userId id found mailbox
        [⟨.table (.findById userId id), answer⟩] := by
  constructor
  · intro removes
    simp [Removes] at removes
  · rintro ⟨found, mailbox, -, -, start⟩
    have short := start.length_le
    simp at short

/-- Without a record, the request ends. -/
theorem guarded_of_unfound {answer : Except Error (Option Account)} {fault : Fault}
    (unfound : ∀ account, answer ≠ .ok (some account)) :
    Guarded domain userId id t [⟨.table (.findById userId id), answer⟩] (.error fault) t where
  remote := removes_iff_of_unfound
  service := by simp
  row := by
    rintro found ⟨⟩
    exact absurd rfl (unfound found)
  unfound := fun _ => ⟨⟨answer, rfl⟩, rfl⟩
  deleted := nofun
  absent := nofun
  elsewhere := nofun
  failed := fun _ _ => nofun

/-- The mailbox of a record that was found is deleted exactly if the record lies in the domain and a
mailbox at its address was shown. -/
theorem Course.Cleanup.removes_iff {answer : Except Error Unit}
    (cleanup : Cleanup domain userId account first outcome) :
    Removes userId (⟨.table (.findById userId id), .ok (some account)⟩
        :: (first ++ [⟨.table (.delete userId id), answer⟩])) ↔
      ∃ found mailbox, Meets domain userId id found mailbox
        (⟨.table (.findById userId id), .ok (some account)⟩
          :: (first ++ [⟨.table (.delete userId id), answer⟩])) := by
  constructor
  · intro removes
    -- The first call and the last are for the table, so the removal is in between.
    have remote : Removes userId first := by simpa [Removes] using removes
    obtain ⟨inside, mailbox, same, shown⟩ := cleanup.of_removes remote
    exact ⟨account, mailbox, inside, same,
      List.cons_prefix_cons.2 ⟨rfl, shown.trans (List.prefix_append _ _)⟩⟩
  · rintro ⟨found, mailbox, inside, same, start⟩
    obtain ⟨looked, shown⟩ := List.cons_prefix_cons.1 start
    cases looked
    obtain ⟨turn, member, removal⟩ := cleanup.removes same (shown_of_append shown)
    exact ⟨turn, by simp [member], removal⟩

/-- A record was found, and its row was to be deleted, with that answer. -/
theorem Course.Cleanup.guarded {answer : Except Error Unit}
    {result : Except Fault DeletionOutcome}
    (cleanup : Cleanup domain userId account first outcome)
    (reports : ∀ reported, result = .ok reported → reported = outcome)
    (ended : answer = .ok () → (∃ outcome, result = .ok outcome) ∧
      ∃ row, row.id = id ∧ row.entry.userId = userId ∧ t.Loses row t') :
    Guarded domain userId id t
      (⟨.table (.findById userId id), .ok (some account)⟩
        :: (first ++ [⟨.table (.delete userId id), answer⟩])) result t' where
  remote := cleanup.removes_iff
  service := by
    refine List.forall_mem_cons.2 ⟨nofun, List.forall_mem_append.2 ⟨?_, ?_⟩⟩
    · intro turn member c asked
      simpa [asked] using cleanup.service turn member
    · simp
  row := by
    intro found _
    refine ⟨_ :: first, answer, rfl, ?_, ended⟩
    refine List.forall_mem_cons.2 ⟨?_, ?_⟩
    · rintro statement ⟨⟩
      rfl
    · intro turn member statement asked
      simpa [asked] using cleanup.service turn member
  unfound := fun none => absurd ⟨account, rfl⟩ none
  deleted := by
    intro reported
    cases reports _ reported
    simp [cleanup.of_deleted]
  absent := by
    intro reported
    cases reports _ reported
    simp [cleanup.of_noRemoteMailbox]
  elsewhere := by
    intro reported
    cases reports _ reported
    obtain ⟨mailbox, shown, apart⟩ := cleanup.of_addressMismatch
    refine ⟨account, mailbox, rfl, ?_, apart⟩
    exact List.mem_cons_of_mem _ (List.mem_append_left _ shown)
  failed := by
    intro refuses reported succeeded
    rw [reports reported succeeded]
    refine cleanup.of_refuses ?_
    simpa [Turn.refuses] using refuses

/-- However the request goes, it is guarded. -/
theorem Course.Deletion.guarded {result : Except Fault DeletionOutcome}
    (deletion : Deletion domain userId id t turns result t') (keyed : t.Keyed) :
    Guarded domain userId id t turns result t' := by
  cases deletion with
  | unread e => exact guarded_of_unfound fun _ same => by cases same
  | unknown lookup => exact guarded_of_unfound fun _ same => by cases same
  | refused lookup cleanup e =>
    exact cleanup.guarded nofun nofun
  | deleted lookup cleanup =>
    obtain ⟨row, member, rfl, rfl, rfl⟩ := Table.of_findById_eq_some lookup
    refine cleanup.guarded ?_ ?_
    · rintro _ ⟨⟩
      rfl
    · intro _
      exact ⟨⟨_, rfl⟩, row, rfl, rfl, keyed.loses member⟩

/-! ## Among collaborators -/

variable {σ : Type}

/-- Whatever the collaborators answer, a request to delete an account touches the right mailbox
only, and the right row. -/
theorem deleteAccount_guarded (k : Collaborators σ) (domain userId : String) (id : AccountId)
    {table : Table} (keyed : table.Keyed) (others : σ) :
    (deleteAccount domain userId id).Ends k.answer ⟨table, others, []⟩ fun result s' =>
      Guarded domain userId id table s'.transcript result s'.table := by
  refine ends_of_takes_start ?_
  intro result s' takes
  exact (deletion_of_takes takes).guarded keyed

/-- A record in the domain, in a row that was written by hand. -/
theorem deleteAccount_guarded_jane :
    Table.handWritten.Keyed ∧
      (deleteAccount "example.com" "u1" ⟨3⟩).Ends (calm "example.com").answer
        ⟨.handWritten, fun _ => some ⟨"jane@example.com", "first"⟩, []⟩ fun result s' =>
          Guarded "example.com" "u1" ⟨3⟩ .handWritten s'.transcript result s'.table :=
  ⟨Table.handWritten_keyed, deleteAccount_guarded _ _ _ _ Table.handWritten_keyed _⟩

end MailboxKeeper.Engine
