import MailboxKeeper.Proofs.Engine.Undisturbed

/-!
# Table and service in step

As long as nothing fails, the table and the service are in step after every request: a user has at
most one row, it stands for a mailbox that the service holds at exactly that address, and both its
password columns were encrypted from the password that the mailbox has now. No request ever finds
them in disagreement.
-/

namespace MailboxKeeper.Engine

open AccountRequest Store

variable {σ : Type} {domain : String} {held : σ → Holdings} {k : Collaborators σ}
variable {s s' : Scene σ} {h : Holding} {userId : String}

/-- The table mirrors the service, its passwords included. -/
structure InStep (domain : String) (held : σ → Holdings) (s : Scene σ) : Prop where
  mirrors : s.Mirrors domain held
  encrypted : ∀ r ∈ s.table.rows, ∀ h, held s.others r.entry.userId = some h →
    s.Encrypted h.password r.entry.inbound.password ∧
      s.Encrypted h.password r.entry.outbound.password

namespace InStep

theorem start {others : σ} (nothing : held others = fun _ => none) :
    InStep domain held ⟨.empty, others, []⟩ :=
  ⟨.start nothing, nofun⟩

/-- The rows that are left are in step if nothing has changed for their users. -/
theorem keep (inStep : InStep domain held s) (mirrors : s'.Mirrors domain held)
    (rows : ∀ r ∈ s'.table.rows, r ∈ s.table.rows)
    (same : ∀ r ∈ s'.table.rows, held s'.others r.entry.userId = held s.others r.entry.userId)
    (more : s.transcript ⊆ s'.transcript) : InStep domain held s' := by
  refine ⟨mirrors, ?_⟩
  intro r member h taken
  rw [same r member] at taken
  obtain ⟨inbound, outbound⟩ := inStep.encrypted r (rows r member) h taken
  exact ⟨inbound.mono more, outbound.mono more⟩

theorem quiet (inStep : InStep domain held s) (quiet : Quiet held s s') :
    InStep domain held s' := by
  refine inStep.keep ?_ ?_ ?_ quiet.transcript
  · unfold Scene.Mirrors
    rw [quiet.table, quiet.holdings]
    exact inStep.mirrors
  · rw [quiet.table]
    exact fun _ => id
  · rw [quiet.holdings]
    exact fun _ _ => rfl

/-- A record that is written from the current password is in step, and the others still are. -/
theorem record {a account : Account} (inStep : InStep domain held s)
    (mirrors : s'.Mirrors domain held) (written : s.table.write a = .ok (account, s'.table))
    (issued : held s'.others = Function.update (held s.others) a.userId (some h))
    (more : s.transcript ⊆ s'.transcript)
    (inbound : s'.Encrypted h.password a.inbound.encryptedPassword)
    (outbound : s'.Encrypted h.password a.outbound.encryptedPassword) :
    InStep domain held s' := by
  obtain ⟨-, id, rfl, rows⟩ := inStep.mirrors.sound.of_write_eq_ok written
  refine ⟨mirrors, ?_⟩
  intro r member h' taken
  have new : (⟨id, .ofAccount { a with id := some id }⟩ : Row) ∈ s'.table.rows :=
    (rows _).2 (.inl rfl)
  by_cases owner : r.entry.userId = a.userId
  · obtain rfl := mirrors.eq_of_userId new member owner
    rw [owner, issued, Function.update_self] at taken
    cases taken
    exact ⟨inbound, outbound⟩
  · rw [issued, Function.update_of_ne owner] at taken
    rcases (rows r).1 member with rfl | ⟨old, -⟩
    · exact absurd rfl owner
    · obtain ⟨first, second⟩ := inStep.encrypted r old h' taken
      exact ⟨first.mono more, second.mono more⟩

/-- With a row goes at most the mailbox that it stands for. -/
theorem delete {r : Row} (inStep : InStep domain held s) (member : r ∈ s.table.rows)
    (table : s'.table = s.table.delete r.entry.userId r.id) (more : s.transcript ⊆ s'.transcript)
    (holdings : held s'.others = held s.others ∨
      held s'.others = Function.update (held s.others) r.entry.userId none) :
    InStep domain held s' := by
  have left : ∀ t ∈ s'.table.rows, t ∈ s.table.rows ∧ t.entry.userId ≠ r.entry.userId := by
    intro t there
    rw [table, Table.mem_delete] at there
    refine ⟨there.1, fun owner => there.2 ?_⟩
    obtain rfl := inStep.mirrors.eq_of_userId member there.1 owner
    exact ⟨rfl, rfl⟩
  have same : ∀ t ∈ s'.table.rows,
      held s'.others t.entry.userId = held s.others t.entry.userId := by
    intro t there
    rcases holdings with kept | gone
    · rw [kept]
    · rw [gone, Function.update_of_ne (left t there).2]
  refine inStep.keep ⟨?_, ?_, ?_⟩ (fun t there => (left t there).1) same more
  · rw [table]
    exact inStep.mirrors.sound.delete
  · intro u h taken
    rcases holdings with kept | gone
    · rw [kept] at taken
      exact inStep.mirrors.addressed u h taken
    · rw [gone] at taken
      by_cases user : u = r.entry.userId
      · rw [user, Function.update_self] at taken
        cases taken
      · rw [Function.update_of_ne user] at taken
        exact inStep.mirrors.addressed u h taken
  · intro t there
    rw [same t there]
    exact inStep.mirrors.backed t (left t there).1

end InStep

/-! ## Requests -/

namespace Collaborators.Reliable

variable (reliable : k.Reliable domain held)

include reliable

theorem ends_createOrUpdate_inStep {localPart displayName : String}
    (inStep : InStep domain held s) :
    (createOrUpdate domain userId localPart displayName).Ends k.answer s fun result s' =>
      InStep domain held s' ∧ ∀ fault, result = .error fault → fault.kind ≠ .inconsistency := by
  cases valid : violations userId localPart displayName with
  | cons v vs =>
    unfold createOrUpdate
    rw [valid]
    refine ⟨inStep, ?_⟩
    intro fault same
    cases same
    exact nofun
  | nil =>
    refine ((reliable.ends_createOrUpdate_settled inStep.mirrors valid).and
      (reliable.unreliable.ends_createOrUpdate_mirrors inStep.mirrors)).mono ?_
    intro result s' ends
    obtain ⟨settled, mirrors⟩ := ends
    cases settled with
    | recorded _ _ owner _ written issued more inbound outbound =>
      subst owner
      exact ⟨inStep.record mirrors written issued more inbound outbound, fun _ => nofun⟩
    | elsewhere taken apart quiet =>
      refine ⟨inStep.quiet quiet, ?_⟩
      intro fault same
      cases same
      exact nofun
    | exhausted full recordless issued =>
      refine ⟨inStep.keep mirrors ?_ ?_ issued.transcript, ?_⟩
      · rw [issued.table]
        exact fun _ => id
      · intro r member
        rw [issued.table] at member
        rw [issued.holdings, Function.update_of_ne (recordless r member)]
      · intro fault same
        cases same
        exact nofun

theorem ends_resetAccountPassword_inStep {id : AccountId} (inStep : InStep domain held s) :
    (resetAccountPassword domain userId id).Ends k.answer s fun result s' =>
      InStep domain held s' ∧ ∀ fault, result = .error fault → fault.kind ≠ .inconsistency := by
  refine ((reliable.ends_resetAccountPassword inStep.mirrors).and
    (reliable.unreliable.ends_resetAccountPassword_mirrors inStep.mirrors)).mono ?_
  intro result s' ends
  obtain ⟨⟨fault, rfl, kind, quiet⟩ | ⟨r, member, h, password, a, -, persisted⟩, mirrors⟩ := ends
  · refine ⟨inStep.quiet quiet, ?_⟩
    intro _ same
    cases same
    exact kind
  · obtain ⟨rfl, written⟩ := persisted.written_of_row inStep.mirrors.sound member
    have issued := persisted.holdings
    rw [← persisted.userId] at issued
    exact ⟨inStep.record mirrors written issued persisted.transcript persisted.inbound
      persisted.outbound, fun _ => nofun⟩

theorem ends_resolveChecked_inStep {localPart : String} (inStep : InStep domain held s) :
    (resolveChecked domain userId localPart).Ends k.answer s fun result s' =>
      InStep domain held s' ∧ ∀ fault, result = .error fault → fault.kind ≠ .inconsistency :=
  reliable.ends_resolveChecked.mono fun _ _ ⟨quiet, kind⟩ => ⟨inStep.quiet quiet, kind⟩

theorem ends_deleteAccount_inStep {id : AccountId} (inStep : InStep domain held s) :
    (deleteAccount domain userId id).Ends k.answer s fun result s' =>
      InStep domain held s' ∧ ∀ fault, result = .error fault → fault.kind ≠ .inconsistency := by
  refine (reliable.ends_deleteAccount inStep.mirrors).mono ?_
  intro result s' ends
  rcases ends with
    ⟨fault, rfl, kind, quiet⟩ | ⟨⟨outcome, rfl⟩, r, member, table, more, holdings⟩
  · refine ⟨inStep.quiet quiet, ?_⟩
    intro _ same
    cases same
    exact kind
  · exact ⟨inStep.delete member table more holdings, fun _ => nofun⟩

/-- A request leaves table and service in step, and does not find them in disagreement. -/
theorem inStep_perform (q : Request) (inStep : InStep domain held s) :
    InStep domain held (k.perform (q.operation domain) s).2 ∧
      ∀ fault, (k.perform (q.operation domain) s).1 = .error fault →
        fault.kind ≠ .inconsistency := by
  cases q with
  | create userId localPart displayName => exact reliable.ends_createOrUpdate_inStep inStep
  | resolve userId localPart => exact reliable.ends_resolveChecked_inStep inStep
  | resetPassword userId id => exact reliable.ends_resetAccountPassword_inStep inStep
  | delete userId id => exact reliable.ends_deleteAccount_inStep inStep

end Collaborators.Reliable

/-- In step after every run: what a user's row says is so, and no request will find otherwise. -/
theorem rows_in_step (reliable : k.Reliable domain held) {others : σ}
    (nothing : held others = fun _ => none) {requests : List Request}
    (reached : k.after domain requests ⟨.empty, others, []⟩ = s) :
    (∀ userId, s.table.count userId ≤ 1) ∧
      (∀ r ∈ s.table.rows, ∃ h, held s.others r.entry.userId = some h ∧
        h.address = r.entry.email ∧ s.Encrypted h.password r.entry.inbound.password ∧
          s.Encrypted h.password r.entry.outbound.password) ∧
      ∀ (q : Request) fault, (k.perform (q.operation domain) s).1 = .error fault →
        fault.kind ≠ .inconsistency := by
  have inStep : InStep domain held s := by
    rw [← reached]
    exact Collaborators.after_induction (motive := InStep domain held) (.start nothing)
      fun q _ _ inStep => (reliable.inStep_perform q inStep).1
  refine ⟨inStep.mirrors.count_le_one, ?_, fun q => (reliable.inStep_perform q inStep).2⟩
  intro r member
  obtain ⟨h, taken, email⟩ := inStep.mirrors.backed r member
  exact ⟨h, taken, email.symm, inStep.encrypted r member h taken⟩

/-- A password that was issued by a reset is the one that the row was encrypted from. -/
theorem rows_in_step_reset :
    ∃ s, (calm "example.com").after "example.com"
        [.create "u1" "jane" "Jane", .resetPassword "u1" ⟨1⟩] ⟨.empty, fun _ => none, []⟩ = s ∧
      s.others "u1" = some ⟨"jane@example.com", "first+"⟩ ∧ s.table.count "u1" = 1 ∧
      ∀ r ∈ s.table.rows, ∃ h, id s.others r.entry.userId = some h ∧
        h.address = r.entry.email ∧ s.Encrypted h.password r.entry.inbound.password ∧
          s.Encrypted h.password r.entry.outbound.password := by
  refine ⟨_, rfl, by decide +kernel, by decide +kernel, ?_⟩
  exact (rows_in_step (calm_reliable "example.com") rfl rfl).2.1

end MailboxKeeper.Engine
