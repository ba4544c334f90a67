import MailboxKeeper.Proofs.Engine.CallDiscipline
import MailboxKeeper.Proofs.Engine.ConformingService
import MailboxKeeper.Proofs.Engine.Faults

/-!
# What becomes of a refusal

When the service refuses to make a mailbox and the user turns out to have none that can be taken
over, the refusal is what the requester is told of, or is told as a cause of it. Once there is a
mailbox to take over, the refusal is forgotten: if its password cannot be issued or encrypted, or
the account cannot be written, then only that is told.
-/

namespace MailboxKeeper

/-- The fault is this one, or this one led to it. -/
def Fault.IsWithin (cause f : Fault) : Prop := f = cause ∨ cause.chain <:+ f.causes

namespace Engine

open AccountRequest Store

variable {t t' : Table} {turns : List Turn} {domain userId localPart displayName : String}
variable {fault cause : Fault} {result : Except Fault Account}

/-- The service has shown a mailbox of the user at the requested address. -/
def ShowsWanted (domain userId localPart : String) (turns : List Turn) : Prop :=
  ∃ mailbox : Mailbox, (⟨.service (.get userId), .ok (some mailbox)⟩ : Turn) ∈ turns ∧
    Address.same mailbox.email (Address.ofParts localPart domain) = true

theorem isWithin_withCause (f cause : Fault) : cause.IsWithin (f.withCause cause) :=
  .inr (List.suffix_refl _)

theorem isWithin_iff_of_causes (single : fault.causes = []) :
    cause.IsWithin fault ↔ fault = cause := by
  rw [Fault.IsWithin, single, List.suffix_nil]
  exact or_iff_left (List.cons_ne_nil _ _)

namespace Course

theorem Retreat.isWithin {refusal : Provisioning.Failure}
    (retreat : Retreat domain userId localPart none turns fault)
    (refused : (⟨.service (.create userId localPart), .error refusal⟩ : Turn) ∈ turns) :
    refusal.toFault.IsWithin fault := by
  cases retreat with
  | refusedLookupFailed | refusedElsewhere =>
    cases eq_of_refused (by simp [Call.isCreation]) refused
    exact isWithin_withCause _ _
  | refusedMissing =>
    cases eq_of_refused (by simp [Call.isCreation]) refused
    exact .inl rfl

theorem Retreat.not_showsWanted {found : Option Account}
    (retreat : Retreat domain userId localPart found turns fault) :
    ¬ ShowsWanted domain userId localPart turns := by
  rintro ⟨mailbox, shown, same⟩
  cases retreat with
  | lookupFailed | missing => cases List.mem_singleton.1 shown
  | elsewhere _ apart =>
    cases List.mem_singleton.1 shown
    rw [apart] at same
    cases same
  | refusedLookupFailed | refusedMissing =>
    rcases List.mem_cons.1 shown with heard | shown
    · cases heard
    · cases List.mem_singleton.1 shown
  | refusedElsewhere _ apart =>
    rcases List.mem_cons.1 shown with heard | shown
    · cases heard
    · cases List.mem_singleton.1 shown
      rw [apart] at same
      cases same

end Course

/-- A fault that follows a refusal tells of it unless there was a mailbox to take over. In that case
it is the fault of the last call, and of nothing else. -/
theorem Course.Creation.refusal {refusal : Provisioning.Failure}
    (creation : Creation domain userId localPart displayName t turns (.error fault) t')
    (refused : (⟨.service (.create userId localPart), .error refusal⟩ : Turn) ∈ turns) :
    (¬ ShowsWanted domain userId localPart turns ∧ refusal.toFault.IsWithin fault) ∨
      ShowsWanted domain userId localPart turns ∧
        ∃ turn, turns.getLast? = some turn ∧ turn.ReportedAs fault := by
  -- A mailbox is asked for only where no record was found.
  obtain ⟨email, looked⟩ := creation.calls.created _ refused rfl
  cases creation with
  | unread e => cases looked
  | @retreated found _ _ lookup retreat =>
    obtain rfl : found = none := by
      cases looked
      rfl
    refine .inl ⟨?_, retreat.isWithin (mem_of_mem_table_cons refused)⟩
    rintro ⟨mailbox, shown, same⟩
    exact retreat.not_showsWanted ⟨mailbox, mem_of_mem_table_cons shown, same⟩
  | @approached found first second mailbox _ _ lookup approach persistence =>
    obtain rfl : found = none := by
      cases looked
      rfl
    cases approach with
    | made =>
      cases eq_of_refused persistence.ending.isCreation_eq_false (mem_of_mem_table_cons refused)
    | recovered _ same =>
      obtain ⟨turn, last, failed⟩ := persistence.last_fault
      refine .inr ⟨⟨mailbox, List.mem_of_getElem? (i := 2) rfl, same⟩, turn, ?_, failed⟩
      rw [← List.cons_append, List.getLast?_append, last]
      rfl

variable {σ : Type}

/-- The refusal of a mailbox is told of in the fault that a request ends with exactly if there was
no mailbox to take over, or the fault happens to be the same. When there was one, the fault is that
of the last call, and no other is told of. -/
theorem createOrUpdate_keeps_refusal_iff (k : Collaborators σ) (t : Table) (x : σ)
    (domain userId localPart displayName : String) :
    (createOrUpdate domain userId localPart displayName).Ends k.answer ⟨t, x, []⟩ fun result s =>
      ∀ (refusal : Provisioning.Failure) (fault : Fault),
        ⟨.service (.create userId localPart), .error refusal⟩ ∈ s.transcript →
        result = .error fault →
          (refusal.toFault.IsWithin fault ↔
            ¬ ShowsWanted domain userId localPart s.transcript ∨ fault = refusal.toFault) ∧
          (ShowsWanted domain userId localPart s.transcript → fault.causes = [] ∧
            ∃ turn, s.transcript.getLast? = some turn ∧ turn.ReportedAs fault) := by
  refine ends_of_takes_start ?_
  intro result s takes refusal fault refused ended
  subst ended
  by_cases valid : violations userId localPart displayName = []
  · rcases (creation_of_takes valid takes).refusal refused with
      ⟨unshown, within⟩ | ⟨shown, turn, last, failed⟩
    · exact ⟨⟨fun _ => .inl unshown, fun _ => within⟩, fun shown => absurd shown unshown⟩
    · have single := failed.causes
      refine ⟨?_, fun _ => ⟨single, turn, last, failed⟩⟩
      rw [isWithin_iff_of_causes single]
      exact (or_iff_right (not_not_intro shown)).symm
  · obtain ⟨silent, -, -⟩ := of_takes_of_violations valid takes
    rw [silent] at refused
    cases refused

/-- A service that holds a mailbox for every user and issues no password. -/
def unissuing : Collaborators Unit where
  tableFailure? _ others := (none, others)
  service
    | .create .., others => (.error ⟨some 409, "mailbox exists"⟩, others)
    | .get _, others => (.ok (some (mailboxAt "jane@example.com" none)), others)
    | .delete _, others => (.ok true, others)
    | .resetPassword _, others => (.error ⟨some 500, "reset failed"⟩, others)
  encrypt plaintext others := (.ok plaintext, others)

/-- That there was a refusal at first is not told when no password is issued for the mailbox that
is taken over. -/
theorem createOrUpdate_forgets_refusal :
    ∃ fault s, unissuing.perform (createOrUpdate "example.com" "u1" "jane" "Jane")
        ⟨.empty, (), []⟩ = (.error fault, s) ∧
      ⟨.service (.create "u1" "jane"), .error ⟨some 409, "mailbox exists"⟩⟩ ∈ s.transcript ∧
      fault.message = "reset failed" ∧
      ¬ (Provisioning.Failure.toFault ⟨some 409, "mailbox exists"⟩).IsWithin fault := by
  refine ⟨Provisioning.Failure.toFault ⟨some 500, "reset failed"⟩, _, rfl,
    List.mem_of_getElem? (i := 1) rfl, by decide +kernel, ?_⟩
  rw [isWithin_iff_of_causes rfl]
  exact fun same => absurd (congrArg (fun fault => fault.status) same) (by decide)

end Engine

end MailboxKeeper
