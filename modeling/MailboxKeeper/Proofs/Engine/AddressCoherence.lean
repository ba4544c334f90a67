import MailboxKeeper.Proofs.Address.Domain
import MailboxKeeper.Proofs.Engine.DeletionGuard

/-!
# A deletion stays in the domain

The guard of deletion looks at the domain of the local record alone, and compares the remote mailbox
with the record. That is enough: `Address.same` is an equivalence, and neither the domain of an
address nor what lies in a domain tells addresses apart that are the same. So the mailbox that a
deletion removes lies in the provisioning domain, as the record does.
-/

namespace MailboxKeeper.Engine

open Store

variable {t t' : Table} {turns : List Turn} {domain userId : String} {id : AccountId}
variable {account : Account} {mailbox : Mailbox} {result : Except Fault DeletionOutcome}

/-- Whatever becomes of the row, the mailbox is deleted exactly if the guard lets it pass. -/
theorem Course.Deletion.removes_iff (deletion : Deletion domain userId id t turns result t') :
    Removes userId turns ↔ ∃ account mailbox, Meets domain userId id account mailbox turns := by
  cases deletion with
  | unread e => exact removes_iff_of_unfound
  | unknown lookup => exact removes_iff_of_unfound
  | refused lookup cleanup e => exact cleanup.removes_iff
  | deleted lookup cleanup => exact cleanup.removes_iff

theorem Meets.inDomain (meets : Meets domain userId id account mailbox turns) :
    Address.inDomain mailbox.email domain = true := by
  obtain ⟨inside, same, -⟩ := meets
  rw [Address.inDomain_of_same same]
  exact inside

/-- Addresses are compared coherently: to be the same is an equivalence, and addresses that are the
same lie in the same domains and have the same domain up to the case of letters, if they have one.
So whenever a deletion finds the record in the provisioning domain and the remote mailbox at its
address, and only then, a mailbox is deleted, and it lies in that domain too. -/
theorem deleteAccount_coherent :
    (Equivalence fun a b => Address.same a b = true) ∧
      (∀ a b, Address.same a b = true →
        (∀ domain, Address.inDomain a domain = Address.inDomain b domain) ∧
          Option.Rel (fun d e => Text.equalFold d e = true) (Address.domain? a)
            (Address.domain? b)) ∧
      ∀ {σ : Type} (k : Collaborators σ) (domain userId : String) (id : AccountId) (table : Table)
        (others : σ), (deleteAccount domain userId id).Ends k.answer ⟨table, others, []⟩
          fun _ s' =>
            (∀ account mailbox, Meets domain userId id account mailbox s'.transcript →
              Removes userId s'.transcript ∧ Address.inDomain mailbox.email domain = true) ∧
            (Removes userId s'.transcript →
              ∃ account mailbox, Meets domain userId id account mailbox s'.transcript) := by
  refine ⟨Address.same_equivalence, ?_, ?_⟩
  · intro a b same
    exact ⟨fun _ => Address.inDomain_of_same same, Address.domain?_rel_of_same same⟩
  · intro σ k domain userId id table others
    refine ends_of_takes_start ?_
    intro result s' takes
    have removes := (deletion_of_takes takes).removes_iff
    refine ⟨?_, removes.1⟩
    intro account mailbox meets
    exact ⟨removes.2 ⟨account, mailbox, meets⟩, meets.inDomain⟩

/-- The service shows Jane's mailbox in other letters and with a blank in front. -/
theorem deleteAccount_coherent_jane :
    Address.same " Jane@EXAMPLE.com" "jane@example.com" = true ∧
      Address.inDomain " Jane@EXAMPLE.com" "example.com"
        = Address.inDomain "jane@example.com" "example.com" ∧
      (deleteAccount "example.com" "u1" ⟨3⟩).Ends (calm "example.com").answer
        ⟨.handWritten, fun _ => some ⟨" Jane@EXAMPLE.com", "first"⟩, []⟩ fun _ s' =>
          Removes "u1" s'.transcript ∧
            ∃ account mailbox, Meets "example.com" "u1" ⟨3⟩ account mailbox s'.transcript := by
  have same : Address.same " Jane@EXAMPLE.com" "jane@example.com" = true := by decide +kernel
  obtain ⟨-, congruent, deletion⟩ := deleteAccount_coherent
  have removes : (deleteAccount "example.com" "u1" ⟨3⟩).Ends (calm "example.com").answer
      ⟨.handWritten, fun _ => some ⟨" Jane@EXAMPLE.com", "first"⟩, []⟩
      fun _ s' => Removes "u1" s'.transcript :=
    ⟨_, List.mem_cons_of_mem _ (List.mem_cons_of_mem _ List.mem_cons_self), rfl⟩
  refine ⟨same, (congruent _ _ same).1 _, ?_⟩
  apply ((deletion _ _ _ _ _ _).and removes).mono
  rintro _ s' ⟨⟨-, guarded⟩, removed⟩
  exact ⟨removed, guarded removed⟩

end MailboxKeeper.Engine
