import MailboxKeeper.Proofs.Engine.CallDiscipline
import MailboxKeeper.Proofs.Engine.ConformingService

/-!
# The reach of a password reset

A new password is issued by user, and a user may have records at several addresses. The reset asks
whether the record lies in the provisioning domain, but never for the address of the remote mailbox.
So the domain alone decides whether a password is issued, and the password of one mailbox can come
into the record of another.
-/

namespace MailboxKeeper.Engine

open Store

section

variable {t t' : Table} {turns : List Turn} {domain userId : String} {id : AccountId}
variable {result : Except Fault Account}

/-- Does the call go to the service? -/
def Call.isService : Call → Bool
  | .service _ => true
  | _ => false

namespace Course.PasswordReset

theorem service (reset : PasswordReset domain userId id t turns result t') :
    ∀ turn ∈ turns, ∀ c, turn.call = .service c → c = .resetPassword userId := by
  cases reset with
  | unread | unknown | foreign | refused => simp
  | issued lookup inside password recording =>
    refine List.forall_mem_cons.2 ⟨nofun, List.forall_mem_cons.2 ⟨?_, ?_⟩⟩
    · rintro c ⟨⟩
      rfl
    · intro turn member c asked
      have local_ := recording.closing.eq_false Call.isService (fun _ => rfl) (fun _ => rfl) turn
        member
      rw [asked] at local_
      cases local_

/-- The domain of the record that was found decides. -/
theorem untouched_iff (reset : PasswordReset domain userId id t turns result t') :
    (∀ turn ∈ turns, turn.call ≠ .service (.resetPassword userId)) ∧ t' = t ↔
      ∀ account, Finds userId id account turns → Address.inDomain account.email domain = false := by
  cases reset with
  | unread | unknown =>
    refine iff_of_true (by simp) ?_
    rintro account ⟨⟩
  | foreign lookup outside =>
    refine iff_of_true (by simp) ?_
    rintro account ⟨⟩
    exact outside
  | refused lookup inside failure =>
    refine iff_of_false (by simp) ?_
    intro outside
    rw [outside _ rfl] at inside
    cases inside
  | issued lookup inside password recording =>
    refine iff_of_false (by simp) ?_
    intro outside
    rw [outside _ rfl] at inside
    cases inside

end Course.PasswordReset

end

variable {σ : Type}

/-- A request for a new password leaves the service and the table alone exactly if the record that
was found, if any, lies outside the provisioning domain. It asks the service for nothing but the
password. -/
theorem resetAccountPassword_untouched_iff (k : Collaborators σ) (domain userId : String)
    (id : AccountId) (table : Table) (others : σ) :
    (resetAccountPassword domain userId id).Ends k.answer ⟨table, others, []⟩ fun _ s' =>
      ((∀ turn ∈ s'.transcript, turn.call ≠ .service (.resetPassword userId)) ∧ s'.table = table ↔
        ∀ account, Finds userId id account s'.transcript →
          Address.inDomain account.email domain = false) ∧
      ∀ turn ∈ s'.transcript, ∀ c, turn.call = .service c → c = .resetPassword userId := by
  refine ends_of_takes_start ?_
  intro result s' takes
  exact ⟨(passwordReset_of_takes takes).untouched_iff, (passwordReset_of_takes takes).service⟩

/-- A record of the user at one address, and how the service is to hold the user's mailbox at
another. -/
def johnsTable : Table :=
  ⟨[⟨⟨1⟩, ⟨"u1", "John", "john@example.com", "password",
    ⟨"mail.example.com", 993, "tls", "john", "enc:first"⟩,
    ⟨"mail.example.com", 465, "tls", "john", "enc:first"⟩⟩⟩], 1⟩

def janesHolding : Holdings :=
  Function.update (fun _ => none) "u1" (some ⟨"jane@example.com", "first"⟩)

/-- The password of a mailbox at another address is changed, and stored in the record. -/
theorem resetAccountPassword_elsewhere :
    (calm "example.com").Reliable "example.com" id ∧
      Address.same "jane@example.com" "john@example.com" = false ∧
      (resetAccountPassword "example.com" "u1" ⟨1⟩).Ends (calm "example.com").answer
        ⟨johnsTable, janesHolding, []⟩ fun result s' =>
          (∃ account, result = .ok account ∧ account.email = "john@example.com") ∧
            s'.others "u1" = some ⟨"jane@example.com", "first+"⟩ ∧ s'.table ≠ johnsTable := by
  refine ⟨calm_reliable _, by decide +kernel, ⟨_, rfl, rfl⟩, rfl, by decide +kernel⟩

end MailboxKeeper.Engine
