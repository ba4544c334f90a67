import MailboxKeeper.Proofs.Engine.Atomicity
import MailboxKeeper.Proofs.Store.CanonicalRow

/-!
# The row that a password reset writes

Rows may be written by others than the engine, with any texts and numbers. A reset writes its row as
it was read, with new passwords (`Renews`). So what else changes in such a row are the columns whose
content no account has, and in all other rows nothing.
-/

namespace MailboxKeeper.Engine

open Store

variable {t t' : Table} {turns : List Turn} {domain userId : String} {id : AccountId}
variable {account : Account} {σ : Type}

/-- The row is another one than before: its passwords are new, and the rest is as it was read. -/
structure Renews (t : Table) (row : Row) (t' : Table) : Prop where
  exchange : ∃ inbound outbound,
    t.Exchanges row ⟨row.id, row.entry.canonical.withPasswords inbound outbound⟩ t'
  /-- There is no other change exactly if the row could have come from an account. -/
  unchanged_iff : t'.withoutPasswords = t.withoutPasswords ↔ row.entry.Legible

theorem renews_of_exchanges {row : Row} {inbound outbound : String}
    (exchange : t.Exchanges row ⟨row.id, row.entry.canonical.withPasswords inbound outbound⟩ t') :
    Renews t row t' where
  exchange := ⟨inbound, outbound, exchange⟩
  unchanged_iff := by
    obtain ⟨before, after, same, rfl⟩ := exchange
    simp only [Table.withoutPasswords, same, List.map_append, List.map_cons, Table.mk.injEq,
      and_true, List.append_cancel_left_eq, List.cons.injEq, Row.mk.injEq, true_and]
    rw [Entry.blanked_eq_iff, Entry.canonical_eq_self_iff]

theorem Course.PasswordReset.renews (keyed : t.Keyed)
    (reset : Course.PasswordReset domain userId id t turns (.ok account) t') :
    ∃ row ∈ t.rows, row.id = id ∧ row.entry.userId = userId ∧ Renews t row t' := by
  cases reset with
  | issued lookup inside password recording =>
    obtain ⟨row, member, same, owner, rfl⟩ := Table.of_findById_eq_some lookup
    rcases recording.table with ⟨fault, failed, -⟩ | ⟨inbound, outbound, written, -, wrote⟩
    · cases failed
    · have exchange : t.Exchanges row ⟨row.id, row.entry.canonical.withPasswords inbound outbound⟩
          t' := by
        rw [← Entry.ofAccount_toAccount]
        exact (exchanges_of_write_eq_ok keyed member rfl wrote).2
      exact ⟨row, member, same, owner, renews_of_exchanges exchange⟩

/-- Whoever has written the rows, and with whatever content: a password reset that succeeds changes
the passwords of one row, and what no account can have there. -/
theorem resetAccountPassword_renews (k : Collaborators σ) (domain userId : String)
    (id : AccountId) {s : Scene σ} (keyed : s.table.Keyed) :
    (resetAccountPassword domain userId id).Ends k.answer s fun result s' =>
      ∀ account, result = .ok account →
        ∃ row ∈ s.table.rows, row.id = id ∧ row.entry.userId = userId ∧
          Renews s.table row s'.table := by
  refine ends_of_takes ?_
  rintro turns _ s' - takes account rfl
  exact (passwordReset_of_takes takes).renews keyed

/-- Rows that were written by hand, and a mailbox for every user. -/
def handWrittenScene : Scene Holdings :=
  ⟨.handWritten, fun _ => some ⟨"jane@example.com", "first"⟩, []⟩

theorem resetAccountPassword_renews_handWritten :
    handWrittenScene.table.Keyed ∧
      (resetAccountPassword "example.com" "u1" ⟨3⟩).Ends (calm "example.com").answer
        handWrittenScene fun _ s' =>
          ∃ row ∈ handWrittenScene.table.rows, row.id = ⟨3⟩ ∧ row.entry.userId = "u1" ∧
            Renews handWrittenScene.table row s'.table := by
  have keyed : handWrittenScene.table.Keyed := Table.handWritten_keyed
  have renewed := resetAccountPassword_renews (calm "example.com") "example.com" "u1" ⟨3⟩ keyed
  exact ⟨keyed, renewed _ rfl⟩

/-- A port beyond sixteen bits, a security and a method of unknown names do not outlast a reset. -/
theorem resetAccountPassword_rewrites :
    handWrittenScene.table.Keyed ∧
      (resetAccountPassword "example.com" "u1" ⟨3⟩).Ends (calm "example.com").answer
        handWrittenScene fun result s' => (∃ account, result = .ok account) ∧
          s'.table.withoutPasswords ≠ handWrittenScene.table.withoutPasswords := by
  refine ⟨Table.handWritten_keyed, ⟨_, rfl⟩, by decide +kernel⟩

end MailboxKeeper.Engine
