import MailboxKeeper.Proofs.Engine.Calls

/-!
# A table and an encryption that do not fail

Where neither the table nor the encryption fails, their part of an operation is determined: the
table answers as its statements do, and every password is encrypted. Of the state that the
collaborators share, a `view` is kept throughout, such as what the service holds.
-/

namespace MailboxKeeper.Engine

open Store

variable {σ τ : Type} {view : σ → τ} {k : Collaborators σ} {s s' s'' : Scene σ}

/-- The encryption has given out a text for a password. -/
def Scene.Encrypted (s : Scene σ) (plaintext ciphertext : String) : Prop :=
  (⟨.encrypt plaintext, .ok ciphertext⟩ : Turn) ∈ s.transcript

theorem Scene.Encrypted.mono {plaintext ciphertext : String}
    (encrypted : s.Encrypted plaintext ciphertext) (more : s.transcript ⊆ s'.transcript) :
    s'.Encrypted plaintext ciphertext :=
  more encrypted

/-- Nothing but talk: neither the table nor what the view shows has changed. -/
structure Quiet (view : σ → τ) (s s' : Scene σ) : Prop where
  table : s'.table = s.table
  holdings : view s'.others = view s.others
  transcript : s.transcript ⊆ s'.transcript

theorem Quiet.refl (s : Scene σ) : Quiet view s s := ⟨rfl, rfl, List.Subset.refl _⟩

theorem Quiet.trans (first : Quiet view s s') (second : Quiet view s' s'') : Quiet view s s'' :=
  ⟨second.table.trans first.table, second.holdings.trans first.holdings,
    List.Subset.trans first.transcript second.transcript⟩

theorem Quiet.hear {turn : Turn} {others : σ} (same : view others = view s.others) :
    Quiet view s (s.hear turn others) :=
  ⟨rfl, same, List.subset_append_left _ _⟩

namespace Collaborators

/-- Neither the table nor the encryption ever fails, or changes what the view shows. -/
structure Steady (k : Collaborators σ) (view : σ → τ) : Prop where
  table : ∀ st x, (k.tableFailure? st x).1 = none ∧ view (k.tableFailure? st x).2 = view x
  encrypt : ∀ p x, (∃ c, (k.encrypt p x).1 = .ok c) ∧ view (k.encrypt p x).2 = view x

namespace Steady

variable (steady : k.Steady view)

include steady

theorem ends_statement {statement : Statement} :
    (Operation.table statement).Ends k.answer s fun result s' =>
      result = (s.table.execute statement).1.mapError Error.toFault ∧
        s'.table = (s.table.execute statement).2 ∧ view s'.others = view s.others ∧
        s.transcript ⊆ s'.transcript := by
  obtain ⟨works, same⟩ := steady.table statement s.others
  refine Operation.ends_table ?_ ?_
  · intro e others fails
    rw [fails] at works
    cases works
  · intro others fails
    rw [fails] at same
    exact ⟨rfl, rfl, same, List.subset_append_left _ _⟩

/-- A statement that only reads yields what it finds. -/
theorem yields_read {statement : Statement} {a : statement.Result}
    (reads : s.table.execute statement = (.ok a, s.table)) :
    (Operation.table statement).Yields k.answer s fun b s' => b = a ∧ Quiet view s s' := by
  refine steady.ends_statement.mono ?_
  intro result s' ends
  obtain ⟨answered, table, holdings, more⟩ := ends
  rw [reads] at answered table
  exact ⟨a, answered, rfl, table, holdings, more⟩

theorem yields_findByAddress {userId email : String} :
    (Operation.table (.findByAddress userId email)).Yields k.answer s fun account? s' =>
      account? = s.table.findByAddress userId email ∧ Quiet view s s' :=
  steady.yields_read rfl

theorem yields_findById {userId : String} {id : AccountId} :
    (Operation.table (.findById userId id)).Yields k.answer s fun account? s' =>
      account? = s.table.findById userId id ∧ Quiet view s s' :=
  steady.yields_read rfl

theorem ends_write {a : Account} :
    (Operation.write a).Ends k.answer s fun result s' =>
      result = (s.table.afterWrite (s.table.write a)).1.mapError Error.toFault ∧
        s'.table = (s.table.afterWrite (s.table.write a)).2 ∧ view s'.others = view s.others ∧
        s.transcript ⊆ s'.transcript := by
  cases saved : a.isSaved with
  | true =>
    have writes : s.table.write a = s.table.update a := if_pos saved
    rw [write_of_saved saved, writes]
    exact steady.ends_statement
  | false =>
    have writes : s.table.write a = s.table.save a :=
      if_neg (by rw [saved]; exact Bool.false_ne_true)
    rw [write_of_unsaved saved, writes]
    exact steady.ends_statement

theorem yields_encrypt {plaintext : String} :
    (Operation.encrypt plaintext).Yields k.answer s fun c s' =>
      Quiet view s s' ∧ s'.Encrypted plaintext c := by
  refine Operation.ends_encrypt ?_
  intro answer others heard
  have works := steady.encrypt plaintext s.others
  rw [heard] at works
  obtain ⟨⟨c, same⟩, holdings⟩ := works
  cases same
  exact ⟨c, rfl, .hear holdings, List.mem_append_right _ (List.mem_singleton_self _)⟩

theorem yields_encryptEndpoint {server : MailServer} :
    (Operation.encryptEndpoint server).Yields k.answer s fun endpoint s' =>
      Quiet view s s' ∧ s'.Encrypted (server.password.getD "") endpoint.encryptedPassword :=
  steady.yields_encrypt.bind fun _ _ encrypted => ⟨_, rfl, encrypted⟩

/-- Two endpoints are encrypted, and an account is written that has them. -/
theorem ends_encrypt_write {imap smtp : MailServer} (renewed : Endpoint → Endpoint → Account) :
    (Operation.encryptEndpoint imap >>= fun inbound =>
        Operation.encryptEndpoint smtp >>= fun outbound =>
          Operation.write (renewed inbound outbound)).Ends k.answer s fun result s' =>
      ∃ inbound outbound : Endpoint,
        s'.Encrypted (imap.password.getD "") inbound.encryptedPassword ∧
        s'.Encrypted (smtp.password.getD "") outbound.encryptedPassword ∧
        result = (s.table.afterWrite (s.table.write (renewed inbound outbound))).1.mapError
          Error.toFault ∧
        s'.table = (s.table.afterWrite (s.table.write (renewed inbound outbound))).2 ∧
        view s'.others = view s.others ∧ s.transcript ⊆ s'.transcript := by
  refine steady.yields_encryptEndpoint.bind ?_
  intro inbound s₁ ends
  obtain ⟨first, incoming⟩ := ends
  refine steady.yields_encryptEndpoint.bind ?_
  intro outbound s₂ ends
  obtain ⟨second, outgoing⟩ := ends
  have before := first.trans second
  refine steady.ends_write.mono ?_
  intro result s' ends
  obtain ⟨wrote, table, same, more⟩ := ends
  rw [before.table] at wrote table
  exact ⟨inbound, outbound, (incoming.mono second.transcript).mono more, outgoing.mono more, wrote,
    table, same.trans before.holdings, List.Subset.trans before.transcript more⟩

end Steady

end Collaborators

end MailboxKeeper.Engine
