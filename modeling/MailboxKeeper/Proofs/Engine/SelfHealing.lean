import MailboxKeeper.Proofs.Engine.Undisturbed

/-!
# Self-healing

A request can break off anywhere: a mailbox may be made that nobody hears of, a password issued
that is never stored. The table still mirrors the service afterwards, and that is all the next
request needs. When nothing disturbs it, it brings the user's record in step with the service, and
it refuses only if the user's mailbox is at another address.
-/

namespace MailboxKeeper.Engine

open AccountRequest Store

variable {σ α : Type} {domain : String} {held : σ → Holdings} {k later : Collaborators σ}
variable {s s' : Scene σ} {userId localPart displayName requested : String}

/-- The one row of a user is a record of the mailbox that the service holds for the user: it has
the address, and its columns were encrypted from the current password. -/
structure Recorded (held : σ → Holdings) (s : Scene σ) (userId : String) (account : Account)
    (h : Holding) : Prop where
  holding : held s.others userId = some h
  row : ∃ r, s.table.rows.filter (fun r => r.entry.userId == userId) = [r] ∧ r.toAccount = account
  address : account.email = h.address
  inbound : s.Encrypted h.password account.inbound.encryptedPassword
  outbound : s.Encrypted h.password account.outbound.encryptedPassword

theorem Settled.of_ok {account : Account}
    (settled : Settled held userId requested s (.ok account) s')
    (mirrors : s'.Mirrors domain held) :
    ∃ h, Recorded held s' userId account h ∧ Address.same h.address requested = true ∧
      ∀ h₀, held s.others userId = some h₀ → h₀.address = h.address := by
  cases settled with
  | @recorded a _ h _ same before owner email written issued _ inbound outbound =>
    obtain ⟨id, rfl, member⟩ := Table.of_write_eq_ok written
    have alone := mirrors.filter_userId member
    have holding : held s'.others userId = some h := by rw [issued, Function.update_self]
    subst owner
    have row := toAccount_ofAccount id { a with id := some id }
    exact ⟨h, ⟨holding, ⟨_, alone, row⟩, email, inbound, outbound⟩, same, before⟩

/-- Every id that was given out took a call. -/
theorem ends_lastId (op : Operation α) :
    op.Ends k.answer s fun _ s' => s.table.lastId.toInt ≤ s.transcript.length →
      s'.table.lastId.toInt ≤ s'.transcript.length := by
  refine (Dialogue.asks_any op).runFrom (R := fun s s' : Scene σ =>
    s.table.lastId.toInt ≤ s.transcript.length → s'.table.lastId.toInt ≤ s'.transcript.length)
    (fun _ => id) (fun first second => second ∘ first) ?_ s
  intro c s _ fewer
  have longer : (k.answer c s).2.transcript.length = s.transcript.length + 1 := by
    rw [k.transcript_answer, List.length_append, List.length_singleton]
  have one : (k.answer c s).2.table.lastId.toInt ≤ s.table.lastId.toInt + 1 := by
    have same : s.table.lastId.toInt ≤ s.table.lastId.toInt + 1 := by omega
    cases c with
    | service c => exact same
    | encrypt plaintext => exact same
    | table statement =>
      rcases k.answer_table_cases s statement with ⟨e, others, -, said⟩ | ⟨others, -, said⟩
      · rw [said]
        exact same
      · rw [said]
        exact s.table.lastId_execute_le statement
  show (k.answer c s).2.table.lastId.toInt ≤ (k.answer c s).2.transcript.length
  rw [longer]
  omega

/-- An id is left as long as there were fewer calls than ids. -/
theorem nextId?_after {others : σ} {requests : List Request}
    (reached : k.after domain requests ⟨.empty, others, []⟩ = s)
    (fewer : s.transcript.length < Int64.maxValue.toInt) : s.table.nextId? ≠ none := by
  have counted : s.table.lastId.toInt ≤ s.transcript.length := by
    rw [← reached]
    exact Collaborators.after_induction
      (motive := fun s => s.table.lastId.toInt ≤ s.transcript.length) (Int.le_refl 0)
      fun q _ s counted => ends_lastId (q.operation domain) counted
  have room : s.table.lastId ≠ Int64.maxValue := fun full => by
    rw [full] at counted
    omega
  rw [Table.nextId?, if_neg room]
  exact nofun

/-- Whatever has failed before, short of a deletion, and as long as the table has an id left: a
request for an account that nothing disturbs succeeds exactly if the service holds no mailbox for
the user or one at the requested address. Then the user's one row is a record of that mailbox;
otherwise a conflict names both addresses and nothing changes. -/
theorem createOrUpdate_heals (unreliable : k.Unreliable domain held)
    (reliable : later.Reliable domain held) {others : σ} (nothing : held others = fun _ => none)
    {requests : List Request} (keeping : ∀ q ∈ requests, q.isDeletion = false)
    (reached : k.after domain requests ⟨.empty, others, []⟩ = s)
    (valid : violations userId localPart displayName = []) (idLeft : s.table.nextId? ≠ none) :
    (createOrUpdate domain userId localPart displayName).Ends later.answer s fun result s' =>
      ((∃ account, result = .ok account) ↔ ∀ h, held s.others userId = some h →
        Address.same h.address (Address.ofParts localPart domain) = true) ∧
      (∀ account, result = .ok account → ∃ h, Recorded held s' userId account h ∧
        Address.same h.address (Address.ofParts localPart domain) = true) ∧
      (∀ fault, result = .error fault → ∃ h, held s.others userId = some h ∧
        fault.kind = .conflict ∧ fault.data = some (.object
          [("expected_email", .string (Address.ofParts localPart domain)),
            ("existing_email", .string h.address)]) ∧ Quiet held s s') := by
  have mirrors : s.Mirrors domain held := by
    rw [← reached]
    exact unreliable.mirrors_after keeping (.start nothing)
  refine ((reliable.ends_createOrUpdate_settled mirrors valid).and
    (reliable.unreliable.ends_createOrUpdate_mirrors mirrors)).mono ?_
  intro result s' ends
  obtain ⟨settled, mirrors'⟩ := ends
  cases settled with
  | @recorded a account h _ same before owner email written issued transcript inbound outbound =>
    have settled : Settled held userId (Address.ofParts localPart domain) s (.ok account) s' :=
      .recorded same before owner email written issued transcript inbound outbound
    refine ⟨⟨fun _ h₀ taken => ?_, fun _ => ⟨account, rfl⟩⟩, ?_, fun _ => nofun⟩
    · rw [before h₀ taken]
      exact same
    · intro _ same
      cases same
      obtain ⟨h, recorded, same, -⟩ := settled.of_ok mirrors'
      exact ⟨h, recorded, same⟩
  | @elsewhere h refusal _ taken apart quiet =>
    refine ⟨⟨?_, ?_⟩, fun _ => nofun, ?_⟩
    · intro succeeds
      obtain ⟨_, same⟩ := succeeds
      cases same
    · intro requested
      rw [requested h taken] at apart
      cases apart
    · intro fault same
      cases same
      exact ⟨h, taken, rfl, rfl, quiet⟩
  | exhausted full => exact absurd full idLeft

/-- A mailbox whose making nobody heard of, and whose password nobody could store, is taken over
in the end, also under another spelling of its local part. -/
theorem createOrUpdate_heals_storm :
    (createOrUpdate "example.com" "u1" "JANE" "Jane").Ends (calm "example.com").answer
      ((stormy "example.com").after "example.com" [.create "u1" "jane" "Jane"]
        ⟨.empty, fun _ => none, []⟩)
      fun result s' => ∃ account, result = .ok account ∧
        ∃ h, Recorded id s' "u1" account h := by
  have held : id ((stormy "example.com").after "example.com" [.create "u1" "jane" "Jane"]
      ⟨.empty, fun _ => none, []⟩).others "u1" = some ⟨"jane@example.com", "first+"⟩ := by
    decide +kernel
  have valid : violations "u1" "JANE" "Jane" = [] := by decide +kernel
  have keeping : ∀ q ∈ [Request.create "u1" "jane" "Jane"], q.isDeletion = false := by decide
  refine (createOrUpdate_heals (stormy_unreliable "example.com") (calm_reliable "example.com") rfl
    keeping rfl valid (by decide +kernel)).mono ?_
  intro result s' ends
  obtain ⟨succeeds, recorded, -⟩ := ends
  obtain ⟨account, ok⟩ := succeeds.2 fun h same => by
    rw [held] at same
    cases same
    decide +kernel
  obtain ⟨h, record, -⟩ := recorded account ok
  exact ⟨account, ok, h, record⟩

end MailboxKeeper.Engine
