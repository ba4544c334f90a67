import MailboxKeeper.Proofs.Address.Comparison
import MailboxKeeper.Proofs.Engine.ConformingService
import Mathlib.Data.List.Nodup

/-!
# The table as a mirror of the service

Whatever fails in between, the service is a step ahead of the table and never behind: for each
row it holds a mailbox of that user at exactly that address. The table may lack a row for a
mailbox, but it never has one without. This is what `Mirrored` says; every request but a deletion
preserves it under collaborators that fail as they like.
-/

namespace MailboxKeeper.Engine

open AccountRequest Store

/-- A sound table whose every row stands for a mailbox that the service holds. -/
structure Mirrored (domain : String) (table : Table) (held : Holdings) : Prop where
  sound : table.Sound
  addressed : ∀ u h, held u = some h →
    ∃ l, localPartViolation? l = none ∧ h.address = Address.ofParts l domain
  backed : ∀ r ∈ table.rows, ∃ h, held r.entry.userId = some h ∧ r.entry.email = h.address

namespace Mirrored

variable {domain : String} {table table' : Table} {held held' : Holdings} {h : Holding}
variable {userId localPart : String} {r r' : Row} {a b : Account}

theorem empty : Mirrored domain .empty fun _ => none := ⟨.empty, nofun, nofun⟩

/-- The service may go ahead. -/
theorem grow (mirrored : Mirrored domain table held) (grows : Grows domain held held') :
    Mirrored domain table held' := by
  refine ⟨mirrored.sound, ?_, ?_⟩
  · intro u h' taken
    rcases grows.new u h' taken with ⟨h, before, same⟩ | requested
    · rw [same]
      exact mirrored.addressed u h before
    · exact requested
  · intro r member
    obtain ⟨h, taken, email⟩ := mirrored.backed r member
    obtain ⟨h', taken', same⟩ := grows.kept _ h taken
    exact ⟨h', taken', email.trans same.symm⟩

theorem email_eq (mirrored : Mirrored domain table held) (member : r ∈ table.rows)
    (taken : held r.entry.userId = some h) : r.entry.email = h.address := by
  obtain ⟨h', taken', email⟩ := mirrored.backed r member
  rw [taken] at taken'
  cases taken'
  exact email

/-- A user has one row: all would be at the address of the one mailbox. -/
theorem eq_of_userId (mirrored : Mirrored domain table held) (left : r ∈ table.rows)
    (right : r' ∈ table.rows) (same : r'.entry.userId = r.entry.userId) : r = r' := by
  obtain ⟨h, taken, email⟩ := mirrored.backed r left
  have email' := mirrored.email_eq right (same ▸ taken)
  refine mirrored.sound.eq_of_isAt left right (Entry.isAt_iff.2 ⟨same, ?_⟩)
  rw [email, email']
  exact sameAddress_self _

theorem filter_userId (mirrored : Mirrored domain table held) (member : r ∈ table.rows) :
    table.rows.filter (fun s => s.entry.userId == r.entry.userId) = [r] := by
  have distinct : table.rows.Nodup := by
    refine mirrored.sound.ascending.imp ?_
    rintro s _ less rfl
    exact Int64.lt_irrefl less
  have only : ∀ s ∈ table.rows, (s.entry.userId == r.entry.userId) = (s == r) := by
    intro s other
    rw [Bool.eq_iff_iff, beq_iff_eq, beq_iff_eq]
    exact ⟨fun same => (mirrored.eq_of_userId member other same).symm, fun same => by rw [same]⟩
  rw [List.filter_congr only, List.filter_beq, List.count_eq_one_of_mem distinct member]
  rfl

theorem count_le_one (mirrored : Mirrored domain table held) (userId : String) :
    table.count userId ≤ 1 := by
  by_cases some_ : ∃ r ∈ table.rows, r.entry.userId = userId
  · obtain ⟨r, member, rfl⟩ := some_
    rw [Table.count, List.countP_eq_length_filter, mirrored.filter_userId member]
    rfl
  · have none_ : table.count userId = 0 := by
      rw [Table.count, List.countP_eq_zero]
      intro r member owner
      exact some_ ⟨r, member, eq_of_beq owner⟩
    omega

/-! ## Looking up an address -/

/-- The row of a user is found under an address that was asked for exactly if the engine takes it
for the address of the user's mailbox. -/
theorem isAt_iff (mirrored : Mirrored domain table held) (member : r ∈ table.rows)
    (taken : held r.entry.userId = some h) (valid : localPartViolation? localPart = none) :
    r.entry.isAt r.entry.userId (Address.ofParts localPart domain) = true
      ↔ Address.same h.address (Address.ofParts localPart domain) = true := by
  obtain ⟨l, letters, address⟩ := mirrored.addressed _ h taken
  rw [Entry.isAt_iff, mirrored.email_eq member taken, address,
    sameAddress_ofParts_iff letters valid]
  exact ⟨And.right, fun same => ⟨rfl, same⟩⟩

theorem of_findByAddress_eq_some (mirrored : Mirrored domain table held)
    (valid : localPartViolation? localPart = none)
    (found : table.findByAddress userId (Address.ofParts localPart domain) = some a) :
    ∃ r ∈ table.rows, a = r.toAccount ∧ r.entry.userId = userId ∧
      ∃ h, held userId = some h ∧ r.entry.email = h.address ∧
        Address.same h.address (Address.ofParts localPart domain) = true := by
  obtain ⟨r, member, at_, rfl⟩ := Table.of_findByAddress_eq_some found
  obtain ⟨h, taken, email⟩ := mirrored.backed r member
  obtain ⟨rfl, -⟩ := Entry.isAt_iff.1 at_
  exact ⟨r, member, rfl, rfl, h, taken, email, (mirrored.isAt_iff member taken valid).1 at_⟩

/-- If nothing is found at the address of the user's mailbox, the user has no row. -/
theorem of_findByAddress_eq_none (mirrored : Mirrored domain table held)
    (valid : localPartViolation? localPart = none)
    (missed : table.findByAddress userId (Address.ofParts localPart domain) = none)
    (requested : ∀ h, held userId = some h →
      Address.same h.address (Address.ofParts localPart domain) = true) :
    ∀ r ∈ table.rows, r.entry.userId ≠ userId := by
  rintro r member rfl
  obtain ⟨h, taken, -⟩ := mirrored.backed r member
  have at_ := (mirrored.isAt_iff member taken valid).2 (requested h taken)
  rw [Table.findByAddress_eq_none_iff.1 missed r member] at at_
  cases at_

/-! ## Writing -/

/-- A record of the mailbox that the service holds may be written. -/
theorem write (mirrored : Mirrored domain table held) (written : table.write a = .ok (b, table'))
    (taken : held a.userId = some h) (email : a.email = h.address) :
    Mirrored domain table' held := by
  obtain ⟨sound, id, rfl, rows⟩ := mirrored.sound.of_write_eq_ok written
  refine ⟨sound, mirrored.addressed, ?_⟩
  intro r member
  rcases (rows r).1 member with rfl | ⟨old, -⟩
  · exact ⟨h, taken, email⟩
  · exact mirrored.backed r old

end Mirrored

/-! ## Requests -/

variable {σ α : Type} {domain : String} {held : σ → Holdings} {k : Collaborators σ} {s : Scene σ}
variable {op : Operation α} {userId localPart displayName : String}

/-- The table of a scene mirrors the service. -/
def Scene.Mirrors (s : Scene σ) (domain : String) (held : σ → Holdings) : Prop :=
  Mirrored domain s.table (held s.others)

theorem Scene.Mirrors.start {others : σ} (nothing : held others = fun _ => none) :
    (⟨.empty, others, []⟩ : Scene σ).Mirrors domain held := by
  unfold Mirrors
  rw [nothing]
  exact .empty

namespace Collaborators.Unreliable

variable (unreliable : k.Unreliable domain held)

include unreliable

/-- Calls that write nothing leave the table a mirror. -/
theorem ends_mirrors_of_asks (mirrors : s.Mirrors domain held) (quiet : op.Asks Call.WritesNothing)
    (asks : op.Asks Call.Expands) :
    op.Ends k.answer s fun _ s' =>
      s'.Mirrors domain held ∧ Grows domain (held s.others) (held s'.others) := by
  refine ((ends_unwritten quiet).and (unreliable.ends_grows asks)).mono ?_
  intro result s' ends
  obtain ⟨kept, grows⟩ := ends
  unfold Scene.Mirrors
  rw [kept]
  exact ⟨mirrors.grow grows, grows⟩

/-- An account may be written at the address of the mailbox that the service holds. -/
theorem ends_persist_mirrors {account : Account} {mailbox : Mailbox} {h : Holding}
    (mirrors : s.Mirrors domain held) (taken : held s.others account.userId = some h)
    (email : account.email = h.address) :
    (persist account mailbox displayName).Ends k.answer s fun _ s' => s'.Mirrors domain held := by
  have asks : (persist account mailbox displayName).Asks Call.Expands :=
    asks_persist trivial (fun _ => trivial) (fun _ _ => trivial) fun _ _ => trivial
  refine (ends_persist.and (unreliable.ends_grows asks)).mono ?_
  intro result s' ends
  obtain ⟨wrote, grows⟩ := ends
  cases result with
  | error fault =>
    unfold Scene.Mirrors
    rw [wrote]
    exact mirrors.grow grows
  | ok written =>
    obtain ⟨a, -, owner, address, write⟩ := wrote
    obtain ⟨h', taken', same⟩ := grows.kept _ h taken
    refine (mirrors.grow grows).write write (owner ▸ taken') ?_
    rw [address, email, same]

/-- What is looked up is a mailbox that the service holds. -/
theorem ends_resolve_held :
    (resolve domain userId localPart).Ends k.answer s fun result s' =>
      ∀ mailbox, result = .ok (.retry mailbox) →
        ∃ h, held s'.others userId = some h ∧ mailbox.email = h.address := by
  refine (Operation.ends_service ?_).bind (m := fun result s₁ => ∀ m, result = .ok (some m) →
    ∃ h, held s₁.others userId = some h ∧ m.email = h.address) ?_ ?_
  · intro answer others heard m shown
    cases answer with
    | error failure => cases shown
    | ok found =>
      cases shown
      have may := unreliable.service (.get userId) s.others
      rw [heard] at may
      generalize before : held s.others = h₀ at may
      generalize after : held others = h₁ at may
      cases may with
      | served serves =>
        cases serves with
        | shown taken address => exact ⟨_, by rw [Scene.hear_others, after]; exact taken, address⟩
  · intro found s₁ held_ mailbox retry
    obtain ⟨rfl, -⟩ := of_ofMailbox_eq_retry (Except.ok.inj retry)
    exact held_ mailbox rfl
  · exact fun _ _ _ _ => nofun

theorem ends_repair_mirrors {account : Account} {h : Holding} (mirrors : s.Mirrors domain held)
    (taken : held s.others account.userId = some h) (email : account.email = h.address) :
    (repair domain localPart displayName account).Ends k.answer s fun _ s' =>
      s'.Mirrors domain held := by
  have quiet : (resolve domain account.userId localPart).Asks Call.WritesNothing :=
    asks_resolve trivial
  refine (unreliable.ends_mirrors_of_asks mirrors quiet (asks_resolve trivial)).bind ?_ ?_
  · intro resolution s₁ ends
    obtain ⟨mirrors₁, grows⟩ := ends
    cases resolution with
    | retry mailbox =>
      obtain ⟨h', taken', same⟩ := grows.kept _ h taken
      exact unreliable.ends_persist_mirrors mirrors₁ taken' (email.trans same.symm)
    | noExistingAccount => exact mirrors₁
    | emailMismatch expected existing => exact mirrors₁
  · exact fun _ _ mirrored => mirrored.1

theorem ends_recover_mirrors {refusal : Fault} (mirrors : s.Mirrors domain held) :
    (recover domain userId localPart displayName refusal).Ends k.answer s fun _ s' =>
      s'.Mirrors domain held := by
  have quiet : (resolve domain userId localPart).Asks Call.WritesNothing := asks_resolve trivial
  refine Dialogue.Ends.bind (m := fun result s₁ => s₁.Mirrors domain held ∧
    ∀ mailbox, result = .ok (.retry mailbox) →
      ∃ h, held s₁.others userId = some h ∧ mailbox.email = h.address) ?_ ?_ ?_
  · refine (((unreliable.ends_mirrors_of_asks mirrors quiet (asks_resolve trivial)).and
      unreliable.ends_resolve_held).mono ?_).mapError
    intro result s₁ ends
    obtain ⟨⟨mirrors₁, -⟩, looked⟩ := ends
    cases result with
    | error fault => exact ⟨mirrors₁, fun _ => nofun⟩
    | ok resolution => exact ⟨mirrors₁, looked⟩
  · intro resolution s₁ ends
    obtain ⟨mirrors₁, looked⟩ := ends
    cases resolution with
    | retry mailbox =>
      obtain ⟨h, taken, email⟩ := looked mailbox rfl
      exact unreliable.ends_persist_mirrors mirrors₁ taken email
    | noExistingAccount => exact mirrors₁
    | emailMismatch expected existing => exact mirrors₁
  · exact fun _ _ mirrored => mirrored.1

/-- A mailbox that the service has made is held, also if the answer was all that got through. -/
theorem ends_create_held (mirrors : s.Mirrors domain held)
    (valid : localPartViolation? localPart = none) :
    (Operation.tryService (.create userId localPart)).Ends k.answer s fun result s' =>
      (s'.Mirrors domain held ∧ Grows domain (held s.others) (held s'.others)) ∧
        ∀ mailbox, result = .ok (.ok mailbox) →
          ∃ h, held s'.others userId = some h ∧ Mailbox.email mailbox = h.address := by
  have asks : (Operation.tryService (.create userId localPart)).Asks Call.Expands :=
    asks_tryService valid
  refine (unreliable.ends_mirrors_of_asks mirrors (asks_tryService trivial) asks).and ?_
  refine Operation.ends_tryService ?_
  · intro answer others heard mailbox made
    cases made
    have may := unreliable.service (.create userId localPart) s.others
    rw [heard] at may
    generalize held s.others = h₀ at may
    generalize after : held others = h₁ at may
    cases may with
    | served serves =>
      cases serves with
      | @created _ _ password _ free address =>
        refine ⟨⟨Address.ofParts localPart domain, password⟩, ?_, address⟩
        rw [Scene.hear_others, after, Function.update_self]

theorem ends_provision_mirrors (mirrors : s.Mirrors domain held)
    (valid : localPartViolation? localPart = none) :
    (provision domain userId localPart displayName).Ends k.answer s fun _ s' =>
      s'.Mirrors domain held := by
  refine (unreliable.ends_create_held mirrors valid).bind ?_ fun _ _ mirrored => mirrored.1.1
  intro answer s₁ ends
  obtain ⟨⟨mirrors₁, -⟩, made⟩ := ends
  cases answer with
  | error failure => exact unreliable.ends_recover_mirrors mirrors₁
  | ok mailbox =>
    obtain ⟨h, taken, email⟩ := made mailbox rfl
    exact unreliable.ends_persist_mirrors mirrors₁ taken email

theorem ends_createOrUpdate_mirrors (mirrors : s.Mirrors domain held) :
    (createOrUpdate domain userId localPart displayName).Ends k.answer s fun _ s' =>
      s'.Mirrors domain held := by
  unfold createOrUpdate
  split
  · rename_i valid
    have letters := localPartViolation?_of_violations valid
    have asks : (Operation.table
        (.findByAddress userId (Address.ofParts localPart domain))).Asks Call.Expands :=
      asks_table trivial
    refine ((unreliable.ends_grows asks).and ends_findByAddress).bind ?_ ?_
    · intro (account? : Option Account) s₁ ends
      obtain ⟨grows, kept, lookup⟩ := ends
      have found := lookup account? rfl
      have mirrors₁ : s₁.Mirrors domain held := by
        unfold Scene.Mirrors
        rw [kept]
        exact mirrors.grow grows
      cases account? with
      | none => exact unreliable.ends_provision_mirrors mirrors₁ letters
      | some account =>
        rw [← kept] at found
        obtain ⟨r, -, rfl, rfl, h, taken, email, -⟩ :=
          mirrors₁.of_findByAddress_eq_some letters found.symm
        exact unreliable.ends_repair_mirrors mirrors₁ taken email
    · intro fault s₁ ends
      obtain ⟨grows, kept, -⟩ := ends
      show Mirrored domain s₁.table (held s₁.others)
      rw [kept]
      exact mirrors.grow grows
  · exact mirrors

theorem ends_resolveChecked_mirrors (mirrors : s.Mirrors domain held) :
    (resolveChecked domain userId localPart).Ends k.answer s fun _ s' =>
      s'.Mirrors domain held := by
  unfold resolveChecked
  split
  · have quiet : (resolve domain userId localPart).Asks Call.WritesNothing := asks_resolve trivial
    refine (unreliable.ends_mirrors_of_asks mirrors quiet (asks_resolve trivial)).mono ?_
    exact fun _ _ mirrored => mirrored.1
  · exact mirrors

theorem ends_resetAccountPassword_mirrors {id : AccountId} (mirrors : s.Mirrors domain held) :
    (resetAccountPassword domain userId id).Ends k.answer s fun _ s' => s'.Mirrors domain held := by
  have asks : (resetAccountPassword domain userId id).Asks Call.Expands :=
    asks_resetAccountPassword trivial trivial (fun _ => trivial) fun _ => trivial
  refine (ends_resetAccountPassword.and (unreliable.ends_grows asks)).mono ?_
  intro result s' ends
  obtain ⟨wrote, grows⟩ := ends
  cases result with
  | error fault =>
    unfold Scene.Mirrors
    rw [wrote]
    exact mirrors.grow grows
  | ok written =>
    obtain ⟨r, member, -, a, -, owner, address, write⟩ := wrote
    obtain ⟨h, taken, email⟩ := (mirrors.grow grows).backed r member
    exact (mirrors.grow grows).write write (owner ▸ taken) (address.trans email)

/-- Every request but a deletion leaves the table a mirror. -/
theorem mirrors_perform (q : Request) (keeps : q.isDeletion = false)
    (mirrors : s.Mirrors domain held) :
    (k.perform (q.operation domain) s).2.Mirrors domain held := by
  cases q with
  | create userId localPart displayName => exact unreliable.ends_createOrUpdate_mirrors mirrors
  | resolve userId localPart => exact unreliable.ends_resolveChecked_mirrors mirrors
  | resetPassword userId id => exact unreliable.ends_resetAccountPassword_mirrors mirrors
  | delete userId id => cases keeps

/-- Short of deletions, so does every run of requests. -/
theorem mirrors_after {requests : List Request} (keeps : ∀ q ∈ requests, q.isDeletion = false)
    (mirrors : s.Mirrors domain held) : (k.after domain requests s).Mirrors domain held :=
  after_induction (motive := fun s => s.Mirrors domain held) mirrors fun q member _ =>
    unreliable.mirrors_perform q (keeps q member)

end Collaborators.Unreliable

end MailboxKeeper.Engine
