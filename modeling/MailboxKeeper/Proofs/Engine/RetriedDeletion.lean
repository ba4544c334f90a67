import MailboxKeeper.Proofs.Address.Domain
import MailboxKeeper.Proofs.Engine.Undisturbed
import MailboxKeeper.Proofs.Store.SingleRow

/-!
# Deletions that are asked for again

A deletion turns to the service before it removes the row, so when the table fails the row is still
there, and the mailbox may be gone or not. The next deletion starts from the same row, and finds at
the service either what was there at first or what the one before was to leave (`cleared`). From
both it comes to the same end, so it does not matter how often the table has failed.
-/

namespace MailboxKeeper.Engine

open Store

/-! ## What is to be left of the mailboxes -/

section Cleared

variable {domain userId email : String} {held after : Holdings} {h : Holding}

/-- What is held when the user's mailbox is gone, if that is a mailbox at an address of the
domain. -/
def cleared (domain userId email : String) (held : Holdings) : Holdings :=
  Function.update held userId
    ((held userId).filter fun h => !(Address.inDomain email domain && Address.same h.address email))

theorem cleared_of_kept (kept : ∀ h, held userId = some h →
    (Address.inDomain email domain && Address.same h.address email) = false) :
    cleared domain userId email held = held := by
  have same : (held userId).filter (fun h =>
      !(Address.inDomain email domain && Address.same h.address email)) = held userId := by
    cases taken : held userId with
    | none => rfl
    | some h => rw [Option.filter_some, kept h taken]; rfl
  rw [cleared, same, Function.update_eq_self]

theorem cleared_of_foreign (outside : Address.inDomain email domain = false) :
    cleared domain userId email held = held :=
  cleared_of_kept fun _ _ => by rw [outside, Bool.false_and]

theorem cleared_of_none (free : held userId = none) : cleared domain userId email held = held := by
  refine cleared_of_kept ?_
  intro h taken
  rw [free] at taken
  cases taken

theorem cleared_of_apart (taken : held userId = some h)
    (apart : Address.same h.address email = false) : cleared domain userId email held = held := by
  refine cleared_of_kept ?_
  intro h' taken'
  rw [taken] at taken'
  cases taken'
  rw [apart, Bool.and_false]

theorem cleared_of_same (inside : Address.inDomain email domain = true)
    (taken : held userId = some h) (same : Address.same h.address email = true) :
    cleared domain userId email held = Function.update held userId none := by
  rw [cleared, taken, Option.filter_some, inside, same]
  rfl

theorem cleared_cleared (domain userId email : String) (held : Holdings) :
    cleared domain userId email (cleared domain userId email held)
      = cleared domain userId email held := by
  unfold cleared
  rw [Function.update_self, Function.update_idem, Option.filter_filter]
  simp only [Bool.and_self]

/-! ## Calls that may fail -/

/-- A lookup changes nothing, and what it shows is what there is. -/
theorem MayServe.of_get {answer : Provisioning.Call.Answer (.get userId)}
    (may : MayServe domain held (.get userId) answer after) :
    after = held ∧ ∀ found : Option Mailbox, answer = .ok found →
      found.map Mailbox.email = (held userId).map Holding.address := by
  cases may with
  | lostBefore failure => exact ⟨rfl, fun _ => nofun⟩
  | lostAfter failure serves => cases serves <;> exact ⟨rfl, fun _ => nofun⟩
  | served serves =>
    cases serves with
    | shown taken address =>
      refine ⟨rfl, ?_⟩
      rintro _ ⟨⟩
      rw [taken, Option.map_some, Option.map_some, address]
    | absent free =>
      refine ⟨rfl, ?_⟩
      rintro _ ⟨⟩
      rw [free, Option.map_none, Option.map_none]

theorem MayServe.of_delete {answer : Provisioning.Call.Answer (.delete userId)}
    (may : MayServe domain held (.delete userId) answer after) :
    after = held ∨ after = Function.update held userId none := by
  cases may with
  | lostBefore failure => exact .inl rfl
  | lostAfter failure serves | served serves =>
    cases serves with
    | deleted => exact .inr rfl
    | missing => exact .inl rfl

end Cleared

section Attempts

variable {σ α : Type} {domain userId email : String} {held : σ → Holdings}
variable {k later : Collaborators σ} {start s s' s'' : Scene σ} {account : Account} {id : AccountId}
variable {op : Operation α}

/-! ## One attempt -/

/-- The table is as it was, and so is what the service holds, unless the mailbox is gone that was
to go. -/
structure HalfWay (held : σ → Holdings) (domain userId email : String) (s s' : Scene σ) : Prop where
  table : s'.table = s.table
  holdings : held s'.others = held s.others ∨
    held s'.others = cleared domain userId email (held s.others)

theorem HalfWay.refl (s : Scene σ) : HalfWay held domain userId email s s := ⟨rfl, .inl rfl⟩

theorem HalfWay.trans (first : HalfWay held domain userId email s s')
    (second : HalfWay held domain userId email s' s'') :
    HalfWay held domain userId email s s'' := by
  refine ⟨second.table.trans first.table, ?_⟩
  rcases second.holdings with same | gone
  · rw [same]
    exact first.holdings
  · right
    rcases first.holdings with same | gone'
    · rw [gone, same]
    · rw [gone, gone', cleared_cleared]

/-- From half-way on as from the beginning, the same mailboxes are to be left. -/
theorem HalfWay.cleared_eq (halfWay : HalfWay held domain userId email s s') :
    cleared domain userId email (held s'.others) = cleared domain userId email (held s.others) := by
  rcases halfWay.holdings with same | gone
  · rw [same]
  · rw [gone, cleared_cleared]

/-- Is it a storage fault that an operation has ended in? -/
def isStorageFault : Except Fault α → Bool
  | .ok _ => false
  | .error fault => fault.kind == .storage

/-- A row that cannot be removed stays. -/
theorem ends_delete (k : Collaborators σ) (s : Scene σ) (userId : String) (id : AccountId) :
    (Operation.table (.delete userId id)).Ends k.answer s fun result s' =>
      ∀ fault, result = .error fault → s'.table = s.table :=
  Operation.ends_table (fun _ _ _ _ _ => rfl) fun _ _ _ => nofun

namespace Collaborators.Unreliable

variable (unreliable : k.Unreliable domain held)

include unreliable

/-- Statements about the table do not concern the service. -/
theorem ends_held (states : op.Asks fun c => ∃ statement, c = .table statement) :
    op.Ends k.answer s fun _ s' => held s'.others = held s.others := by
  refine states.runFrom (R := fun s s' : Scene σ => held s'.others = held s.others) (fun _ => rfl)
    (fun first second => second.trans first) ?_ s
  rintro _ s ⟨statement, rfl⟩
  exact unreliable.held_statement statement s

theorem yields_deleteMailboxAt (inside : Address.inDomain email domain = true)
    {found : Option Mailbox}
    (truth : found.map Mailbox.email = (held s.others userId).map Holding.address) :
    (deleteMailboxAt userId email found).Yields k.answer s fun _ s' =>
      HalfWay held domain userId email s s' := by
  cases found with
  | none => exact ⟨_, rfl, .refl s⟩
  | some mailbox =>
    obtain ⟨h, taken, address⟩ := Option.map_eq_some_iff.1 truth.symm
    unfold deleteMailboxAt
    dsimp only
    split
    · rename_i same
      rw [← address] at same
      refine Operation.yields_tryService.bind ?_
      intro answer s₁ heard
      obtain ⟨rfl, rfl⟩ := heard
      have gone := (unreliable.service (.delete userId) s.others).of_delete
      rw [← cleared_of_same inside taken same] at gone
      -- What the service answers makes a difference to the outcome only.
      rcases (k.service (.delete userId) s.others).1 with failure | (_ | _)
      · exact ⟨_, rfl, rfl, gone⟩
      · exact ⟨_, rfl, rfl, gone⟩
      · exact ⟨_, rfl, rfl, gone⟩
    · exact ⟨_, rfl, .refl s⟩

theorem yields_reconcileDeletion (account : Account) :
    (reconcileDeletion domain userId account).Yields k.answer s fun _ s' =>
      HalfWay held domain userId account.email s s' := by
  unfold reconcileDeletion
  split
  · rename_i inside
    refine Operation.yields_tryService.bind ?_
    intro answer s₁ heard
    obtain ⟨rfl, rfl⟩ := heard
    obtain ⟨same, truth⟩ := (unreliable.service (.get userId) s.others).of_get
    have looked : HalfWay held domain userId account.email s (s.hear ⟨.service (.get userId),
        (k.service (.get userId) s.others).1⟩ (k.service (.get userId) s.others).2) :=
      ⟨rfl, .inl same⟩
    cases answered : (k.service (.get userId) s.others).1 with
    | error failure => rw [answered] at looked; exact ⟨_, rfl, looked⟩
    | ok found =>
      rw [answered] at looked
      refine (unreliable.yields_deleteMailboxAt inside ?_).mono fun _ _ => looked.trans
      rw [Scene.hear_others, same]
      exact truth found answered
  · exact ⟨_, rfl, .refl s⟩

/-- A deletion that fails has come half-way. -/
theorem ends_deleteAccount_failed (found : s.table.findById userId id = some account) :
    (deleteAccount domain userId id).Ends k.answer s fun result s' =>
      isStorageFault result = true → HalfWay held domain userId account.email s s' := by
  refine (ends_requireAccount.and (unreliable.ends_held (asks_requireAccount ⟨_, rfl⟩))).bind ?_ ?_
  · intro a s₁ ends
    obtain ⟨⟨same, read⟩, kept⟩ := ends
    rw [found] at read
    cases read a rfl
    have looked : HalfWay held domain userId account.email s s₁ := ⟨same, .inl kept⟩
    refine (unreliable.yields_reconcileDeletion account).bind ?_
    intro outcome s₂ tidied
    have removal : (Operation.table (.delete userId id)).Ends k.answer s₂ fun _ s' =>
        held s'.others = held s₂.others := unreliable.ends_held (asks_table ⟨_, rfl⟩)
    refine ((ends_delete k s₂ userId id).and removal).bind ?_ ?_
    · exact fun _ _ _ => nofun
    · intro fault s₃ ends _
      obtain ⟨unwritten, kept⟩ := ends
      exact (looked.trans tidied).trans ⟨unwritten fault rfl, .inl kept⟩
  · exact fun fault s₁ ends _ => ⟨ends.1.1, .inl ends.2⟩

end Collaborators.Unreliable

/-! ## Any number of attempts -/

/-- From one scene to another by an operation that was performed any number of times and ended in a
storage fault each time. -/
inductive Collaborators.Failing (k : Collaborators σ) (op : Operation α) (start : Scene σ) :
    Scene σ → Prop where
  | untried : k.Failing op start start
  | again {s : Scene σ} (before : k.Failing op start s)
      (fails : isStorageFault (k.perform op s).1 = true) :
      k.Failing op start (k.perform op s).2

theorem Collaborators.Unreliable.halfWay_of_failing (unreliable : k.Unreliable domain held)
    (found : start.table.findById userId id = some account)
    (failing : k.Failing (deleteAccount domain userId id) start s) :
    HalfWay held domain userId account.email start s := by
  induction failing with
  | untried => exact .refl start
  | again before fails halfWay =>
    rw [← halfWay.table] at found
    exact halfWay.trans (unreliable.ends_deleteAccount_failed found fails)

/-! ## The attempt that nothing disturbs -/

namespace Collaborators.Reliable

variable (reliable : k.Reliable domain held)

include reliable

theorem answers_get (userId : String) (x : σ) :
    ∃ found : Option Mailbox, (k.service (.get userId) x).1 = .ok found := by
  cases there : held x userId with
  | none => exact ⟨none, (reliable.get_of_none there).1⟩
  | some h =>
    obtain ⟨mailbox, answered, -⟩ := reliable.get_of_some there
    exact ⟨some mailbox, answered⟩

theorem yields_deleteMailboxAt (inside : Address.inDomain email domain = true)
    {found : Option Mailbox}
    (truth : found.map Mailbox.email = (held s.others userId).map Holding.address) :
    (deleteMailboxAt userId email found).Yields k.answer s fun _ s' => s'.table = s.table ∧
      held s'.others = cleared domain userId email (held s.others) := by
  cases found with
  | none =>
    have free : held s.others userId = none := Option.map_eq_none_iff.1 truth.symm
    exact ⟨_, rfl, rfl, (cleared_of_none free).symm⟩
  | some mailbox =>
    obtain ⟨h, taken, address⟩ := Option.map_eq_some_iff.1 truth.symm
    unfold deleteMailboxAt
    dsimp only
    split
    · rename_i same
      rw [← address] at same
      obtain ⟨answered, gone⟩ := reliable.delete_of_some taken
      refine Operation.yields_tryService.bind ?_
      intro answer s₁ heard
      obtain ⟨rfl, rfl⟩ := heard
      rw [answered]
      exact ⟨_, rfl, rfl, gone.trans (cleared_of_same inside taken same).symm⟩
    · rename_i apart
      rw [← address, Bool.not_eq_true] at apart
      exact ⟨_, rfl, rfl, (cleared_of_apart taken apart).symm⟩

theorem yields_reconcileDeletion_cleared (account : Account) :
    (reconcileDeletion domain userId account).Yields k.answer s fun _ s' => s'.table = s.table ∧
      held s'.others = cleared domain userId account.email (held s.others) := by
  unfold reconcileDeletion
  split
  · rename_i inside
    obtain ⟨same, truth⟩ := (reliable.unreliable.service (.get userId) s.others).of_get
    obtain ⟨found, answered⟩ := reliable.answers_get userId s.others
    refine Operation.yields_tryService.bind ?_
    intro answer s₁ heard
    obtain ⟨rfl, rfl⟩ := heard
    rw [answered]
    refine (reliable.yields_deleteMailboxAt inside ?_).mono ?_
    · rw [Scene.hear_others, same]
      exact truth found answered
    · intro outcome s₂ ends
      rw [Scene.hear_table, Scene.hear_others, same] at ends
      exact ends
  · rename_i outside
    rw [Bool.not_eq_true] at outside
    exact ⟨_, rfl, rfl, (cleared_of_foreign outside).symm⟩

theorem yields_deleteAccount (found : s.table.findById userId id = some account) :
    (deleteAccount domain userId id).Yields k.answer s fun _ s' =>
      s'.table = s.table.delete userId id ∧
        held s'.others = cleared domain userId account.email (held s.others) := by
  have required : (Operation.requireAccount userId id).Yields k.answer s fun a s' =>
      a = account ∧ Quiet held s s' := by
    refine reliable.toSteady.yields_findById.bind ?_
    intro account? s₁ ends
    obtain ⟨read, quiet⟩ := ends
    rw [read, found]
    exact ⟨account, rfl, rfl, quiet⟩
  refine required.bind ?_
  intro a s₁ ends
  obtain ⟨rfl, quiet⟩ := ends
  refine (reliable.yields_reconcileDeletion_cleared a).bind ?_
  intro outcome s₂ ends
  obtain ⟨kept, tidied⟩ := ends
  refine reliable.toSteady.ends_statement.bind ?_ ?_
  · intro _ s₃ ends
    obtain ⟨-, removed, same, -⟩ := ends
    rw [kept, quiet.table] at removed
    rw [tidied, quiet.holdings] at same
    exact ⟨outcome, rfl, removed, same⟩
  · intro fault s₃ ends
    cases ends.1

end Collaborators.Reliable

/-! ## The outcome -/

/-- The row is gone, and with it the user's mailbox if it is in the domain and at the address of
the row. All other rows are as and where they were, and so are all other mailboxes. -/
structure Erased (held : σ → Holdings) (domain : String) (row : Row) (s s' : Scene σ) : Prop where
  rows : s.table.Loses row s'.table
  gone : ∀ r ∈ s'.table.rows, r.id ≠ row.id
  mailbox : ∀ h, held s.others row.entry.userId = some h →
    Address.inDomain h.address domain = true → Address.same h.address row.entry.email = true →
      held s'.others row.entry.userId = none
  elsewhere : ∀ h, held s.others row.entry.userId = some h →
    (Address.inDomain h.address domain && Address.same h.address row.entry.email) = false →
      held s'.others row.entry.userId = some h
  others : ∀ userId, userId ≠ row.entry.userId → held s'.others userId = held s.others userId

theorem erased_of_cleared {row : Row} (keyed : s.table.Keyed) (member : row ∈ s.table.rows)
    (removed : s'.table = s.table.delete row.entry.userId row.id)
    (tidied : held s'.others
      = cleared domain row.entry.userId row.entry.email (held s.others)) :
    Erased held domain row s s' where
  rows := by
    rw [removed]
    exact keyed.loses member
  gone := by
    intro r left same
    rw [removed, Table.mem_delete] at left
    obtain ⟨member', apart⟩ := left
    cases keyed.eq_of_id member' member same
    exact apart ⟨rfl, rfl⟩
  mailbox := by
    intro h taken inside same
    have place : Address.inDomain row.entry.email domain = true := by
      rw [← Address.inDomain_of_same same]
      exact inside
    rw [tidied, cleared_of_same place taken same, Function.update_self]
  elsewhere := by
    intro h taken apart
    have kept : ∀ h', held s.others row.entry.userId = some h' →
        (Address.inDomain row.entry.email domain
          && Address.same h'.address row.entry.email) = false := by
      intro h' taken'
      rw [taken] at taken'
      cases taken'
      cases same : Address.same h.address row.entry.email with
      | false => exact Bool.and_false _
      | true =>
        rw [same, Address.inDomain_of_same same] at apart
        exact apart
    rw [tidied, cleared_of_kept kept, taken]
  others := by
    intro userId other
    rw [tidied, cleared, Function.update_of_ne other]

/-- However often a deletion has failed because of the table, and wherever it had got to at the
service each time: once nothing fails it succeeds, and everything is as it would have been at the
first attempt. -/
theorem deleteAccount_retried (unreliable : k.Unreliable domain held)
    (reliable : later.Reliable domain held) {row : Row} (keyed : start.table.Keyed)
    (member : row ∈ start.table.rows)
    (failing : k.Failing (deleteAccount domain row.entry.userId row.id) start s) :
    (deleteAccount domain row.entry.userId row.id).Ends later.answer s fun result s' =>
      (∃ outcome, result = .ok outcome) ∧ Erased held domain row start s' := by
  have found := keyed.findById_of_mem member
  have halfWay := unreliable.halfWay_of_failing found failing
  rw [← halfWay.table] at found
  refine Dialogue.Ends.mono (reliable.yields_deleteAccount found) ?_
  intro result s' ends
  obtain ⟨outcome, ok, removed, tidied⟩ := ends
  rw [halfWay.table] at removed
  exact ⟨⟨outcome, ok⟩, erased_of_cleared keyed member removed
    (tidied.trans halfWay.cleared_eq)⟩

end Attempts

/-- A conforming service whose answers to deletions get lost, and a table that removes no row. -/
def jammed (domain : String) : Collaborators Holdings where
  tableFailure?
    | .delete .., held => (some (.database .poolTimedOut), held)
    | _, held => (none, held)
  service
    | .delete userId, held =>
      (.error ⟨none, "timed out"⟩, (exemplary domain (.delete userId) held).2)
    | c, held => exemplary domain c held
  encrypt plaintext held := (.ok plaintext, held)

theorem jammed_unreliable (domain : String) : (jammed domain).Unreliable domain id := by
  refine ⟨?_, fun _ _ => rfl, ?_⟩
  · intro c held
    cases c with
    | create userId localPart => exact .served (exemplary_serves domain _ held)
    | get userId => exact .served (exemplary_serves domain _ held)
    | delete userId => exact .lostAfter _ (exemplary_serves domain _ held)
    | resetPassword userId => exact .served (exemplary_serves domain _ held)
  · intro statement held
    cases statement <;> rfl

/-- The record of a user whose mailbox is there, under another spelling of the address. -/
def janesRow : Row :=
  ⟨⟨3⟩, ⟨"u1", "Jane", "jane@example.com", "password",
    ⟨"mail.example.com", 993, "tls", "jane", "?"⟩, ⟨"mail.example.com", 465, "tls", "jane", "?"⟩⟩⟩

def janesScene : Scene Holdings :=
  ⟨⟨[janesRow], 3⟩, fun _ => some ⟨"Jane@example.com", "first"⟩, []⟩

/-- The scene after two deletions of that record that the table has failed. -/
def janesJam : Scene Holdings :=
  (jammed "example.com").after "example.com" [.delete "u1" ⟨3⟩, .delete "u1" ⟨3⟩] janesScene

/-- The first deletion has taken the mailbox away, and yet a third one comes to its end. -/
theorem deleteAccount_retried_jammed :
    janesScene.table.Keyed ∧
      (jammed "example.com").Failing (deleteAccount "example.com" "u1" ⟨3⟩) janesScene janesJam ∧
      janesJam.others "u1" = none ∧ janesRow ∈ janesJam.table.rows ∧
      (deleteAccount "example.com" "u1" ⟨3⟩).Ends (calm "example.com").answer janesJam
        fun result s' => (∃ outcome, result = .ok outcome) ∧
          Erased id "example.com" janesRow janesScene s' := by
  have keyed : janesScene.table.Keyed := by decide
  have member : janesRow ∈ janesScene.table.rows := List.mem_singleton_self _
  have failing : (jammed "example.com").Failing (deleteAccount "example.com" "u1" ⟨3⟩) janesScene
      janesJam :=
    .again (.again .untried (by decide +kernel)) (by decide +kernel)
  have retried := deleteAccount_retried (jammed_unreliable _) (calm_reliable _) keyed member failing
  exact ⟨keyed, failing, by decide +kernel, by decide +kernel, retried⟩

end MailboxKeeper.Engine
