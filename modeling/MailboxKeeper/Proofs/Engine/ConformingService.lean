import MailboxKeeper.Proofs.Engine.Steady
import Mathlib.Logic.Function.Basic

/-!
# A conforming provisioning service

A conforming service holds at most one mailbox for a user. `Serves` says how it answers a call and
what it holds afterwards; over a bad connection a call may fail as well, before or after it has
taken effect (`MayServe`). Collaborators are unreliable if any of them may fail at any time, and
reliable if none ever does. Unless it is asked to delete, even an unreliable service only comes to
hold more mailboxes, and never moves one (`Grows`).
-/

namespace MailboxKeeper.Engine

open AccountRequest

/-- What the service holds for a user: the address of the mailbox and its current password. -/
structure Holding where
  address : String
  password : String
  deriving DecidableEq, Repr

/-- What the service holds for each user. -/
abbrev Holdings := String → Option Holding

/-- Which passwords a description of a mailbox names: this one at most. -/
def Discloses (mailbox : Mailbox) (password : String) : Prop :=
  (∀ p, mailbox.imap.password = some p → p = password) ∧
    ∀ p, mailbox.smtp.password = some p → p = password

/-- How the service answers a call, and what it holds before and after. -/
inductive Serves (domain : String) (held : Holdings) :
    (c : Provisioning.Call) → c.Answer → Holdings → Prop where
  | created {userId localPart password : String} {mailbox : Mailbox} (free : held userId = none)
      (address : mailbox.email = Address.ofParts localPart domain)
      (disclosed : Discloses mailbox password) :
      Serves domain held (.create userId localPart) (.ok mailbox)
        (Function.update held userId (some ⟨Address.ofParts localPart domain, password⟩))
  | refused {userId localPart : String} {h : Holding} {failure : Provisioning.Failure}
      (taken : held userId = some h) (conflict : failure.code = some 409) :
      Serves domain held (.create userId localPart) (.error failure) held
  | shown {userId : String} {h : Holding} {mailbox : Mailbox} (taken : held userId = some h)
      (address : mailbox.email = h.address) (imap : mailbox.imap.password = none)
      (smtp : mailbox.smtp.password = none) :
      Serves domain held (.get userId) (.ok (some mailbox)) held
  | absent {userId : String} (free : held userId = none) :
      Serves domain held (.get userId) (.ok none) held
  | reset {userId password : String} {h : Holding} (taken : held userId = some h) :
      Serves domain held (.resetPassword userId) (.ok password)
        (Function.update held userId (some ⟨h.address, password⟩))
  | unknown {userId : String} {failure : Provisioning.Failure} (free : held userId = none) :
      Serves domain held (.resetPassword userId) (.error failure) held
  | deleted {userId : String} {h : Holding} (taken : held userId = some h) :
      Serves domain held (.delete userId) (.ok true) (Function.update held userId none)
  | missing {userId : String} {answer : Provisioning.Call.Answer (.delete userId)}
      (free : held userId = none) : Serves domain held (.delete userId) answer held

/-- The same over a connection that may fail, with any failure, before the service has heard the
call or after it has done what it was called for. -/
inductive MayServe (domain : String) (held : Holdings) (c : Provisioning.Call) :
    c.Answer → Holdings → Prop where
  | served {answer : c.Answer} {after : Holdings} (serves : Serves domain held c answer after) :
      MayServe domain held c answer after
  | lostBefore (failure : Provisioning.Failure) : MayServe domain held c (.error failure) held
  | lostAfter {answer : c.Answer} {after : Holdings} (failure : Provisioning.Failure)
      (serves : Serves domain held c answer after) : MayServe domain held c (.error failure) after

variable {σ α : Type} {domain : String} {held : σ → Holdings} {k : Collaborators σ} {s : Scene σ}
variable {op : Operation α}

/-- A conforming service over a bad connection, a table and an encryption that fail at times. What
the service holds is told by the state that the collaborators share. -/
structure Collaborators.Unreliable (k : Collaborators σ) (domain : String) (held : σ → Holdings) :
    Prop where
  service : ∀ c x, MayServe domain (held x) c (k.service c x).1 (held (k.service c x).2)
  encrypt : ∀ p x, held (k.encrypt p x).2 = held x
  table : ∀ st x, held (k.tableFailure? st x).2 = held x

/-- A conforming service, a table and an encryption that never fail. -/
structure Collaborators.Reliable (k : Collaborators σ) (domain : String) (held : σ → Holdings) :
    Prop extends k.Steady held where
  service : ∀ c x, Serves domain (held x) c (k.service c x).1 (held (k.service c x).2)

theorem Collaborators.Reliable.unreliable (reliable : k.Reliable domain held) :
    k.Unreliable domain held :=
  ⟨fun c x => .served (reliable.service c x), fun p x => (reliable.encrypt p x).2,
    fun st x => (reliable.table st x).2⟩

/-! ## A service that conforms -/

/-- A mailbox as a service describes it that keeps mail on one host. -/
def mailboxAt (address : String) (password : Option String) : Mailbox :=
  ⟨address, ⟨"mail.example.com", 993, .tls, address, password⟩,
    ⟨"mail.example.com", 465, .tls, address, password⟩⟩

/-- A conforming service; its state is what it holds. -/
def exemplary (domain : String) : (c : Provisioning.Call) → Holdings → c.Answer × Holdings
  | .create userId localPart, held =>
    match held userId with
    | some _ => (.error ⟨some 409, "mailbox exists"⟩, held)
    | none =>
      (.ok (mailboxAt (Address.ofParts localPart domain) (some "first")),
        Function.update held userId (some ⟨Address.ofParts localPart domain, "first"⟩))
  | .get userId, held => (.ok ((held userId).map fun h => mailboxAt h.address none), held)
  | .delete userId, held => (.ok (held userId).isSome, Function.update held userId none)
  | .resetPassword userId, held =>
    match held userId with
    | some h => (.ok (h.password ++ "+"),
        Function.update held userId (some ⟨h.address, h.password ++ "+"⟩))
    | none => (.error ⟨some 404, "no mailbox"⟩, held)

theorem exemplary_serves (domain : String) (c : Provisioning.Call) (held : Holdings) :
    Serves domain held c (exemplary domain c held).1 (exemplary domain c held).2 := by
  cases c with
  | create userId localPart =>
    cases there : held userId with
    | none =>
      simp only [exemplary, there]
      refine .created there rfl ⟨?_, ?_⟩
      · exact fun p named => (Option.some.inj named).symm
      · exact fun p named => (Option.some.inj named).symm
    | some h => simp only [exemplary, there]; exact .refused there rfl
  | get userId =>
    cases there : held userId with
    | none => simp only [exemplary, there]; exact .absent there
    | some h => simp only [exemplary, there]; exact .shown there rfl rfl rfl
  | delete userId =>
    cases there : held userId with
    | none =>
      have same : Function.update held userId none = held := by
        rw [← there, Function.update_eq_self]
      simp only [exemplary, there, same]
      exact .missing there
    | some h => simp only [exemplary, there]; exact .deleted there
  | resetPassword userId =>
    cases there : held userId with
    | none => simp only [exemplary, there]; exact .unknown there
    | some h => simp only [exemplary, there]; exact .reset there

/-- That service, a table that does not fail, and an encryption that only marks what it is given. -/
def calm (domain : String) : Collaborators Holdings where
  tableFailure? _ held := (none, held)
  service := exemplary domain
  encrypt plaintext held := (.ok ("enc:" ++ plaintext), held)

theorem calm_reliable (domain : String) : (calm domain).Reliable domain id :=
  ⟨⟨fun _ _ => ⟨rfl, rfl⟩, fun _ _ => ⟨⟨_, rfl⟩, rfl⟩⟩, exemplary_serves domain⟩

/-- The same service, but no answer to a creation gets through and nothing can be encrypted. -/
def stormy (domain : String) : Collaborators Holdings where
  tableFailure? _ held := (none, held)
  service
    | .create userId localPart, held =>
      (.error ⟨none, "timed out"⟩, (exemplary domain (.create userId localPart) held).2)
    | c, held => exemplary domain c held
  encrypt _ held := (.error (.encryption "no key"), held)

theorem stormy_unreliable (domain : String) : (stormy domain).Unreliable domain id := by
  refine ⟨?_, fun _ _ => rfl, fun _ _ => rfl⟩
  intro c held
  cases c with
  | create userId localPart => exact .lostAfter _ (exemplary_serves domain _ held)
  | get userId => exact .served (exemplary_serves domain _ held)
  | delete userId => exact .served (exemplary_serves domain _ held)
  | resetPassword userId => exact .served (exemplary_serves domain _ held)

/-! ## What the service comes to hold -/

/-- No mailbox is lost or moved, and new ones are at addresses that can be asked for. -/
structure Grows (domain : String) (before after : Holdings) : Prop where
  kept : ∀ u h, before u = some h → ∃ h', after u = some h' ∧ h'.address = h.address
  new : ∀ u h', after u = some h' → (∃ h, before u = some h ∧ h'.address = h.address) ∨
    ∃ l, localPartViolation? l = none ∧ h'.address = Address.ofParts l domain

theorem Grows.refl (held : Holdings) : Grows domain held held :=
  ⟨fun _ h taken => ⟨h, taken, rfl⟩, fun _ h taken => .inl ⟨h, taken, rfl⟩⟩

theorem Grows.trans {before middle after : Holdings} (first : Grows domain before middle)
    (second : Grows domain middle after) : Grows domain before after := by
  constructor
  · intro u h taken
    obtain ⟨h', taken', same⟩ := first.kept u h taken
    obtain ⟨h'', taken'', same'⟩ := second.kept u h' taken'
    exact ⟨h'', taken'', same'.trans same⟩
  · intro u h'' taken''
    rcases second.new u h'' taken'' with ⟨h', taken', same'⟩ | requested
    · rcases first.new u h' taken' with ⟨h, taken, same⟩ | ⟨l, valid, requested⟩
      · exact .inl ⟨h, taken, same'.trans same⟩
      · exact .inr ⟨l, valid, same'.trans requested⟩
    · exact .inr requested

/-- One mailbox more, or the same mailbox with another password. -/
theorem Grows.update {held : Holdings} {u : String} {h' : Holding}
    (old : ∀ h, held u = some h → h'.address = h.address)
    (new : held u = none →
      ∃ l, localPartViolation? l = none ∧ h'.address = Address.ofParts l domain) :
    Grows domain held (Function.update held u (some h')) := by
  constructor
  · intro v h taken
    by_cases same : v = u
    · subst same
      exact ⟨h', Function.update_self .., old h taken⟩
    · exact ⟨h, by rw [Function.update_of_ne same, taken], rfl⟩
  · intro v h taken
    by_cases same : v = u
    · subst same
      rw [Function.update_self] at taken
      cases taken
      cases before : held v with
      | none => exact .inr (new before)
      | some h => exact .inl ⟨h, rfl, old h before⟩
    · rw [Function.update_of_ne same] at taken
      exact .inl ⟨h, taken, rfl⟩

/-- Does the call make the service hold more, if anything, and that at an address that can be
asked for? -/
def Call.Expands : Call → Prop
  | .service (.create _ localPart) => localPartViolation? localPart = none
  | .service (.delete _) => False
  | _ => True

theorem Serves.grows {held after : Holdings} {c : Provisioning.Call} {answer : c.Answer}
    (serves : Serves domain held c answer after) (expands : (Call.service c).Expands) :
    Grows domain held after := by
  cases serves with
  | created free =>
    refine .update ?_ fun _ => ⟨_, expands, rfl⟩
    intro h taken
    rw [free] at taken
    cases taken
  | reset taken =>
    refine .update ?_ ?_
    · intro h same
      rw [taken] at same
      cases same
      rfl
    · intro free
      rw [taken] at free
      cases free
  | deleted | missing => exact absurd expands id
  | refused | shown | absent | unknown => exact .refl _

theorem MayServe.grows {held after : Holdings} {c : Provisioning.Call} {answer : c.Answer}
    (may : MayServe domain held c answer after) (expands : (Call.service c).Expands) :
    Grows domain held after := by
  cases may with
  | served serves => exact serves.grows expands
  | lostBefore failure => exact .refl _
  | lostAfter failure serves => exact serves.grows expands

/-- A statement does not concern the service, be it carried out or not. -/
theorem Collaborators.Unreliable.held_statement (unreliable : k.Unreliable domain held)
    (statement : Store.Statement) (s : Scene σ) :
    held (StateT.run (k.answer (.table statement)) s).2.others = held s.others := by
  have failing := unreliable.table statement s.others
  show held (k.answer (.table statement) s).2.others = _
  rcases k.answer_table_cases s statement with ⟨e, others, fails, said⟩ | ⟨others, works, said⟩
  · rw [fails] at failing
    rw [said]
    exact failing
  · rw [works] at failing
    rw [said]
    exact failing

theorem Collaborators.Unreliable.ends_grows (unreliable : k.Unreliable domain held)
    (asks : op.Asks Call.Expands) :
    op.Ends k.answer s fun _ s' => Grows domain (held s.others) (held s'.others) := by
  refine asks.runFrom (R := fun s s' : Scene σ => Grows domain (held s.others) (held s'.others))
    (fun _ => .refl _) .trans ?_ s
  intro c s expands
  cases c with
  | service c => exact (unreliable.service c s.others).grows expands
  | table statement => rw [unreliable.held_statement]; exact .refl _
  | encrypt p =>
    show Grows domain (held s.others) (held (k.encrypt p s.others).2)
    rw [unreliable.encrypt]
    exact .refl _

end MailboxKeeper.Engine
