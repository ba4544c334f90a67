import MailboxKeeper.Cli.Machine
import MailboxKeeper.Proofs.Credential.MasterKey
import MailboxKeeper.Proofs.Dialogue
import Mathlib.Logic.Function.Basic

/-!
# The entries of a keyring

A keyring is one flat map, and two kinds of secrets share it. The names of their entries tell the
kinds and the scopes apart (`Kind.entry_inj`), so the keyring holds a map for each kind (`Holds`).
An entry is read, written or erased by a `Host`, with whom any access may fail; then nothing changes
in the keyring.
-/

namespace MailboxKeeper

namespace Keyring

/-- The keyring with another secret in one entry, or with none. -/
def Puts (ring : Keyring) (key : String) (secret : Option String) (ring' : Keyring) : Prop :=
  ∀ name, ring'.get? name = if key = name then secret.map Text.bytes else ring.get? name

theorem puts_write (ring : Keyring) (key secret : String) :
    ring.Puts key (some secret) (ring.write key secret) := by
  intro name
  split
  · rename_i same
    subst same
    exact NameMap.get?_put_self key _ ring
  · rename_i other
    exact NameMap.get?_put_of_ne (Ne.symm other) _ ring

theorem puts_erase (ring : Keyring) (key : String) :
    ring.Puts key none (NameMap.erase key ring) := by
  intro name
  split
  · rename_i same
    subst same
    exact NameMap.get?_erase_self key ring
  · rename_i other
    exact NameMap.get?_erase_of_ne (Ne.symm other) ring

/-- Where the secret is, it need not be put. -/
theorem puts_of_get? {ring : Keyring} {key : String} {secret : Option String}
    (there : ring.get? key = secret.map Text.bytes) : ring.Puts key secret ring := by
  intro name
  split
  · rename_i same
    rw [← same, there]
  · rfl

/-- The answer when an entry is to be erased, and the keyring after it. -/
def erasing (ring : Keyring) (key : String) : Except Error Unit × Keyring :=
  match ring.erase key with
  | .ok ring' => (.ok (), ring')
  | .error e => (.error e, ring)

/-- The entry is gone, and if it cannot be erased it was not there. -/
theorem puts_erasing (ring : Keyring) (key : String) :
    ((ring.erasing key).1 = .ok () ∨ (ring.erasing key).1 = .error .noEntry) ∧
      ring.Puts key none (ring.erasing key).2 := by
  cases there : ring.get? key with
  | none =>
    have unchanged : ring.erasing key = (.error .noEntry, ring) := by
      rw [erasing, erase, there]
    rw [unchanged]
    exact ⟨.inr rfl, puts_of_get? there⟩
  | some secret =>
    have erased : ring.erasing key = (.ok (), NameMap.erase key ring) := by
      rw [erasing, erase, there]
    rw [erased]
    exact ⟨.inl rfl, ring.puts_erase key⟩

end Keyring

namespace Credential.Keychain

/-! ## The maps -/

/-- The kinds of secrets. -/
inductive Kind where
  | masterKey
  | apiPassword
  deriving DecidableEq

/-- The name of the entry with the secret of a kind and a scope. -/
def Kind.entry : Kind → String → String
  | masterKey => masterKeyEntry
  | apiPassword => passwordEntry

/-- A map from scopes for each kind. -/
abbrev Secrets := Kind → String → Option String

variable {kind kind' : Kind} {scope scope' : String} {ring ring' : Keyring} {secrets : Secrets}
  {secret : Option String}

/-- The names of the two kinds differ in their tenth letter. -/
theorem masterKeyEntry_ne_passwordEntry (profile provider : String) :
    masterKeyEntry profile ≠ passwordEntry provider := by
  intro same
  have left :
      (masterKeyEntry profile).toList = (service ++ "_master_key_").toList ++ profile.toList :=
    String.toList_append
  have right :
      (passwordEntry provider).toList = (service ++ "_api_password_").toList ++ provider.toList :=
    String.toList_append
  have tenth : (masterKeyEntry profile).toList[9]? = (passwordEntry provider).toList[9]? := by
    rw [same]
  rw [left, right, List.getElem?_append_left (by decide), List.getElem?_append_left (by decide)]
    at tenth
  exact absurd tenth (by decide)

/-- Whatever the scopes are, no two entries have one name. -/
theorem Kind.entry_inj :
    kind.entry scope = kind'.entry scope' ↔ kind = kind' ∧ scope = scope' := by
  cases kind with
  | masterKey =>
    cases kind' with
    | masterKey => exact (String.append_right_inj _).trans (and_iff_right rfl).symm
    | apiPassword => exact iff_of_false (masterKeyEntry_ne_passwordEntry _ _) nofun
  | apiPassword =>
    cases kind' with
    | masterKey => exact iff_of_false (masterKeyEntry_ne_passwordEntry _ _).symm nofun
    | apiPassword => exact (String.append_right_inj _).trans (and_iff_right rfl).symm

/-- The maps with another secret of a kind and a scope, or with none. -/
def Secrets.set (secrets : Secrets) (kind : Kind) (scope : String) (secret : Option String) :
    Secrets :=
  Function.update secrets kind (Function.update (secrets kind) scope secret)

theorem Secrets.set_apply :
    secrets.set kind scope secret kind' scope'
      = if kind = kind' ∧ scope = scope' then secret else secrets kind' scope' := by
  unfold Secrets.set
  by_cases same : kind' = kind
  · subst same
    rw [Function.update_self, Function.update_apply]
    simp only [true_and, eq_comm]
  · rw [Function.update_of_ne same, if_neg fun both => same both.1.symm]

/-- The secrets are those in the keyring. -/
def Holds (ring : Keyring) (secrets : Secrets) : Prop :=
  ∀ kind scope, ring.get? (kind.entry scope) = (secrets kind scope).map Text.bytes

theorem Holds.puts (holds : Holds ring secrets) (puts : ring.Puts (kind.entry scope) secret ring') :
    Holds ring' (secrets.set kind scope secret) := by
  intro kind' scope'
  rw [puts, Secrets.set_apply, holds]
  simp only [Kind.entry_inj]
  split <;> rfl

theorem Holds.puts_self (holds : Holds ring secrets) (kind : Kind) (scope : String) :
    ring.Puts (kind.entry scope) (secrets kind scope) ring :=
  Keyring.puts_of_get? (holds kind scope)

theorem Holds.read (holds : Holds ring secrets) (kind : Kind) (scope : String) :
    ring.read (kind.entry scope) = (secrets kind scope).elim (.error .noEntry) .ok := by
  rw [Keyring.read, holds]
  cases secrets kind scope with
  | none => rfl
  | some text =>
    dsimp only [Option.map_some, Option.elim_some]
    rw [Text.decode?_bytes]

/-! ## The host -/

/-- Who answers for the keyring, from a state of its own: any access may fail, and random bytes may
be any. -/
structure Host (σ : Type) where
  failure? : Access → σ → Option Keyring.Error × σ
  randomBytes : Nat → σ → List UInt8 × σ

/-- The keyring, and the state of the host. -/
structure Scene (σ : Type) where
  ring : Keyring
  others : σ

section

variable {σ : Type} {host : Host σ} {s s' : Scene σ}

namespace Host

/-- An access to the keyring, which changes nothing when it fails. -/
def attempt {α : Type} (host : Host σ) (a : Access)
    (act : Keyring → Except Keyring.Error α × Keyring) :
    StateM (Scene σ) (Except Keyring.Error α) := fun s =>
  match host.failure? a s.others with
  | (some e, others) => (.error e, { s with others })
  | (none, others) => ((act s.ring).1, ⟨(act s.ring).2, others⟩)

def answer (host : Host σ) : (a : Access) → StateM (Scene σ) a.Answer
  | .openEntry key => host.attempt (.openEntry key) fun ring => (.ok (), ring)
  | .read key => host.attempt (.read key) fun ring => (ring.read key, ring)
  | .write key secret =>
    host.attempt (.write key secret) fun ring => (.ok (), ring.write key secret)
  | .erase key => host.attempt (.erase key) fun ring => ring.erasing key
  | .randomBytes count => fun s =>
    ((host.randomBytes count s.others).1,
      { s with others := (host.randomBytes count s.others).2 })

/-- That there is no entry is said of entries that are not there, and not as a failure. -/
structure Honest (host : Host σ) : Prop where
  read : ∀ key x, (host.failure? (.read key) x).1 ≠ some .noEntry
  erase : ∀ key x, (host.failure? (.erase key) x).1 ≠ some .noEntry

theorem attempt_cases {α : Type} (host : Host σ) (s : Scene σ) (a : Access)
    (act : Keyring → Except Keyring.Error α × Keyring) :
    (∃ e others, (host.failure? a s.others).1 = some e ∧
        host.attempt a act s = (.error e, ⟨s.ring, others⟩)) ∨
      ∃ others, host.attempt a act s = ((act s.ring).1, ⟨(act s.ring).2, others⟩) := by
  unfold attempt
  cases host.failure? a s.others with
  | mk failure others =>
    cases failure with
    | some e => exact .inl ⟨e, others, rfl, rfl⟩
    | none => exact .inr ⟨others, rfl⟩

end Host

/-- An access that may fail has failed, and this is the error. -/
def Host.Blames (host : Host σ) (e : Error) : Prop :=
  ∃ a x failure, (host.failure? a x).1 = some failure ∧ e = .keyring failure

theorem Host.blames {a : Access} {x : σ} {failure : Keyring.Error}
    (failed : (host.failure? a x).1 = some failure) : host.Blames (.keyring failure) :=
  ⟨a, x, failure, failed, rfl⟩

/-! ## Entries -/

/-- An operation has failed because an access has, and changed nothing in the keyring, or it has
done what it was to do. -/
def Host.AllOrNothing {α : Type} (host : Host σ) (good : α → Keyring → Prop) (ring : Keyring)
    (result : Except Error α) (ring' : Keyring) : Prop :=
  (∃ e, result = .error e ∧ host.Blames e ∧ ring' = ring) ∨
    ∃ value, result = .ok value ∧ good value ring'

theorem ends_openEntry (key : String) :
    (openEntry key).Ends host.answer s fun result s' =>
      host.AllOrNothing (fun _ ring => ring = s.ring) s.ring result s'.ring := by
  rcases host.attempt_cases s (.openEntry key) fun ring => (.ok (), ring) with
    ⟨e, others, failed, answered⟩ | ⟨others, answered⟩
  · exact Dialogue.Ends.ask answered (.inl ⟨_, rfl, Host.blames failed, rfl⟩)
  · exact Dialogue.Ends.ask answered (.inr ⟨_, rfl, rfl⟩)

/-- An entry is opened, and then used. -/
theorem ends_opened {α : Type} {key : String} {use : Operation α} {good : α → Keyring → Prop}
    (used : ∀ s' : Scene σ, s'.ring = s.ring → use.Ends host.answer s' fun result s'' =>
      host.AllOrNothing good s.ring result s''.ring) :
    (openEntry key >>= fun _ => use).Ends host.answer s fun result s' =>
      host.AllOrNothing good s.ring result s'.ring := by
  refine (ends_openEntry key).bind ?_ ?_
  · rintro _ s' (⟨e, failed, -⟩ | ⟨_, -, same⟩)
    · cases failed
    · exact used s' same
  · rintro e s' (⟨e', failed, why, same⟩ | ⟨_, opened, -⟩)
    · cases failed
      exact .inl ⟨e, rfl, why, same⟩
    · cases opened

/-- What is read is the secret of the entry, and none only if there is none. -/
theorem ends_readEntry (honest : host.Honest) (holds : Holds s.ring secrets) (kind : Kind)
    (scope : String) :
    (readEntry (kind.entry scope)).Ends host.answer s fun result s' =>
      host.AllOrNothing (fun found ring => ring = s.ring ∧ found = secrets kind scope) s.ring
        result s'.ring := by
  refine ends_opened ?_
  intro s₁ same
  rw [← same] at holds ⊢
  rcases host.attempt_cases s₁ (.read (kind.entry scope)) fun ring =>
    (ring.read (kind.entry scope), ring) with ⟨e, others, failed, answered⟩ | ⟨others, answered⟩
  · refine Dialogue.Ends.ask answered ?_
    cases e with
    | noEntry => exact absurd failed (honest.read _ _)
    | _ => exact .inl ⟨_, rfl, Host.blames failed, rfl⟩
  · refine Dialogue.Ends.ask answered ?_
    dsimp only
    rw [holds.read]
    cases secrets kind scope with
    | none | some text => exact .inr ⟨_, rfl, rfl, rfl⟩

theorem ends_writeEntry (key secret : String) :
    (writeEntry key secret).Ends host.answer s fun result s' =>
      host.AllOrNothing (fun _ ring => s.ring.Puts key (some secret) ring) s.ring result
        s'.ring := by
  refine ends_opened ?_
  intro s₁ same
  rw [← same]
  rcases host.attempt_cases s₁ (.write key secret) fun ring => (.ok (), ring.write key secret) with
    ⟨e, others, failed, answered⟩ | ⟨others, answered⟩
  · exact Dialogue.Ends.ask answered (.inl ⟨_, rfl, Host.blames failed, rfl⟩)
  · exact Dialogue.Ends.ask answered (.inr ⟨_, rfl, s₁.ring.puts_write key secret⟩)

theorem ends_eraseEntry (honest : host.Honest) (key : String) :
    (eraseEntry key).Ends host.answer s fun result s' =>
      host.AllOrNothing (fun _ ring => s.ring.Puts key none ring) s.ring result
        s'.ring := by
  refine ends_opened ?_
  intro s₁ same
  rw [← same]
  rcases host.attempt_cases s₁ (.erase key) fun ring => ring.erasing key with
    ⟨e, others, failed, answered⟩ | ⟨others, answered⟩
  · refine Dialogue.Ends.ask answered ?_
    cases e with
    | noEntry => exact absurd failed (honest.erase _ _)
    | _ => exact .inl ⟨_, rfl, Host.blames failed, rfl⟩
  · refine Dialogue.Ends.ask answered ?_
    obtain ⟨gone | absent, puts⟩ := s₁.ring.puts_erasing key
    · rw [gone]
      exact .inr ⟨_, rfl, puts⟩
    · rw [absent]
      exact .inr ⟨_, rfl, puts⟩

end

/-! ## The keyring of a machine -/

/-- The keyring of a machine is out of reach, or not. -/
def machineHost : Host Cli.Machine where
  failure? _ machine := (machine.keyringFailure, machine)
  randomBytes count machine :=
    (machine.source.peek count, { machine with source := machine.source.skip count })

/-- A machine answers for its keyring as that host does. -/
theorem access_eq_answer (machine : Cli.Machine) (a : Access) :
    machine.access a = ((machineHost.answer a ⟨machine.keyring, machine⟩).1,
      { (machineHost.answer a ⟨machine.keyring, machine⟩).2.others with
        keyring := (machineHost.answer a ⟨machine.keyring, machine⟩).2.ring }) := by
  obtain ⟨disk, directory, keyring, failure, source, input, network, requests, database⟩ := machine
  cases a with
  | randomBytes count => rfl
  | openEntry key | read key | write key secret => cases failure <;> rfl
  | erase key =>
    cases failure with
    | some e => rfl
    | none =>
      simp only [Cli.Machine.access, Host.answer, Host.attempt, machineHost, Keyring.erasing]
      cases erased : keyring.erase key with
      | ok ring => rfl
      | error e => rfl

end Credential.Keychain

end MailboxKeeper
