import MailboxKeeper.Proofs.Address.Domain
import MailboxKeeper.Proofs.Engine.AddressMismatch
import MailboxKeeper.Proofs.Engine.Atomicity
import MailboxKeeper.Proofs.Engine.Faults
import MailboxKeeper.Proofs.Provisioning.RepeatedRequest

/-!
# Accounts that can be managed

An account is made at an address under the provisioning domain, and it is turned away later if its
address lies outside that domain. Since an id that was given out names one row or none, and the row
keeps its address whatever is asked for (`Placed.after`), the address decides once and for all
whether the account can be managed (`Placed.manageable_iff`). But the address is made with the
domain as it is configured, and is compared with what is left of the domain when the blanks around
it are gone: under a domain that begins with a blank, or has an `@` in it, no new account can be
managed (`createOrUpdate_manageable_iff`).
-/

namespace MailboxKeeper.Engine

open AccountRequest Provisioning Store

variable {σ τ α : Type} {view : σ → τ} {k : Collaborators σ} {s : Scene σ} {t t' : Table}
variable {turns : List Turn} {domain userId localPart displayName email : String} {id : AccountId}
variable {account a b : Account}

/-! ## What becomes of a row -/

/-- What a request does to the table: it writes the account of a row back, writes a new account,
removes a row, or does nothing. -/
inductive Change (t : Table) : Table → Prop where
  | unchanged : Change t t
  | renewed {r : Row} {a b : Account} {t' : Table} (member : r ∈ t.rows) (named : a.id = some r.id)
      (email : a.email = r.entry.email) (wrote : t.write a = .ok (b, t')) : Change t t'
  | added {a b : Account} {t' : Table} (unsaved : a.id = none) (wrote : t.write a = .ok (b, t')) :
      Change t t'
  | removed (userId : String) (id : AccountId) : Change t (t.delete userId id)

namespace Course

theorem Creation.change {result : Except Fault Account}
    (creation : Creation domain userId localPart displayName t turns result t') : Change t t' := by
  cases creation with
  | unread | retreated => exact .unchanged
  | @approached found _ _ mailbox _ _ lookup approach persistence =>
    rcases persistence.table with ⟨fault, -, rfl⟩ | ⟨inbound, outbound, written, -, wrote⟩
    · exact .unchanged
    · cases found with
      | none => exact .added rfl wrote
      | some account =>
        obtain ⟨r, member, -, rfl⟩ := Table.of_findByAddress_eq_some lookup
        exact .renewed member rfl rfl wrote

theorem PasswordReset.change {result : Except Fault Account}
    (reset : PasswordReset domain userId id t turns result t') : Change t t' := by
  cases reset with
  | unread | unknown | foreign | refused => exact .unchanged
  | issued lookup inside password recording =>
    rcases recording.table with ⟨fault, -, rfl⟩ | ⟨inbound, outbound, written, -, wrote⟩
    · exact .unchanged
    · obtain ⟨r, member, -, -, rfl⟩ := Table.of_findById_eq_some lookup
      exact .renewed member rfl rfl wrote

theorem Deletion.change {result : Except Fault DeletionOutcome}
    (deletion : Deletion domain userId id t turns result t') : Change t t' := by
  cases deletion with
  | unread | unknown | refused => exact .unchanged
  | deleted => exact .removed userId id

end Course

theorem Request.change (q : Request) {result : Except Fault q.Result}
    (takes : Takes (q.operation domain) t turns result t') : Change t t' := by
  cases q with
  | create userId localPart displayName =>
    by_cases valid : violations userId localPart displayName = []
    · exact (creation_of_takes valid takes).change
    · obtain ⟨-, rfl, -⟩ := of_takes_of_violations valid takes
      exact .unchanged
  | resolve userId localPart =>
    rw [Takes.of_resolveChecked takes]
    exact .unchanged
  | resetPassword userId id => exact (passwordReset_of_takes takes).change
  | delete userId id => exact (deletion_of_takes takes).change

/-- The id was given out in a sound table, and its row, if there still is one, is at the address. -/
structure Placed (id : AccountId) (email : String) (t : Table) : Prop where
  sound : t.Sound
  given : id.value ≤ t.lastId
  row : ∀ r ∈ t.rows, r.id = id → r.entry.email = email

namespace Placed

/-- A write that has this id keeps the address; a new row gets another id. -/
theorem write (placed : Placed id email t) (wrote : t.write a = .ok (b, t'))
    (kept : a.id = some id → a.email = email) : Placed id email t' := by
  unfold Table.write at wrote
  split at wrote
  · obtain ⟨other, named, -, rfl, -, free⟩ := Table.of_update_eq_ok wrote
    refine ⟨placed.sound.replace free, placed.given, ?_⟩
    intro r member same
    rcases Table.mem_replace.1 member with ⟨rfl, -⟩ | ⟨old, -⟩
    · exact kept (named.trans (congrArg some same))
    · exact placed.row r old same
  · obtain ⟨other, next, -, rfl, free⟩ := placed.sound.of_save_eq_ok wrote
    have beyond := Table.of_nextId?_eq_some next
    have later : id.value < other.value := Int64.lt_of_le_of_lt placed.given beyond
    refine ⟨placed.sound.append beyond free, Int64.le_of_lt later, ?_⟩
    intro r member same
    rcases Table.mem_append.1 member with old | rfl
    · exact placed.row r old same
    · cases same
      exact absurd later Int64.lt_irrefl

theorem change (placed : Placed id email t) (change : Change t t') : Placed id email t' := by
  cases change with
  | unchanged => exact placed
  | @renewed r _ _ _ member named address wrote =>
    refine placed.write wrote ?_
    intro same
    rw [named] at same
    exact address.trans (placed.row r member (Option.some.inj same))
  | added unsaved wrote =>
    refine placed.write wrote ?_
    intro same
    rw [unsaved] at same
    cases same
  | removed userId other =>
    exact ⟨placed.sound.delete, placed.given,
      fun r member => placed.row r (Table.mem_delete.1 member).1⟩

/-- Whatever was asked for, the row is where it was, or gone. -/
theorem after (placed : Placed id email s.table) (k : Collaborators σ) (domain : String)
    (requests : List Request) : Placed id email (k.after domain requests s).table := by
  refine Collaborators.after_induction (motive := fun s => Placed id email s.table) placed ?_
  intro q _ s placed
  obtain ⟨turns, -, takes⟩ := k.takes (q.operation domain) s
  exact placed.change (q.change takes)

end Placed

/-! ## The guards -/

namespace Placed

/-- Only an account outside the domain is deleted as a foreign one. -/
theorem of_foreignDomain (placed : Placed id email t)
    (deletion : Course.Deletion domain userId id t turns (.ok .foreignDomain) t') :
    Address.inDomain email domain = false := by
  cases deletion with
  | deleted lookup cleanup =>
    cases cleanup with
    | foreign outside =>
      obtain ⟨r, member, same, -, rfl⟩ := Table.of_findById_eq_some lookup
      rw [← placed.row r member same]
      exact outside

/-- Only to an account outside the domain a new password is denied as invalid. -/
theorem of_validation (placed : Placed id email t) {fault : Fault}
    (reset : Course.PasswordReset domain userId id t turns (.error fault) t')
    (invalid : fault.kind = .validation) : Address.inDomain email domain = false := by
  cases reset with
  | unread e => exact absurd invalid (kind_toFault_ne_validation e)
  | unknown => cases invalid
  | foreign lookup outside =>
    obtain ⟨r, member, same, -, rfl⟩ := Table.of_findById_eq_some lookup
    rw [← placed.row r member same]
    exact outside
  | refused => cases invalid
  | issued lookup inside password recording =>
    exact absurd invalid recording.kind_ne_validation

end Placed

/-- Whoever answers, and whatever was asked in between, the account is never deleted as one of a
foreign domain, and a new password is never denied to it as to one that is not managed. -/
structure Manageable (domain userId : String) (id : AccountId) (t : Table) : Prop where
  deletable : ∀ {σ : Type} (k : Collaborators σ) (requests : List Request) (s : Scene σ),
    s.table = t → (k.perform (deleteAccount domain userId id) (k.after domain requests s)).1
      ≠ .ok .foreignDomain
  resettable : ∀ {σ : Type} (k : Collaborators σ) (requests : List Request) (s : Scene σ)
    (email : String), s.table = t →
      (k.perform (resetAccountPassword domain userId id) (k.after domain requests s)).1
        ≠ .error (Fault.notManaged email)

/-- When nothing fails, an account outside the domain is deleted as a foreign one. -/
theorem Collaborators.Steady.yields_foreignDomain (steady : k.Steady view)
    (found : s.table.findById userId id = some account)
    (outside : Address.inDomain account.email domain = false) :
    (deleteAccount domain userId id).Yields k.answer s fun outcome _ =>
      outcome = .foreignDomain := by
  have required : (Operation.requireAccount userId id).Yields k.answer s
      fun a _ => a = account := by
    refine steady.yields_findById.bind ?_
    intro account? s₁ ends
    rw [ends.1, found]
    exact ⟨account, rfl, rfl⟩
  have foreign : reconcileDeletion domain userId account = .done .foreignDomain :=
    if_neg (by rw [outside]; exact Bool.false_ne_true)
  refine required.bind ?_
  intro a s₁ same
  rw [same, foreign]
  refine steady.ends_statement.bind ?_ ?_
  · exact fun _ _ _ => ⟨_, rfl, rfl⟩
  · intro fault s₂ ends
    cases ends.1

/-- The address decides whether an account can be managed. -/
theorem Placed.manageable_iff (placed : Placed id email t) {r : Row} (member : r ∈ t.rows)
    (same : r.id = id) (owner : r.entry.userId = userId) :
    Manageable domain userId id t ↔ Address.inDomain email domain = true := by
  constructor
  · intro manageable
    by_contra outside
    rw [Bool.not_eq_true, ← placed.row r member same] at outside
    have found : t.findById userId id = some r.toAccount := by
      rw [← owner, ← same]
      exact placed.sound.findById_of_mem member
    obtain ⟨outcome, answered, foreign⟩ := (calm_reliable domain).toSteady.yields_foreignDomain
      (s := ⟨t, fun _ => none, []⟩) found outside
    exact manageable.deletable (calm domain) [] ⟨t, fun _ => none, []⟩ rfl
      (answered.trans (congrArg Except.ok foreign))
  · intro inside
    constructor
    · intro σ k requests s at_ foreign
      have kept := (at_ ▸ placed).after k domain requests
      obtain ⟨turns, -, takes⟩ := k.takes (deleteAccount domain userId id)
        (k.after domain requests s)
      rw [foreign] at takes
      rw [kept.of_foreignDomain (deletion_of_takes takes)] at inside
      cases inside
    · intro σ k requests s email at_ denied
      have kept := (at_ ▸ placed).after k domain requests
      obtain ⟨turns, -, takes⟩ := k.takes (resetAccountPassword domain userId id)
        (k.after domain requests s)
      rw [denied] at takes
      rw [kept.of_validation (passwordReset_of_takes takes) rfl] at inside
      cases inside

/-! ## New accounts -/

/-- The service makes mailboxes at the addresses that it is asked for. -/
def Collaborators.MakesAsked (k : Collaborators σ) (domain : String) : Prop :=
  ∀ userId localPart x mailbox, (k.service (.create userId localPart) x).1 = .ok mailbox →
    Address.same mailbox.email (Address.ofParts localPart domain) = true

/-- Every mailbox that such a service has said to have made is at the address that it was asked
for. -/
theorem Collaborators.MakesAsked.ends_made (makes : k.MakesAsked domain) (op : Operation α)
    (before : ∀ u l m, s.Made u l m → Address.same m.email (Address.ofParts l domain) = true) :
    op.Ends k.answer s fun _ s' =>
      ∀ u l m, s'.Made u l m → Address.same m.email (Address.ofParts l domain) = true := by
  refine (Dialogue.asks_any op).runFrom (R := fun s s' : Scene σ =>
    (∀ u l m, s.Made u l m → Address.same m.email (Address.ofParts l domain) = true) →
      ∀ u l m, s'.Made u l m → Address.same m.email (Address.ofParts l domain) = true)
    (fun _ => id) (fun first second => second ∘ first) ?_ s before
  intro call s _ before u l m made
  unfold Scene.Made at made
  rw [show (StateT.run (k.answer call) s).2.transcript = _ from k.transcript_answer call s,
    List.mem_append, List.mem_singleton] at made
  rcases made with earlier | now
  · exact before u l m earlier
  · obtain ⟨rfl, answered⟩ := Turn.mk.inj now
    exact makes u l s.others m (eq_of_heq answered).symm

/-- An account that was written stands where it says. -/
theorem placed_of_write (sound : t.Sound) (wrote : t.write a = .ok (b, t')) :
    ∃ id, b = { a with id := some id } ∧ ⟨id, .ofAccount b⟩ ∈ t'.rows ∧ Placed id b.email t' := by
  obtain ⟨sound', id, same, rows⟩ := sound.of_write_eq_ok wrote
  have member := (rows _).2 (.inl rfl)
  refine ⟨id, same, member, sound', sound'.bounded _ member, ?_⟩
  intro r there named
  rcases (rows r).1 there with rfl | ⟨-, other⟩
  · rfl
  · exact absurd named other

/-- Where the address of an account comes from: from the row that was found, from the mailbox that
was made, or from one that was looked up and compared. -/
theorem Course.Creation.placed (sound : t.Sound)
    (creation : Creation domain userId localPart displayName t turns (.ok a) t') :
    ∃ id, a.id = some id ∧ a.userId = userId ∧ ⟨id, .ofAccount a⟩ ∈ t'.rows ∧
      Placed id a.email t' ∧
        match t.findByAddress userId (Address.ofParts localPart domain) with
        | some found => a.email = found.email
        | none => Address.same a.email (Address.ofParts localPart domain) = true ∨
            ∃ mailbox : Mailbox, ⟨.service (.create userId localPart), .ok mailbox⟩ ∈ turns ∧
              a.email = mailbox.email := by
  cases creation with
  | @approached found _ _ mailbox _ _ lookup approach persistence =>
    rcases persistence.table with ⟨fault, failed, -⟩ | ⟨inbound, outbound, written, same, wrote⟩
    · cases failed
    · cases same
      obtain ⟨id, rfl, member, placed⟩ := placed_of_write sound wrote
      refine ⟨id, rfl, (record_of_lookup mailbox.email lookup).1, member, placed, ?_⟩
      rw [lookup]
      cases approach with
      | found account same => rfl
      | made => exact .inr ⟨mailbox, by simp, rfl⟩
      | recovered refusal same => exact .inl same

/-- Under a domain that is accepted, and with a service that makes mailboxes at the addresses that
it is asked for, an account that is created can be managed exactly if the domain is plain. An
account that was there before keeps its address, and that decides; it is another address than the
one that was asked for only if there is a U+0000 in the domain. -/
theorem createOrUpdate_manageable_iff {baseUrl username password : String} {config : Config}
    (accepted : Config.new baseUrl username password domain = .ok config) (k : Collaborators σ)
    (makes : k.MakesAsked config.domain) (sound : t.Sound) (x : σ)
    (valid : violations userId localPart displayName = []) :
    (createOrUpdate config.domain userId localPart displayName).Ends k.answer ⟨t, x, []⟩
      fun result s' => ∀ a, result = .ok a → ∃ id, a.id = some id ∧
        (Manageable config.domain userId id s'.table ↔
          match t.findByAddress userId (Address.ofParts localPart config.domain) with
          | some found => Address.inDomain found.email config.domain = true
          | none => Address.IsPlain config.domain) ∧
        ((∀ c ∈ config.domain.toList, c.toNat ≠ 0) →
          (Manageable config.domain userId id s'.table ↔ Address.IsPlain config.domain)) := by
  obtain ⟨url, -, -, solid, made⟩ := Config.of_new_eq_ok accepted
  obtain rfl : config.domain = domain := by rw [made]
  have local_ := localPartViolation?_of_violations valid
  have plain := Address.inDomain_ofParts_iff local_ solid
  refine ((makes.ends_made _ ?_).and (ends_of_takes_start fun result s' takes =>
    creation_of_takes valid takes)).mono ?_
  · exact fun _ _ _ made => absurd made List.not_mem_nil
  · rintro result s' ⟨asked, creation⟩ a rfl
    obtain ⟨id, saved, owner, member, placed, source⟩ := creation.placed sound
    refine ⟨id, saved, ?_⟩
    rw [placed.manageable_iff member rfl owner]
    cases lookup : t.findByAddress userId (Address.ofParts localPart config.domain) with
    | none =>
      rw [lookup] at source
      have same : Address.same a.email (Address.ofParts localPart config.domain) = true := by
        rcases source with same | ⟨mailbox, made, email⟩
        · exact same
        · rw [email]
          exact asked userId localPart mailbox made
      rw [Address.inDomain_of_same same]
      exact ⟨plain, fun _ => plain⟩
    | some found =>
      rw [lookup] at source
      rw [source]
      refine ⟨.rfl, fun whole => ?_⟩
      have same : Address.same found.email (Address.ofParts localPart config.domain) = true :=
        same_of_findByAddress (Address.toNat_ne_zero_ofParts local_ whole) lookup
      rw [← plain, Address.inDomain_of_same same]

/-- The service that conforms makes mailboxes at the addresses that it is asked for. -/
theorem calm_makesAsked (domain : String) : (calm domain).MakesAsked domain := by
  intro userId localPart held mailbox made
  have serves := exemplary_serves domain (.create userId localPart) held
  rw [show (exemplary domain (.create userId localPart) held).1 = .ok mailbox from made] at serves
  generalize (exemplary domain (.create userId localPart) held).2 = after at serves
  cases serves with
  | created free address disclosed => exact Address.same_iff.2 (by rw [address])

/-- Jane's first request under a domain, and where it ends. -/
def janesAccount (domain : String) : Except Fault Account × Scene Holdings :=
  (calm domain).perform (createOrUpdate domain "u1" "jane" "Jane") ⟨.empty, fun _ => none, []⟩

/-- Under a plain domain Jane's account can be managed. -/
theorem createOrUpdate_manageable_jane :
    Config.new "http://mail.test" "admin" "secret" "example.com" = .ok (janesConfig "example.com") ∧
      (calm "example.com").MakesAsked "example.com" ∧
      (janesAccount "example.com").1.toOption.map Account.id = some (some ⟨1⟩) ∧
      Manageable "example.com" "u1" ⟨1⟩ (janesAccount "example.com").2.table := by
  have accepted : Config.new "http://mail.test" "admin" "secret" "example.com"
      = .ok (janesConfig "example.com") := by decide +kernel
  have named : (janesAccount "example.com").1.toOption.map Account.id = some (some ⟨1⟩) := by
    decide +kernel
  refine ⟨accepted, calm_makesAsked _, named, ?_⟩
  cases first : (janesAccount "example.com").1 with
  | error fault =>
    rw [first] at named
    cases named
  | ok a =>
    rw [first] at named
    obtain ⟨id, saved, manageable, -⟩ := createOrUpdate_manageable_iff accepted (calm "example.com")
      (calm_makesAsked _) .empty (fun _ => none) (by decide +kernel) a first
    have same : some (some ⟨1⟩) = some (some id) := by rw [← named, ← saved]; rfl
    cases same
    have plain : Address.IsPlain "example.com" := by decide +kernel
    exact manageable.2 plain

/-- Under a domain that begins with a blank Jane's account is deleted as a foreign one, and her
mailbox stays behind. -/
theorem createOrUpdate_manageable_blank :
    Config.new "http://mail.test" "admin" "secret" " example.com"
        = .ok (janesConfig " example.com") ∧
      violations "u1" "jane" "Jane" = [] ∧ (calm " example.com").MakesAsked " example.com" ∧
      (janesAccount " example.com").1.toOption.map Account.id = some (some ⟨1⟩) ∧
      ((calm " example.com").perform (deleteAccount " example.com" "u1" ⟨1⟩)
        (janesAccount " example.com").2).1.toOption = some .foreignDomain ∧
      ((calm " example.com").perform (deleteAccount " example.com" "u1" ⟨1⟩)
        (janesAccount " example.com").2).2.others "u1" = some ⟨"jane@ example.com", "first"⟩ ∧
      ((calm " example.com").perform (resetAccountPassword " example.com" "u1" ⟨1⟩)
        (janesAccount " example.com").2).1 = .error (Fault.notManaged "jane@ example.com") :=
  ⟨by decide +kernel, by decide +kernel, calm_makesAsked _, by decide +kernel, by decide +kernel,
    by decide +kernel, by rfl⟩

end MailboxKeeper.Engine
