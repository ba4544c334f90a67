import MailboxKeeper.Proofs.Address.Comparison
import MailboxKeeper.Proofs.Engine.Course
import MailboxKeeper.Proofs.Store.CanonicalRow
import MailboxKeeper.Proofs.Store.FreshIds

/-!
# The rows that the engine writes

Much of what a row holds comes from the provisioning service and from the encryption, who answer
as they like. All the same every row that the engine writes is in order (`Entry.Regular`): its user
and its display name come from a valid request, and the rest is of types that the columns have room
for. Such a row can be read and written again without a change, and no two of them get into each
other's way (`Table.Regular`).
-/

namespace MailboxKeeper.Store

/-! ## Entries -/

/-- An entry of a user, with a display name, a login by password and two endpoints. -/
structure Entry.Regular (e : Entry) : Prop where
  owned : Text.isAllBlank e.userId = false
  trimmed : Text.trim e.displayName = e.displayName
  named : e.displayName ≠ ""
  short : e.displayName.length ≤ 255
  authMethod : e.authMethod = "password"
  inbound : e.inbound.Regular
  outbound : e.outbound.Regular

theorem Entry.Regular.legible {e : Entry} (regular : e.Regular) : e.Legible := by
  refine ⟨?_, regular.inbound, regular.outbound⟩
  rw [regular.authMethod]
  exact List.mem_cons_self

/-- Read as an account and written again, a row in order comes out as it was. -/
theorem Entry.Regular.reread {r : Row} (regular : r.entry.Regular) :
    Entry.ofAccount r.toAccount = r.entry := by
  rw [ofAccount_toAccount, canonical_eq_self_iff.2 regular.legible]

/-! ## Tables -/

namespace Table

variable {t t' : Table} {a b : Account}

/-- A table whose rows are in order and can be told apart. -/
structure Regular (t : Table) : Prop where
  entries : ∀ r ∈ t.rows, r.entry.Regular
  positive : ∀ r ∈ t.rows, 0 < r.id.value
  distinct : t.rows.Pairwise fun r s => r.id ≠ s.id
  separate : t.rows.Pairwise fun r s =>
    ¬(r.entry.userId = s.entry.userId ∧ sameAddress r.entry.email s.entry.email = true)
  /-- A row is found under its id and under its address. -/
  found : ∀ r ∈ t.rows, t.findById r.entry.userId r.id = some r.toAccount ∧
    t.findByAddress r.entry.userId r.entry.email = some r.toAccount
  /-- What was found can be written again, which changes nothing. -/
  reread : ∀ r ∈ t.rows, t.execute (.update r.toAccount) = (.ok r.toAccount, t)

/-- Ids are given out from one on. -/
structure Numbered (t : Table) : Prop where
  counter : 0 ≤ t.lastId
  positive : ∀ r ∈ t.rows, 0 < r.id.value

theorem Numbered.empty : Numbered empty := ⟨Int64.le_refl _, nofun⟩

theorem Numbered.execute (numbered : t.Numbered) (s : Statement) : (t.execute s).2.Numbered := by
  have changes := changes_statement t s
  refine ⟨Int64.le_trans numbered.counter changes.lastId.1, ?_⟩
  intro r member
  rcases changes.origin member with ⟨old, before, same, -⟩ | next | places
  · exact same ▸ numbered.positive old before
  · exact Int64.lt_of_le_of_lt numbered.counter (of_nextId?_eq_some next)
  · cases places

theorem Sound.findByAddress_of_mem (sound : t.Sound) {r : Row} (member : r ∈ t.rows) :
    t.findByAddress r.entry.userId r.entry.email = some r.toAccount := by
  cases found : t.findByAddress r.entry.userId r.entry.email with
  | none =>
    have free := findByAddress_eq_none_iff.1 found r member
    rw [r.entry.isAt_self] at free
    cases free
  | some a =>
    obtain ⟨s, there, at_, rfl⟩ := of_findByAddress_eq_some found
    rw [sound.eq_of_isAt member there at_]

theorem Sound.replace_self (sound : t.Sound) {r : Row} (member : r ∈ t.rows) :
    t.replace r.id r.entry = t := by
  have same : t.rows.map (fun s => if s.id = r.id then ⟨r.id, r.entry⟩ else s) = t.rows := by
    refine (List.map_congr_left ?_).trans (List.map_id _)
    intro s there
    split
    · rename_i named
      exact (sound.eq_of_id there member named).symm
    · rfl
  rw [Table.replace, same]

theorem Sound.update_reread (sound : t.Sound) {r : Row} (member : r ∈ t.rows)
    (regular : r.entry.Regular) : t.execute (.update r.toAccount) = (.ok r.toAccount, t) := by
  have updated : t.update r.toAccount = .ok (r.toAccount, t.replace r.id r.entry) := by
    rw [← regular.reread]
    refine update_of_row member rfl rfl ?_
    intro s there at_
    exact congrArg Row.id (sound.eq_of_isAt member there at_).symm
  rw [Table.execute, updated, sound.replace_self member]
  rfl

/-- What the statements keep true and what the engine writes come to a table in order. -/
theorem Sound.regular (sound : t.Sound) (numbered : t.Numbered)
    (entries : ∀ r ∈ t.rows, r.entry.Regular) : t.Regular := by
  refine ⟨entries, numbered.positive, ?_, ?_, ?_, ?_⟩
  · refine sound.ascending.imp ?_
    intro r s less same
    rw [same] at less
    exact Int64.lt_irrefl less
  · refine sound.separate.imp ?_
    rintro r s free ⟨owner, address⟩
    have at_ : s.entry.isAt r.entry.userId r.entry.email = true :=
      Entry.isAt_iff.2 ⟨owner.symm, sameAddress_symm address⟩
    rw [free] at at_
    cases at_
  · exact fun r member => ⟨sound.findById_of_mem member, sound.findByAddress_of_mem member⟩
  · exact fun r member => sound.update_reread member (entries r member)

theorem Sound.entries_of_write (sound : t.Sound) (entries : ∀ r ∈ t.rows, r.entry.Regular)
    (regular : (Entry.ofAccount a).Regular) (wrote : t.write a = .ok (b, t')) :
    ∀ r ∈ t'.rows, r.entry.Regular := by
  obtain ⟨-, id, rfl, rows⟩ := sound.of_write_eq_ok wrote
  intro r member
  rcases (rows r).1 member with rfl | ⟨old, -⟩
  · exact regular
  · exact entries r old

end Table

end MailboxKeeper.Store

namespace MailboxKeeper.Engine

open AccountRequest Store

variable {t t' : Table} {turns : List Turn} {domain userId localPart displayName : String}
variable {account : Account} {mailbox : Mailbox} {id : AccountId}

/-! ## What a request writes -/

/-- An account with the display name of a valid request is in order, whatever its endpoints. -/
theorem regular_renewed (owned : Text.isAllBlank account.userId = false)
    (valid : displayNameViolation? displayName = none) (inbound outbound : Endpoint) :
    (Entry.ofAccount (renewed account displayName inbound outbound)).Regular := by
  have name : (Entry.ofAccount (renewed account displayName inbound outbound)).displayName
      = Text.trim displayName := rfl
  unfold displayNameViolation? at valid
  dsimp only at valid
  split at valid
  · cases valid
  · rename_i named
    split at valid
    · cases valid
    · rename_i short
      refine ⟨owned, ?_, ?_, ?_, rfl, StoredEndpoint.regular_ofEndpoint _,
        StoredEndpoint.regular_ofEndpoint _⟩
      · rw [name, Text.trim, Text.toList_trim, Text.trimChars_trimChars]
        rfl
      · rw [name]
        intro empty
        have none : Text.trimChars displayName.toList = [] := by
          rw [← Text.toList_trim, empty]
          rfl
        rw [none] at named
        exact named rfl
      · rw [name, ← String.length_toList, Text.toList_trim]
        exact Nat.not_lt.1 short

theorem owned_of_violations (valid : violations userId localPart displayName = []) :
    Text.isAllBlank userId = false ∧ displayNameViolation? displayName = none := by
  unfold violations identityViolations at valid
  rw [List.append_eq_nil_iff, List.append_eq_nil_iff] at valid
  obtain ⟨⟨owned, -⟩, named⟩ := valid
  refine ⟨?_, Option.toList_eq_nil_iff.1 named⟩
  unfold userViolation? at owned
  split at owned
  · cases owned
  · rename_i solid
    rwa [Bool.not_eq_true] at solid

namespace Course

theorem Recording.entries {imapServer smtpServer : MailServer}
    {renewed : Endpoint → Endpoint → Account} {result : Except Fault Account}
    (recording : Recording imapServer smtpServer renewed t turns result t') (sound : t.Sound)
    (regular : ∀ inbound outbound, (Entry.ofAccount (renewed inbound outbound)).Regular)
    (entries : ∀ r ∈ t.rows, r.entry.Regular) : ∀ r ∈ t'.rows, r.entry.Regular := by
  cases recording with
  | inboundFailed | outboundFailed | refused => exact entries
  | written inbound outbound writes wrote =>
    exact sound.entries_of_write entries (regular _ _) wrote

theorem Creation.entries {result : Except Fault Account}
    (creation : Creation domain userId localPart displayName t turns result t')
    (valid : violations userId localPart displayName = []) (sound : t.Sound)
    (entries : ∀ r ∈ t.rows, r.entry.Regular) : ∀ r ∈ t'.rows, r.entry.Regular := by
  obtain ⟨owned, named⟩ := owned_of_violations valid
  cases creation with
  | unread | retreated => exact entries
  | @approached found _ _ mailbox _ _ lookup approach persistence =>
    have owner : (found.getD (.new userId mailbox.email)).userId = userId :=
      (record_of_lookup mailbox.email lookup).1
    rw [← owner] at owned
    cases persistence with
    | unissued => exact entries
    | recorded issue recording =>
      exact recording.entries sound (regular_renewed owned named) entries

/-- A reset leaves everything but the endpoints as it was in the row. -/
theorem PasswordReset.entries {result : Except Fault Account}
    (reset : PasswordReset domain userId id t turns result t') (sound : t.Sound)
    (entries : ∀ r ∈ t.rows, r.entry.Regular) : ∀ r ∈ t'.rows, r.entry.Regular := by
  cases reset with
  | unread | unknown | foreign | refused => exact entries
  | issued lookup inside password recording =>
    obtain ⟨r, member, -, -, rfl⟩ := Table.of_findById_eq_some lookup
    refine recording.entries sound ?_ entries
    intro inbound outbound
    have old := entries r member
    -- What is written back is the account as it was read, under other endpoints.
    rw [← old.reread] at old
    exact ⟨old.owned, old.trimmed, old.named, old.short, old.authMethod,
      StoredEndpoint.regular_ofEndpoint _, StoredEndpoint.regular_ofEndpoint _⟩

theorem Deletion.entries {result : Except Fault DeletionOutcome}
    (deletion : Deletion domain userId id t turns result t')
    (entries : ∀ r ∈ t.rows, r.entry.Regular) : ∀ r ∈ t'.rows, r.entry.Regular := by
  cases deletion with
  | unread | unknown | refused => exact entries
  | deleted => exact fun r member => entries r (Table.mem_delete.1 member).1

end Course

/-- Whatever a request comes to, the rows stay in order. -/
theorem Request.entries (q : Request) {result : Except Fault q.Result}
    (takes : Takes (q.operation domain) t turns result t') (sound : t.Sound)
    (entries : ∀ r ∈ t.rows, r.entry.Regular) : ∀ r ∈ t'.rows, r.entry.Regular := by
  cases q with
  | create userId localPart displayName =>
    by_cases valid : violations userId localPart displayName = []
    · exact (creation_of_takes valid takes).entries valid sound entries
    · rw [(of_takes_of_violations valid takes).2.1]
      exact entries
  | resolve userId localPart =>
    rw [Takes.of_resolveChecked takes]
    exact entries
  | resetPassword userId id => exact (passwordReset_of_takes takes).entries sound entries
  | delete userId id => exact (deletion_of_takes takes).entries entries

variable {σ : Type}

theorem Collaborators.entries_after (k : Collaborators σ) (domain : String)
    (requests : List Request) (others : σ) :
    (k.after domain requests ⟨.empty, others, []⟩).table.Sound ∧
      (k.after domain requests ⟨.empty, others, []⟩).table.Numbered ∧
      ∀ r ∈ (k.after domain requests ⟨.empty, others, []⟩).table.rows, r.entry.Regular := by
  refine Collaborators.after_induction (motive := fun s =>
    s.table.Sound ∧ s.table.Numbered ∧ ∀ r ∈ s.table.rows, r.entry.Regular)
    ⟨.empty, .empty, nofun⟩ ?_
  rintro q - s ⟨sound, numbered, entries⟩
  obtain ⟨turns, -, takes⟩ := k.takes (q.operation domain) s
  exact ⟨takes.keeps (fun _ statement sound => sound.execute statement) sound,
    takes.keeps (fun _ statement numbered => numbered.execute statement) numbered,
    q.entries takes sound entries⟩

/-- Whatever the service and the encryption answer, and wherever the table fails: after any
requests the table is in order. -/
theorem regular_after (k : Collaborators σ) (domain : String) (requests : List Request)
    (others : σ) : (k.after domain requests ⟨.empty, others, []⟩).table.Regular := by
  obtain ⟨sound, numbered, entries⟩ := k.entries_after domain requests others
  exact sound.regular numbered entries

end MailboxKeeper.Engine
