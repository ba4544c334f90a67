import MailboxKeeper.Proofs.Engine.Atomicity
import MailboxKeeper.Proofs.Engine.CallDiscipline
import MailboxKeeper.Proofs.Engine.Faults
import MailboxKeeper.Proofs.Engine.ResetReach

/-!
# What a status foretells

A status checks the user id and the local part, asks for the user's mailbox and compares its address
with the requested one. A request for an account does the same, if its display name is in order and
it comes to ask at all. So the status tells how the request goes on when both hear the same of the
mailbox: `Repairs` says so for a record that was found, `Recovers` for a creation that was refused,
for whatever reason. Only a mailbox that can be taken over is recorded; in every other case the
request stops there.
-/

namespace MailboxKeeper.Engine

open AccountRequest Store

variable {t t' : Table} {turns : List Turn} {domain userId localPart displayName : String}
variable {account : Account} {mailbox : Mailbox} {found : Option Account}
variable {result : Except Fault Account} {answer : Except Provisioning.Failure (Option Mailbox)}

/-! ## Forecasts -/

/-- The fault reports that the user's mailbox is at another address, and no cause. -/
structure ReportsMismatch (expected existing : String) (fault : Fault) : Prop where
  kind : fault.kind = .conflict
  status : fault.status = 409
  message : fault.message = Redaction.redact
    s!"A mailbox already exists for this user under {existing}, not {expected}"
  data : fault.data = some
    (.object [("expected_email", .string expected), ("existing_email", .string existing)])
  causes : fault.causes = []

/-- The request ends with this fault. No password was issued, nothing was encrypted, and nothing
was written. -/
structure Stops (t : Table) (turns : List Turn) (result : Except Fault Account) (t' : Table)
    (fault : Fault) : Prop where
  result : result = .error fault
  idle : ∀ turn ∈ turns, turn.call.isReset = false ∧ turn.call.isEncryption = false ∧
    turn.call.isWrite = false
  table : t' = t

/-- The request writes this account or none, by such a statement, and it does write it if no call
fails but the creation of a mailbox. -/
structure Records (statement : Account → Statement) (account : Account) (displayName : String)
    (t : Table) (turns : List Turn) (result : Except Fault Account) (t' : Table) : Prop where
  written : ∀ turn ∈ turns, turn.call.isWrite = true → ∃ inbound outbound,
    turn.call = .table (statement (renewed account displayName inbound outbound))
  succeeds : (∀ turn ∈ turns, turn.failed = true → turn.call.isCreation = true) →
    ∃ inbound outbound written, result = .ok written ∧
      t.write (renewed account displayName inbound outbound) = .ok (written, t')

/-- How a request goes on that has found a record, by the status of the user's mailbox. -/
def Repairs (account : Account) (displayName : String) (t : Table) (turns : List Turn)
    (result : Except Fault Account) (t' : Table) : Except Fault Resolution → Prop
  | .ok (.retry _) => Records .update account displayName t turns result t'
  | .ok (.emailMismatch expected existing) =>
    ∃ fault, ReportsMismatch expected existing fault ∧ Stops t turns result t' fault
  | .ok .noExistingAccount =>
    ∃ fault, fault.kind = .inconsistency ∧ fault.status = 500 ∧ Stops t turns result t' fault
  | .error fault => Stops t turns result t' fault

/-- How a request goes on to which the service has refused a mailbox, by the status of the one that
the user may have. -/
def Recovers (userId : String) (refusal : Fault) (displayName : String) (t : Table)
    (turns : List Turn) (result : Except Fault Account) (t' : Table) :
    Except Fault Resolution → Prop
  | .ok (.retry mailbox) =>
    Records .save (.new userId mailbox.email) displayName t turns result t'
  | .ok (.emailMismatch expected existing) =>
    ∃ fault, ReportsMismatch expected existing fault ∧
      Stops t turns result t' (fault.withCause refusal)
  | .ok .noExistingAccount => Stops t turns result t' refusal
  | .error fault => Stops t turns result t' (fault.withCause refusal)

/-- The status, by what is heard of the user's mailbox. -/
def statusOf (domain localPart : String) :
    Except Provisioning.Failure (Option Mailbox) → Except Fault Resolution
  | .ok found => .ok (.ofMailbox (Address.ofParts localPart domain) found)
  | .error failure => .error failure.toFault

theorem reportsMismatch_emailMismatch (expected existing : String) :
    ReportsMismatch expected existing (Fault.emailMismatch expected existing) :=
  ⟨rfl, rfl, rfl, rfl, rfl⟩

theorem statusOf_of_same
    (same : Address.same mailbox.email (Address.ofParts localPart domain) = true) :
    statusOf domain localPart (.ok (some mailbox)) = .ok (.retry mailbox) := by
  rw [statusOf, Resolution.ofMailbox, if_pos same]

theorem statusOf_of_apart
    (apart : Address.same mailbox.email (Address.ofParts localPart domain) = false) :
    statusOf domain localPart (.ok (some mailbox))
      = .ok (.emailMismatch (Address.ofParts localPart domain) mailbox.email) := by
  rw [statusOf, Resolution.ofMailbox, if_neg (by rw [apart]; exact Bool.false_ne_true)]

/-! ## Recording -/

/-- A recording that does not succeed has failed at a call. -/
theorem Course.Recording.exists_failed {imap smtp : MailServer}
    {renewed : Endpoint → Endpoint → Account} {fault : Fault}
    (recording : Recording imap smtp renewed t turns (.error fault) t') :
    ∃ turn ∈ turns, turn.failed = true := by
  cases recording with
  | inboundFailed e => exact ⟨_, List.mem_singleton_self _, rfl⟩
  | outboundFailed inbound e =>
    exact ⟨_, List.mem_cons_of_mem _ (List.mem_singleton_self _), rfl⟩
  | @refused _ _ e turn writes =>
    refine ⟨turn, List.mem_cons_of_mem _ (List.mem_cons_of_mem _ (List.mem_singleton_self _)), ?_⟩
    cases writes with
    | update | save => rfl

namespace Course.Persistence

theorem exists_failed {fault : Fault}
    (persistence : Persistence account mailbox displayName t turns (.error fault) t') :
    ∃ turn ∈ turns, turn.failed = true := by
  cases persistence with
  | unissued issue =>
    cases issue with
    | refused lacks failure => exact ⟨_, List.mem_singleton_self _, rfl⟩
  | recorded issue recording =>
    obtain ⟨turn, member, failed⟩ := recording.exists_failed
    exact ⟨turn, List.mem_append_right _ member, failed⟩

/-- Only the account with the new endpoints is written. -/
theorem call_eq (persistence : Persistence account mailbox displayName t turns result t') :
    ∀ turn ∈ turns, turn.call.isWrite = true → ∃ inbound outbound,
      turn.call = .table (if account.isSaved then
          .update (renewed account displayName inbound outbound)
        else .save (renewed account displayName inbound outbound)) := by
  cases persistence with
  | unissued issue =>
    cases issue with
    | refused lacks failure => simp [Call.isWrite]
  | recorded issue recording =>
    refine List.forall_mem_append.2 ⟨?_, recording.call_eq⟩
    cases issue with
    | whole | issued => simp [Call.isWrite]

/-- A mailbox is recorded once the calls before have shown it. -/
theorem records {statement : Account → Statement} (before : List Turn)
    (persistence : Persistence account mailbox displayName t turns result t')
    (writes : ∀ inbound outbound, (if account.isSaved then
        Statement.update (renewed account displayName inbound outbound)
      else .save (renewed account displayName inbound outbound))
        = statement (renewed account displayName inbound outbound))
    (unwritten : ∀ turn ∈ before, turn.call.isWrite = false) :
    Records statement account displayName t (before ++ turns) result t' where
  written := by
    refine List.forall_mem_append.2 ⟨?_, ?_⟩
    · intro turn member write
      rw [unwritten turn member] at write
      cases write
    · intro turn member write
      obtain ⟨inbound, outbound, same⟩ := persistence.call_eq turn member write
      rw [writes] at same
      exact ⟨inbound, outbound, same⟩
  succeeds := by
    intro unfailing
    rcases persistence.table with ⟨fault, rfl, rfl⟩ | ⟨inbound, outbound, written, rfl, wrote⟩
    · obtain ⟨turn, member, failed⟩ := persistence.exists_failed
      have creates := unfailing turn (List.mem_append_right _ member) failed
      rw [persistence.ending.isCreation_eq_false turn member] at creates
      cases creates
    · exact ⟨inbound, outbound, written, rfl, wrote⟩

end Course.Persistence

/-! ## The courses of a request -/

variable (t) in
theorem Course.Retreat.stops {fault : Fault} (email : String)
    (retreat : Retreat domain userId localPart found turns fault) :
    Stops t (⟨.table (.findByAddress userId email), .ok found⟩ :: turns) (.error fault) t
      fault := by
  refine ⟨rfl, ?_, rfl⟩
  cases retreat with
  | lookupFailed | elsewhere | missing | refusedLookupFailed | refusedElsewhere | refusedMissing =>
    simp [Call.isReset, Call.isEncryption, Call.isWrite, Statement.isRead]

namespace Course

/-- A request that has found a record asks for the mailbox and goes on as the status says. -/
theorem Creation.repairs
    (creation : Creation domain userId localPart displayName t turns result t')
    (looked : Looked userId turns (some account)) :
    ∃ answer, ⟨.service (.get userId), answer⟩ ∈ turns ∧
      Repairs account displayName t turns result t' (statusOf domain localPart answer) := by
  cases creation with
  | unread e =>
    obtain ⟨email, same⟩ := looked
    cases same
  | retreated lookup retreat =>
    have stops := retreat.stops t (Address.ofParts localPart domain)
    obtain rfl := looked_iff.1 looked
    cases retreat with
    | lookupFailed _ failure =>
      exact ⟨.error failure, List.mem_cons_of_mem _ List.mem_cons_self, stops⟩
    | @elsewhere _ mailbox apart =>
      refine ⟨.ok (some mailbox), List.mem_cons_of_mem _ List.mem_cons_self, ?_⟩
      rw [statusOf_of_apart apart]
      exact ⟨_, reportsMismatch_emailMismatch _ _, stops⟩
    | missing =>
      exact ⟨.ok none, List.mem_cons_of_mem _ List.mem_cons_self, _, rfl, rfl, stops⟩
  | @approached _ _ _ mailbox _ _ lookup approach persistence =>
    obtain rfl := looked_iff.1 looked
    cases approach with
    | found _ same =>
      obtain ⟨-, saved⟩ := record_of_lookup mailbox.email lookup
      refine ⟨.ok (some mailbox), List.mem_cons_of_mem _ List.mem_cons_self, ?_⟩
      rw [statusOf_of_same same]
      refine persistence.records [_, _] ?_ ?_
      · exact fun _ _ => if_pos saved
      · simp [Call.isWrite, Statement.isRead]

/-- A request to which a mailbox was refused asks for the one that the user may have and goes on
as the status says. -/
theorem Creation.recovers {refusal : Provisioning.Failure}
    (creation : Creation domain userId localPart displayName t turns result t')
    (refused : (⟨.service (.create userId localPart), .error refusal⟩ : Turn) ∈ turns) :
    ∃ answer, ⟨.service (.get userId), answer⟩ ∈ turns ∧
      Recovers userId refusal.toFault displayName t turns result t'
        (statusOf domain localPart answer) := by
  -- A mailbox is asked for only where no record was found.
  obtain ⟨email, looked⟩ := creation.calls.created _ refused rfl
  cases creation with
  | unread e => cases looked
  | @retreated found _ _ lookup retreat =>
    have stops := retreat.stops t (Address.ofParts localPart domain)
    obtain rfl : found = none := by
      cases looked
      rfl
    cases retreat with
    | refusedLookupFailed _ failure =>
      cases eq_of_refused (by simp [Call.isCreation]) (mem_of_mem_table_cons refused)
      exact ⟨.error failure, List.mem_of_getElem? (i := 2) rfl, stops⟩
    | @refusedElsewhere _ mailbox apart =>
      cases eq_of_refused (by simp [Call.isCreation]) (mem_of_mem_table_cons refused)
      refine ⟨.ok (some mailbox), List.mem_of_getElem? (i := 2) rfl, ?_⟩
      rw [statusOf_of_apart apart]
      exact ⟨_, reportsMismatch_emailMismatch _ _, stops⟩
    | refusedMissing =>
      cases eq_of_refused (by simp [Call.isCreation]) (mem_of_mem_table_cons refused)
      exact ⟨.ok none, List.mem_of_getElem? (i := 2) rfl, stops⟩
  | @approached found _ _ mailbox _ _ lookup approach persistence =>
    obtain rfl : found = none := by
      cases looked
      rfl
    have later := persistence.ending.isCreation_eq_false
    cases approach with
    | made => cases eq_of_refused later (mem_of_mem_table_cons refused)
    | recovered _ same =>
      cases eq_of_refused (List.forall_mem_cons.2 ⟨rfl, later⟩) (mem_of_mem_table_cons refused)
      refine ⟨.ok (some mailbox), List.mem_of_getElem? (i := 2) rfl, ?_⟩
      rw [statusOf_of_same same]
      refine persistence.records [_, _, _] ?_ ?_
      · exact fun _ _ => rfl
      · simp [Call.isWrite, Statement.isRead]

end Course

/-! ## Status and request -/

/-- A request whose display name is in order breaks the rules that a status finds broken. -/
theorem violations_of_named (named : displayNameViolation? displayName = none) :
    violations userId localPart displayName = identityViolations userId localPart := by
  rw [violations, named]
  exact List.append_nil _

/-- A valid status asks once, and what it hears decides. -/
theorem Takes.of_resolveChecked_of_valid {status : Except Fault Resolution}
    (valid : identityViolations userId localPart = [])
    (takes : Takes (resolveChecked domain userId localPart) t turns status t') :
    ∃ answer, turns = [⟨.service (.get userId), answer⟩] ∧
      status = statusOf domain localPart answer := by
  unfold resolveChecked at takes
  rw [valid] at takes
  obtain ⟨-, ⟨failure, rfl, rfl⟩ | ⟨found, rfl, rfl⟩⟩ := takes.of_resolve
  · exact ⟨.error failure, rfl, rfl⟩
  · exact ⟨.ok found, rfl, rfl⟩

theorem Takes.of_resolveChecked_of_invalid {status : Except Fault Resolution}
    (invalid : identityViolations userId localPart ≠ [])
    (takes : Takes (resolveChecked domain userId localPart) t turns status t') :
    status = .error (Fault.ofViolations (identityViolations userId localPart)) := by
  unfold resolveChecked at takes
  split at takes
  · rename_i valid
    exact absurd valid invalid
  · exact takes.of_fail.2.1

variable {σ τ : Type}

/-- A status and a request for an account whose display name is in order find the same fault with
what they are asked for, if any. When the request has found a record, or a mailbox was refused to
it, it asks for the user's mailbox; and if the status hears the same of it, the request goes on as
the status says. -/
theorem createOrUpdate_forecast (k : Collaborators σ) (k' : Collaborators τ) (t t' : Table) (x : σ)
    (x' : τ) (domain userId localPart : String)
    (named : displayNameViolation? displayName = none) :
    (resolveChecked domain userId localPart).Ends k'.answer ⟨t', x', []⟩ fun status s' =>
      (createOrUpdate domain userId localPart displayName).Ends k.answer ⟨t, x, []⟩ fun result s =>
        (∀ fault : Fault, fault.kind = .validation →
          (status = .error fault ↔ result = .error fault)) ∧
        (∀ account, Looked userId s.transcript (some account) →
          ∃ answer, ⟨.service (.get userId), answer⟩ ∈ s.transcript ∧
            (⟨.service (.get userId), answer⟩ ∈ s'.transcript →
              Repairs account displayName t s.transcript result s.table status)) ∧
        ∀ refusal : Provisioning.Failure,
          ⟨.service (.create userId localPart), .error refusal⟩ ∈ s.transcript →
          ∃ answer, ⟨.service (.get userId), answer⟩ ∈ s.transcript ∧
            (⟨.service (.get userId), answer⟩ ∈ s'.transcript →
              Recovers userId refusal.toFault displayName t s.transcript result s.table
                status) := by
  refine ends_of_takes_start ?_
  intro status s' asks
  refine ends_of_takes_start ?_
  intro result s takes
  by_cases valid : identityViolations userId localPart = []
  · obtain ⟨heard, said, rfl⟩ := asks.of_resolveChecked_of_valid valid
    have creation := creation_of_takes (violations_of_named named ▸ valid) takes
    refine ⟨?_, ?_, ?_⟩
    · intro fault invalid
      constructor
      · intro same
        cases heard with
        | ok found => cases same
        | error failure =>
          cases same
          cases invalid
      · rintro rfl
        exact absurd invalid creation.kind_ne_validation
    · intro account looked
      obtain ⟨answer, asked, repairs⟩ := creation.repairs looked
      refine ⟨answer, asked, fun same => ?_⟩
      rw [said, List.mem_singleton] at same
      cases same
      exact repairs
    · intro refusal refused
      obtain ⟨answer, asked, recovers⟩ := creation.recovers refused
      refine ⟨answer, asked, fun same => ?_⟩
      rw [said, List.mem_singleton] at same
      cases same
      exact recovers
  · obtain ⟨silent, -, rfl⟩ := of_takes_of_violations (violations_of_named named ▸ valid) takes
    rw [asks.of_resolveChecked_of_invalid valid, silent, violations_of_named named]
    refine ⟨fun fault _ => ?_, ?_, ?_⟩
    · simp only [Except.error.injEq]
    · rintro account ⟨email, looked⟩
      cases looked
    · exact fun _ => nofun

/-- Asked for `john`, the status tells of the mailbox that Jane has elsewhere, and the request,
refused a second mailbox for her, reports the same mismatch. -/
theorem createOrUpdate_forecast_elsewhere :
    displayNameViolation? "John" = none ∧
      ((calm "example.com").perform (resolveChecked "example.com" "u1" "john")
        ⟨.empty, janesHolding, []⟩).1
          = .ok (.emailMismatch "john@example.com" "jane@example.com") ∧
      ∃ fault, ReportsMismatch "john@example.com" "jane@example.com" fault ∧
        ((calm "example.com").perform (createOrUpdate "example.com" "u1" "john" "John")
          ⟨.empty, janesHolding, []⟩).1
          = .error
            (fault.withCause (Provisioning.Failure.toFault ⟨some 409, "mailbox exists"⟩)) := by
  have named : displayNameViolation? "John" = none := by decide +kernel
  obtain ⟨-, -, refused⟩ := createOrUpdate_forecast (calm "example.com") (calm "example.com") .empty
    .empty janesHolding janesHolding "example.com" "u1" "john" named
  obtain ⟨answer, asked, recovers⟩ :=
    refused ⟨some 409, "mailbox exists"⟩ (List.mem_of_getElem? (i := 1) rfl)
  have heard : answer = .ok (some (mailboxAt "jane@example.com" none)) := by
    rcases List.mem_cons.1 asked with same | asked
    · cases same
    rcases List.mem_cons.1 asked with same | asked
    · cases same
    cases List.mem_singleton.1 asked
    rfl
  subst heard
  obtain ⟨fault, reports, stops⟩ := recovers (List.mem_singleton_self _)
  exact ⟨named, rfl, fault, reports, stops.result⟩

end MailboxKeeper.Engine
