import MailboxKeeper.Proofs.Engine.Course

/-!
# The faults of requests

What the courses of requests say of the faults that they end with. A call that fails is reported by
a fault that nothing else led to (`Turn.ReportedAs`). After a request has been found valid, no fault
is the requester's own doing; and once a mailbox is at hand, the fault is that of the last call.
-/

namespace MailboxKeeper.Engine

open AccountRequest Store

variable {t t' : Table} {turns : List Turn} {domain userId localPart displayName : String}
variable {account : Account} {mailbox : Mailbox} {found : Option Account} {fault : Fault}

/-- A call that failed is reported as this fault. -/
inductive Turn.ReportedAs : Turn → Fault → Prop where
  | table (statement : Statement) (e : Store.Error) :
      ReportedAs ⟨.table statement, .error e⟩ e.toFault
  | service (c : Provisioning.Call) (failure : Provisioning.Failure) :
      ReportedAs ⟨.service c, .error failure⟩ failure.toFault
  | encrypt (plaintext : String) (e : Credential.Error) :
      ReportedAs ⟨.encrypt plaintext, .error e⟩ e.toFault

theorem Turn.ReportedAs.causes {turn : Turn} (reported : turn.ReportedAs fault) :
    fault.causes = [] := by
  cases reported with
  | table statement e => cases e <;> rfl
  | service | encrypt => rfl

/-! ## The last call -/

namespace Course

theorem Recording.last_fault {imap smtp : MailServer} {renewed : Endpoint → Endpoint → Account}
    (recording : Recording imap smtp renewed t turns (.error fault) t') :
    ∃ turn, turns.getLast? = some turn ∧ turn.ReportedAs fault := by
  cases recording with
  | inboundFailed e | outboundFailed inbound e => exact ⟨_, rfl, .encrypt _ e⟩
  | refused inbound outbound e writes =>
    refine ⟨_, rfl, ?_⟩
    cases writes with
    | update | save => exact .table _ e

theorem Persistence.last_fault
    (persistence : Persistence account mailbox displayName t turns (.error fault) t') :
    ∃ turn, turns.getLast? = some turn ∧ turn.ReportedAs fault := by
  cases persistence with
  | unissued issue =>
    cases issue with
    | refused lacks failure => exact ⟨_, rfl, .service _ failure⟩
  | recorded issue recording =>
    obtain ⟨turn, last, failed⟩ := recording.last_fault
    exact ⟨turn, by rw [List.getLast?_append, last]; rfl, failed⟩

end Course

/-! ## Kinds -/

/-- The table never finds fault with a request. -/
theorem kind_toFault_ne_validation (e : Store.Error) : e.toFault.kind ≠ .validation := by
  cases e <;> nofun

namespace Course

theorem Recording.kind_ne_validation {imap smtp : MailServer}
    {renewed : Endpoint → Endpoint → Account}
    (recording : Recording imap smtp renewed t turns (.error fault) t') :
    fault.kind ≠ .validation := by
  cases recording with
  | inboundFailed | outboundFailed => nofun
  | refused inbound outbound e writes => exact kind_toFault_ne_validation e

theorem Persistence.kind_ne_validation
    (persistence : Persistence account mailbox displayName t turns (.error fault) t') :
    fault.kind ≠ .validation := by
  cases persistence with
  | unissued issue =>
    cases issue with
    | refused => nofun
  | recorded issue recording => exact recording.kind_ne_validation

theorem Creation.kind_ne_validation
    (creation : Creation domain userId localPart displayName t turns (.error fault) t') :
    fault.kind ≠ .validation := by
  cases creation with
  | unread e => exact kind_toFault_ne_validation e
  | retreated lookup retreat =>
    cases retreat with
    | lookupFailed | elsewhere | missing | refusedLookupFailed | refusedElsewhere
    | refusedMissing => nofun
  | approached lookup approach persistence => exact persistence.kind_ne_validation

end Course

end MailboxKeeper.Engine
