import MailboxKeeper.Proofs.Engine.Forecast

/-!
# The statuses of faults

A fault and all that led to it have the status of an error: the one of its kind, or the one that a
call to the service was refused with (`IsSound`). What is reported of a failed call is sound, and so
is every fault that the course of a request ends with.
-/

namespace MailboxKeeper.Engine

open AccountRequest Store

variable {t t' : Table} {turns : List Turn} {domain userId localPart displayName : String}
variable {found : Option Account} {fault : Fault}

/-! ## Statuses -/

/-- The status under which the service's refusal with that code is reported. -/
def reportedStatus : Option Nat → Nat
  | some code => if 400 ≤ code ∧ code ≤ 599 then code else 400
  | none => 400

/-- The status of a failure is that of an error. It depends on the kind alone, but for a failure of
the service, which has been heard and tells its own. -/
structure IsSound (turns : List Turn) (i : Fault.Incident) : Prop where
  bounds : 400 ≤ i.status ∧ i.status ≤ 599
  own : i.kind ≠ .remote → i.status = i.kind.defaultStatus
  remote : i.kind = .remote → ∃ (c : Provisioning.Call) (failure : Provisioning.Failure),
    ⟨.service c, .error failure⟩ ∈ turns ∧ i = failure.toFault.toIncident ∧
      i.status = reportedStatus failure.code

/-- The fault and all that led to it are sound. -/
def Fault.IsSound (turns : List Turn) (f : Fault) : Prop := ∀ i ∈ f.chain, Engine.IsSound turns i

theorem defaultStatus_bounds (kind : Fault.Kind) :
    400 ≤ kind.defaultStatus ∧ kind.defaultStatus ≤ 599 := by
  cases kind <;> decide

theorem status_eq_reportedStatus (failure : Provisioning.Failure) :
    failure.status = reportedStatus failure.code := by
  unfold Provisioning.Failure.status reportedStatus
  cases failure.code with
  | none => rfl
  | some code =>
    by_cases inside : 400 ≤ code ∧ code ≤ 599
    · simp [Option.filter, inside]
    · simp [Option.filter, inside]

theorem isSound_of_own {i : Fault.Incident} (own : i.kind ≠ .remote)
    (status : i.status = i.kind.defaultStatus) : IsSound turns i :=
  ⟨by rw [status]; exact defaultStatus_bounds i.kind, fun _ => status,
    fun remote => absurd remote own⟩

theorem isSound_of_failure {c : Provisioning.Call} {failure : Provisioning.Failure}
    (heard : (⟨.service c, .error failure⟩ : Turn) ∈ turns) :
    IsSound turns failure.toFault.toIncident :=
  ⟨failure.status_bounds, fun own => absurd rfl own,
    fun _ => ⟨c, failure, heard, rfl, status_eq_reportedStatus failure⟩⟩

theorem IsSound.mono {more : List Turn} {i : Fault.Incident} (sound : IsSound turns i)
    (subset : turns ⊆ more) : IsSound more i where
  bounds := sound.bounds
  own := sound.own
  remote := by
    intro remote
    obtain ⟨c, failure, heard, same⟩ := sound.remote remote
    exact ⟨c, failure, subset heard, same⟩

namespace Fault.IsSound

theorem mono {more : List Turn} (sound : Fault.IsSound turns fault) (subset : turns ⊆ more) :
    Fault.IsSound more fault :=
  fun i member => (sound i member).mono subset

theorem of_single (single : fault.causes = []) (sound : Engine.IsSound turns fault.toIncident) :
    Fault.IsSound turns fault := by
  unfold Fault.IsSound Fault.chain
  rw [single]
  exact List.forall_mem_singleton.2 sound

theorem withCause {cause : MailboxKeeper.Fault} (sound : Engine.IsSound turns fault.toIncident)
    (led : Fault.IsSound turns cause) : Fault.IsSound turns (fault.withCause cause) := by
  unfold Fault.IsSound
  rw [Fault.chain_withCause]
  exact List.forall_mem_cons.2 ⟨sound, led⟩

end Fault.IsSound

/-- What is reported of a failed call is sound. -/
theorem Turn.ReportedAs.isSound {turn : Turn} (reported : turn.ReportedAs fault)
    (heard : turn ∈ turns) : Fault.IsSound turns fault := by
  refine .of_single reported.causes ?_
  cases reported with
  | table statement e => cases e <;> exact isSound_of_own nofun rfl
  | service c failure => exact isSound_of_failure heard
  | encrypt plaintext e => exact isSound_of_own nofun rfl

/-! ## Sound courses -/

namespace Course

theorem Retreat.isSound (retreat : Retreat domain userId localPart found turns fault) :
    Fault.IsSound turns fault := by
  cases retreat with
  | lookupFailed _ failure =>
    exact (Turn.ReportedAs.service _ failure).isSound List.mem_cons_self
  | elsewhere | missing => exact .of_single rfl (isSound_of_own nofun rfl)
  | refusedLookupFailed refusal failure =>
    refine .withCause (isSound_of_failure (List.mem_of_getElem? (i := 1) rfl)) ?_
    exact (Turn.ReportedAs.service _ refusal).isSound List.mem_cons_self
  | refusedElsewhere refusal =>
    refine .withCause (isSound_of_own nofun rfl) ?_
    exact (Turn.ReportedAs.service _ refusal).isSound List.mem_cons_self
  | refusedMissing refusal =>
    exact (Turn.ReportedAs.service _ refusal).isSound List.mem_cons_self

theorem Creation.isSound
    (creation : Creation domain userId localPart displayName t turns (.error fault) t') :
    Fault.IsSound turns fault := by
  cases creation with
  | unread e => exact (Turn.ReportedAs.table _ e).isSound List.mem_cons_self
  | retreated lookup retreat => exact retreat.isSound.mono (List.subset_cons_self _ _)
  | approached lookup approach persistence =>
    obtain ⟨turn, last, reported⟩ := persistence.last_fault
    refine reported.isSound (List.mem_cons_of_mem _ (List.mem_append_right _ ?_))
    exact List.mem_of_getLast? last

theorem PasswordReset.isSound {id : AccountId}
    (reset : PasswordReset domain userId id t turns (.error fault) t') :
    Fault.IsSound turns fault := by
  cases reset with
  | unread e => exact (Turn.ReportedAs.table _ e).isSound List.mem_cons_self
  | unknown | foreign => exact .of_single rfl (isSound_of_own nofun rfl)
  | refused lookup inside failure =>
    exact (Turn.ReportedAs.service _ failure).isSound (List.mem_of_getElem? (i := 1) rfl)
  | issued lookup inside password recording =>
    obtain ⟨turn, last, reported⟩ := recording.last_fault
    refine reported.isSound (List.mem_cons_of_mem _ (List.mem_cons_of_mem _ ?_))
    exact List.mem_of_getLast? last

theorem Deletion.isSound {id : AccountId}
    (deletion : Deletion domain userId id t turns (.error fault) t') :
    Fault.IsSound turns fault := by
  cases deletion with
  | unread e => exact (Turn.ReportedAs.table _ e).isSound List.mem_cons_self
  | unknown => exact .of_single rfl (isSound_of_own nofun rfl)
  | refused lookup cleanup e =>
    refine (Turn.ReportedAs.table (.delete userId id) e).isSound (List.mem_cons_of_mem _ ?_)
    exact List.mem_append_right _ (List.mem_singleton_self _)

end Course

/-- A request that fails is told of by a sound fault. -/
theorem Takes.isSound (request : Request)
    (takes : Takes (request.operation domain) t turns (.error fault) t') :
    Fault.IsSound turns fault := by
  cases request with
  | create userId localPart displayName =>
    by_cases valid : violations userId localPart displayName = []
    · exact (creation_of_takes valid takes).isSound
    · obtain ⟨-, -, same⟩ := of_takes_of_violations valid takes
      cases same
      exact .of_single rfl (isSound_of_own nofun rfl)
  | resolve userId localPart =>
    by_cases valid : identityViolations userId localPart = []
    · obtain ⟨answer, rfl, same⟩ := takes.of_resolveChecked_of_valid valid
      cases answer with
      | ok found => cases same
      | error failure =>
        cases same
        exact (Turn.ReportedAs.service _ failure).isSound List.mem_cons_self
    · have same := takes.of_resolveChecked_of_invalid valid
      cases same
      exact .of_single rfl (isSound_of_own nofun rfl)
  | resetPassword userId id => exact (passwordReset_of_takes takes).isSound
  | delete userId id => exact (deletion_of_takes takes).isSound

end MailboxKeeper.Engine
