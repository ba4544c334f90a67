import MailboxKeeper.Fault

/-!
# Failures of the provisioning service

A call to the service fails with a description and, if the service answered at all, a status code.
-/

namespace MailboxKeeper.Provisioning

/-- Why a call to the service failed. -/
structure Failure where
  code : Option Nat
  message : String
  deriving DecidableEq, Repr

namespace Failure

/-- Did the service report that the mailbox exists already? -/
def isConflict (f : Failure) : Bool := f.code == some 409

/-- The status to report: the service's own code if it is that of an error, and 400 otherwise. -/
def status (f : Failure) : Nat := (f.code.filter fun c => 400 ≤ c && c ≤ 599).getD 400

/-- The fault that a requester is told of. -/
def toFault (f : Failure) : Fault := { Fault.new .remote f.message with status := f.status }

theorem status_bounds (f : Failure) : 400 ≤ f.status ∧ f.status ≤ 599 := by
  unfold status
  rcases f.code with _ | c
  · simp
  · by_cases h : 400 ≤ c ∧ c ≤ 599
    · simp [Option.filter, h]
    · simp [Option.filter, h]

end Failure

end MailboxKeeper.Provisioning
