import MailboxKeeper.Fault
import MailboxKeeper.NameMap

/-!
# Providers by id

A provider of mailboxes has an id and a domain. Of two providers with one id the later counts.
-/

namespace MailboxKeeper

/-- A provider of mailboxes. -/
structure Provider where
  id : String
  domain : String
  deriving DecidableEq, Repr

/-- The id of the provider that is used when none is named. -/
def Provider.defaultId : String := "managed"

/-- Providers by id. -/
abbrev Registry := NameMap Provider

namespace Registry

/-- The registry with a provider added, in place of the one with the same id. -/
def add (r : Registry) (p : Provider) : Registry := r.put p.id p

/-- The provider with an id. -/
def find (r : Registry) (id : String) : Except Fault Provider :=
  match r.get? id with
  | some p => .ok p
  | none => .error (Fault.new .notFound s!"Unknown mailbox provider: {id}")

/-- A provider is found where it was added. -/
@[simp] theorem find_add (r : Registry) (p : Provider) : (r.add p).find p.id = .ok p := by
  simp [find, add]

end Registry

end MailboxKeeper
