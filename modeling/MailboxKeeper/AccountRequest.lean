import MailboxKeeper.Text.Blank

/-!
# Rules for account requests

A request names a user, the local part of the mailbox and a display name. `violations` lists the
rules it breaks, in the order user, local part, display name; of the rules for the local part
only the first broken one is listed.
-/

namespace MailboxKeeper.AccountRequest

open Text

/-- The rules a request can break. -/
inductive Violation where
  | emptyUserId
  | emptyLocalPart
  | localPartTooLong
  | invalidLocalPartCharacter
  | misplacedDot
  | emptyDisplayName
  | displayNameTooLong
  deriving DecidableEq, Repr

namespace Violation

/-- What the requester is told. -/
def message : Violation → String
  | emptyUserId => "User ID is required"
  | emptyLocalPart => "Mailbox name is required"
  | localPartTooLong => "Mailbox name must be at most 64 characters"
  | invalidLocalPartCharacter =>
    "Mailbox name may only contain letters, digits, '.', '_' and '-'"
  | misplacedDot =>
    "Mailbox name must not start or end with '.' or contain consecutive dots"
  | emptyDisplayName => "Display name is required"
  | displayNameTooLong => "Display name must be at most 255 characters"

/-- The part of the request the rule is about. -/
def field : Violation → String
  | emptyUserId => "user_id"
  | emptyLocalPart | localPartTooLong | invalidLocalPartCharacter | misplacedDot => "local_part"
  | emptyDisplayName | displayNameTooLong => "display_name"

end Violation

/-- The greatest length of a local part, in bytes of UTF-8. -/
def maxLocalPart : Nat := 64

/-- The greatest length of a display name, in characters. -/
def maxDisplayName : Nat := 255

/-- A character allowed in a local part. -/
def isLocalPartChar (c : Char) : Bool := c.isAlphanum || c == '.' || c == '_' || c == '-'

/-- Two dots in a row somewhere in the text. -/
def hasDoubleDot : List Char → Bool
  | '.' :: '.' :: _ => true
  | _ :: cs => hasDoubleDot cs
  | [] => false

/-- A dot at either end, or two in a row. -/
def hasMisplacedDot (cs : List Char) : Bool :=
  cs.head? == some '.' || cs.getLast? == some '.' || hasDoubleDot cs

/-- The first rule that a local part breaks. -/
def localPartViolation? (localPart : String) : Option Violation :=
  if localPart.isEmpty then some .emptyLocalPart
  else if maxLocalPart < localPart.utf8ByteSize then some .localPartTooLong
  else if !localPart.toList.all isLocalPartChar then some .invalidLocalPartCharacter
  else if hasMisplacedDot localPart.toList then some .misplacedDot
  else none

/-- The rule that a user id breaks. -/
def userViolation? (userId : String) : Option Violation :=
  if isAllBlank userId then some .emptyUserId else none

/-- The rule that a display name breaks; blanks at its ends do not count. -/
def displayNameViolation? (displayName : String) : Option Violation :=
  let name := trimChars displayName.toList
  if name.isEmpty then some .emptyDisplayName
  else if maxDisplayName < name.length then some .displayNameTooLong
  else none

/-- The rules that a user id and a local part break. -/
def identityViolations (userId localPart : String) : List Violation :=
  (userViolation? userId).toList ++ (localPartViolation? localPart).toList

/-- The rules that a request breaks. -/
def violations (userId localPart displayName : String) : List Violation :=
  identityViolations userId localPart ++ (displayNameViolation? displayName).toList

end MailboxKeeper.AccountRequest
