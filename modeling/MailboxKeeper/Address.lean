import MailboxKeeper.Text.Blank
import MailboxKeeper.Text.Fold

/-!
# Mail addresses

An address is a local part and a domain with an `@` between them. Two addresses are the same
when they agree up to the case of ASCII letters and blanks at either end. The domain is what
follows the last `@`; a well-formed address has exactly one, and a domain of two or more
non-empty labels.
-/

namespace MailboxKeeper.Address

open Text

/-- The address of the mailbox `localPart` in `domain`. -/
def ofParts (localPart domain : String) : String := localPart ++ "@" ++ domain

/-- The same address, up to blanks at the ends and the case of ASCII letters. -/
def same (a b : String) : Bool := fold (trimChars a.toList) == fold (trimChars b.toList)

/-- What follows the last `@`, if there is one. -/
def afterLastAt? : List Char → Option (List Char)
  | [] => none
  | c :: cs =>
    match afterLastAt? cs with
    | some rest => some rest
    | none => if c = '@' then some cs else none

/-- The characters of the domain of an address: what follows its last `@`, unless that is
empty. -/
def domainChars? (address : String) : Option (List Char) :=
  (afterLastAt? (trimChars address.toList)).filter fun d => !d.isEmpty

/-- The domain of an address. -/
def domain? (address : String) : Option String := (domainChars? address).map String.ofList

/-- Does the address lie in `domain`? Blanks around `domain` and the case of ASCII letters do
not count. -/
def inDomain (address domain : String) : Bool :=
  match domainChars? address with
  | some d => fold d == fold (trimChars domain.toList)
  | none => false

/-- The text before the first `@` and the text after it. -/
def splitFirstAt? : List Char → Option (List Char × List Char)
  | [] => none
  | c :: cs =>
    if c = '@' then some ([], cs) else (splitFirstAt? cs).map fun p => (c :: p.1, p.2)

/-- The labels of a domain: the texts between its dots. -/
def labels : List Char → List (List Char)
  | [] => [[]]
  | c :: cs =>
    if c = '.' then [] :: labels cs
    else
      match labels cs with
      | [] => [[c]]
      | l :: ls => (c :: l) :: ls

/-- A domain of at least two labels, none of them empty and none with an `@`. -/
def isDottedDomain (domain : List Char) : Bool :=
  !domain.contains '@' && !domain.isEmpty && domain.contains '.'
    && (labels domain).all fun l => !l.isEmpty

/-- An address with a non-empty local part, a single `@` and a dotted domain, blanks at the ends
aside. -/
def isWellFormed (address : String) : Bool :=
  match splitFirstAt? (trimChars address.toList) with
  | some (localPart, domain) => !localPart.isEmpty && isDottedDomain domain
  | none => false

end MailboxKeeper.Address
