import MailboxKeeper.Address
import MailboxKeeper.Url.Domain.Composed
import MailboxKeeper.Url.Domain.Direction
import MailboxKeeper.Url.Domain.Joiner
import MailboxKeeper.Url.Domain.Spelling
import MailboxKeeper.Url.Percent
import MailboxKeeper.Url.Punycode

/-!
# Domains of URLs

The host of a URL is a domain in ASCII. Its characters are spelled plainly and composed; then every
label that still holds a character above ASCII is put into Punycode behind the mark `xn--`. A
domain may also be given with labels in Punycode, which have to be what the labels that they stand
for are put into.
-/

namespace MailboxKeeper.Url.Domain

/-- A character that must not stand in a domain. -/
def isForbidden (c : Char) : Bool :=
  c.toNat ≤ 0x20 || c.toNat == 0x7F || isAmong "%#/:<>?@[\\]^|" c

/-- A character of ASCII. -/
def isAscii (c : Char) : Bool := c.toNat < 128

/-- The plain and composed form of a text, if it holds nothing that domains may not hold. -/
def plainForm? (cs : List Char) : Option (List Char) :=
  if cs.any isRefused then none
  else
    let plain := composed (cs.flatMap spelling)
    if plain.any isForbidden then none else some plain

/-- The rest of a label that is marked as Punycode. -/
def afterMark? : List Char → Option (List Char)
  | 'x' :: 'n' :: '-' :: '-' :: rest => some rest
  | _ => none

/-- The most characters that the Punycode of a label may have. -/
def punycodeLimit : Nat := 2000

/-- The most characters that a label may have if it needs Punycode. -/
def labelLimit : Nat := 1000

/-- The label that is meant by a label in plain form. -/
def readLabel? (label : List Char) : Option (List Char) :=
  match afterMark? label with
  | none => some label
  | some code => do
    if !code.all isAscii || punycodeLimit < code.length then none
    else
      let meant ← Punycode.decode? code
      if meant.all isAscii || meant.contains '.' || plainForm? meant ≠ some meant
          || Punycode.encode meant ≠ code then none
      else return meant

/-- May a label stand in a domain? It must not begin with a mark, which would belong to the dot
before it. -/
def isLabel (label : List Char) : Bool :=
  !label.head?.any Text.isMark && joinersStand [] label
    && (label.all isAscii || label.length ≤ labelLimit)

/-- A label in ASCII. -/
def labelToAscii (label : List Char) : List Char :=
  if label.all isAscii then label else "xn--".toList ++ Punycode.encode label

/-- A domain in ASCII, if it is one. -/
def toAscii? (domain : List Char) : Option (List Char) := do
  let plain ← plainForm? domain
  let labels ← (Address.labels plain).mapM readLabel?
  if !labels.all isLabel then none
  else if hasRightward (labels.flatMap fun label => label.map direction)
      && !labels.all isDirected then none
  else return List.intercalate ['.'] (labels.map labelToAscii)

end MailboxKeeper.Url.Domain
