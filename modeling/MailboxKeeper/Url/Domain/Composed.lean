import MailboxKeeper.Url.Domain.Composite
import MailboxKeeper.Url.Domain.Rank

/-!
# Composed names

A name may be written with composites or with the characters that they are made of. `composed`
gives both the same form: composites are split, the marks on a character are ordered by rank, and
what can be joined again is joined.
-/

namespace MailboxKeeper.Url.Domain

/-- The two characters that a composite is made of, or else the character itself. -/
def splitOnce (c : Char) : List Char :=
  match split? c.toNat with
  | some (a, b) => [Char.ofNat a, Char.ofNat b]
  | none => [c]

/-- The characters without composites. A composite is made of others that are made of none. -/
def decompose (cs : List Char) : List Char := (cs.flatMap splitOnce).flatMap splitOnce

/-- Puts a character before others, of which marks of lower ranks go first. -/
def insertByRank (c : Char) : List Char → List Char
  | [] => [c]
  | d :: ds =>
    if 0 < rank d ∧ rank d < rank c then d :: insertByRank c ds else c :: d :: ds

/-- The characters with the marks on each of them ordered by rank. -/
def orderByRank (cs : List Char) : List Char := cs.foldr insertByRank []

/-- What has been joined: the characters before the last one that marks are set on, that one, and
the marks that it has kept, each from the end on. -/
structure Joined where
  before : List Char
  base : Option Char
  marks : List Char

namespace Joined

/-- The characters joined so far, from the end on. -/
def reversed (j : Joined) : List Char := j.marks ++ (j.base.toList ++ j.before)

/-- The composite of the base and a character that no mark keeps from it. -/
def join? (j : Joined) (c : Char) : Option Char := do
  let base ← j.base
  if j.marks.head?.all fun m => rank m < rank c then
    (Domain.join? base.toNat c.toNat).map Char.ofNat
  else none

/-- Adds a character. -/
def add (j : Joined) (c : Char) : Joined :=
  match j.join? c with
  | some composite => { j with base := some composite }
  | none =>
    if rank c = 0 then ⟨j.reversed, some c, []⟩
    else { j with marks := c :: j.marks }

end Joined

/-- The characters with all that can be joined in composites. -/
def compose (cs : List Char) : List Char :=
  (cs.foldl Joined.add ⟨[], none, []⟩).reversed.reverse

/-- The one form of all spellings that differ in composites and in the order of marks only. -/
def composed (cs : List Char) : List Char := compose (orderByRank (decompose cs))

end MailboxKeeper.Url.Domain
