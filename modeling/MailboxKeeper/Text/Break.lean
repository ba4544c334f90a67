import MailboxKeeper.Text.Utf8

/-!
# Where bytes stop being UTF-8

A text is broken at the first byte from which on no character can be read. The break is reported
with the length of the run that is no character, unless the run is the start of a character that
only lacks its last bytes.
-/

namespace MailboxKeeper.Text

/-- The first run of some bytes that is no character. -/
structure Break where
  /-- The number of bytes before the run. -/
  offset : Nat
  /-- The length of the run; nothing if the bytes end before the character does. -/
  length : Option Nat
  deriving DecidableEq, Repr

def Break.message : Break → String
  | ⟨offset, some n⟩ => s!"invalid utf-8 sequence of {n} bytes from index {offset}"
  | ⟨offset, none⟩ => s!"incomplete utf-8 byte sequence from index {offset}"

/-- A byte that starts a character of several bytes. -/
def isOpening (b : UInt8) : Bool := 0xC2 ≤ b && b ≤ 0xF4

/-- The first break of some bytes that come after as many others as the offset says. -/
def breakFrom? (offset : Nat) (bs : List UInt8) : Option Break :=
  match bs with
  | [] => none
  | b :: bs =>
    match _h : lead b bs with
    | .char _ rest => breakFrom? (offset + (bs.length + 1 - rest.length)) rest
    | .broken rest =>
      let unfinished := rest.isEmpty && isOpening b
      some ⟨offset, if unfinished then none else some (bs.length + 1 - rest.length)⟩
termination_by bs.length
decreasing_by
  have := length_rest_lead_le b bs
  rw [_h] at this
  simp only [Lead.rest] at this
  simp only [List.length_cons]
  omega

/-- The text of some bytes, or the break that keeps them from being one. -/
def decodeOrBreak (bs : List UInt8) : Except Break String :=
  match breakFrom? 0 bs with
  | some b => .error b
  | none => .ok (decodeLossy bs)

end MailboxKeeper.Text
