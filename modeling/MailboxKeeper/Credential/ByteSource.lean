/-!
# Sources of random bytes

A source is an endless sequence of bytes of which some have been used. Who takes bytes gets the
next ones, and no byte is handed out twice.
-/

namespace MailboxKeeper.Credential

/-- An endless sequence of bytes, and how many of them have been used. -/
structure ByteSource where
  byteAt : Nat → UInt8
  used : Nat

namespace ByteSource

/-- The source that gives the listed bytes first and then zeros. -/
def ofList (bs : List UInt8) : ByteSource := ⟨fun i => bs.getD i 0, 0⟩

/-- The next `count` bytes. -/
def peek (s : ByteSource) (count : Nat) : List UInt8 :=
  (List.range count).map fun i => s.byteAt (s.used + i)

/-- The source after `count` more bytes have been used. -/
def skip (s : ByteSource) (count : Nat) : ByteSource := { s with used := s.used + count }

@[simp] theorem length_peek (s : ByteSource) (count : Nat) : (s.peek count).length = count := by
  simp [peek]

@[simp] theorem skip_skip (s : ByteSource) (m n : Nat) : (s.skip m).skip n = s.skip (m + n) := by
  simp [skip, Nat.add_assoc]

end ByteSource

end MailboxKeeper.Credential
