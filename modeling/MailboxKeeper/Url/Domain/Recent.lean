import MailboxKeeper.Text.Ranges

/-!
# Recent characters

Names may hold characters that have come into use so lately that a text does not show them yet: it
still takes them for code points without a character.
-/

namespace MailboxKeeper.Url.Domain

/-- The characters that names know and shown texts do not, as ranges of code points. -/
def recentRanges : List (Nat × Nat) :=
  [(0x558, 0x558), (0x5c8, 0x5ca), (0x1ade, 0x1adf), (0x208f, 0x208f), (0x209d, 0x209f),
   (0xa7e2, 0xa7e2), (0xab6c, 0xab6c), (0x107bb, 0x107bb), (0x10ec8, 0x10ecb), (0x10ed9, 0x10ede),
   (0x11b0a, 0x11b0b), (0x11df0, 0x11dff), (0x12475, 0x1247f), (0x12550, 0x12686),
   (0x16d80, 0x16da9), (0x18cd6, 0x18cfe), (0x18d1f, 0x18d21), (0x18e00, 0x19191),
   (0x191a0, 0x191d2), (0x1cedd, 0x1cedf), (0x1cef1, 0x1ceff), (0x1d127, 0x1d128),
   (0x1d1eb, 0x1d1ff), (0x1d250, 0x1d28a), (0x1d6a6, 0x1d6a6), (0x1db00, 0x1dbff),
   (0x1df1f, 0x1df24), (0x1df2b, 0x1df81), (0x1df90, 0x1dfff), (0x1f1ae, 0x1f1ae),
   (0x1f6d9, 0x1f6d9), (0x1f7f1, 0x1f7ff), (0x1fa8b, 0x1fa8d), (0x1fac9, 0x1facc),
   (0x1fadd, 0x1fadd), (0x1faeb, 0x1faeb), (0x1faf9, 0x1fafa), (0x2b81e, 0x2b81e),
   (0x3d000, 0x3fc3f)]

/-- A character that names know and shown texts do not. -/
def isRecent (c : Char) : Bool := Text.inRanges recentRanges c

end MailboxKeeper.Url.Domain
