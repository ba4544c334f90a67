import MailboxKeeper.Text.Hidden

/-!
# Quoted texts

A text between double quotes in which every character can be seen: the quote and the backslash
are escaped by a backslash, the usual controls by a letter, and every other hidden character by
its number in hexadecimal.
-/

namespace MailboxKeeper.Text

/-- How a character stands between the quotes. -/
def quoteChar (c : Char) : List Char :=
  if c = Char.ofNat 0 then ['\\', '0']
  else if c = '\t' then ['\\', 't']
  else if c = '\r' then ['\\', 'r']
  else if c = '\n' then ['\\', 'n']
  else if c = '"' ∨ c = '\\' then ['\\', c]
  else if isHidden c then ['\\', 'u', '\x7b'] ++ Nat.toDigits 16 c.toNat ++ ['\x7d']
  else [c]

/-- A text between quotes. -/
def quoted (s : String) : String :=
  String.ofList ('"' :: s.toList.flatMap quoteChar ++ ['"'])

end MailboxKeeper.Text
