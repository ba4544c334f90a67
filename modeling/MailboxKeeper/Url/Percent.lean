import MailboxKeeper.Text.Utf8

/-!
# Percent encoding

A character that must not stand for itself in some part of a URL is written as the bytes of its
UTF-8, each as `%` and two hexadecimal digits. Characters above ASCII are always written so, and
ASCII controls as well; each part of a URL adds a set of its own.
-/

namespace MailboxKeeper.Url

open Text

/-- A control character of ASCII, or a character above ASCII. -/
def isControl (c : Char) : Bool := c.toNat < 0x20 || 0x7F ≤ c.toNat

/-- Is the character one of those? -/
def isAmong (cs : String) (c : Char) : Bool := cs.toList.contains c

/-- What is encoded in a fragment. -/
def inFragment (c : Char) : Bool := isControl c || isAmong " \"<>`" c

/-- What is encoded in a query; a special URL encodes the apostrophe too. -/
def inQuery (special : Bool) (c : Char) : Bool :=
  isControl c || isAmong " \"#<>" c || (special && c == '\x27')

/-- What is encoded in a path. -/
def inPath (c : Char) : Bool := inFragment c || isAmong "#?\x7b\x7d" c

/-- What is encoded in the name and password before a host. -/
def inUserInfo (c : Char) : Bool := inPath c || isAmong "/:;=@[\\]^|" c

/-- What is encoded in a segment that is appended to a path, so that it stays one segment; a
special URL encodes the backslash too. -/
def inSegment (special : Bool) (c : Char) : Bool :=
  inPath c || c == '/' || c == '%' || (special && c == '\\')

/-- The digit of a number below sixteen, with capitals. -/
def hexDigit (n : Nat) : Char := if n < 10 then Char.ofNat (48 + n) else Char.ofNat (55 + n)

/-- The value of a hexadecimal digit. -/
def hexValue? (b : UInt8) : Option Nat :=
  let n := b.toNat
  if 48 ≤ n ∧ n ≤ 57 then some (n - 48)
  else if 65 ≤ n ∧ n ≤ 70 then some (n - 55)
  else if 97 ≤ n ∧ n ≤ 102 then some (n - 87)
  else none

/-- The value of digits in a base. -/
def digitsValue (base : Nat) (cs : List Char) : Nat :=
  cs.foldl (fun n c => n * base + (hexValue? (UInt8.ofNat c.toNat)).getD 0) 0

/-- A hexadecimal digit. -/
def isHexDigit (c : Char) : Bool :=
  c.isDigit || ('a' ≤ c && c ≤ 'f') || ('A' ≤ c && c ≤ 'F')

/-- A byte in percent encoding. -/
def encodeByte (b : UInt8) : List Char := ['%', hexDigit (b.toNat / 16), hexDigit (b.toNat % 16)]

/-- A character, encoded if it is in the set. -/
def encodeChar (encoded : Char → Bool) (c : Char) : List Char :=
  if encoded c then (String.utf8EncodeChar c).flatMap encodeByte else [c]

/-- A text with all characters of the set encoded. -/
def percentEncode (encoded : Char → Bool) (cs : List Char) : List Char :=
  cs.flatMap (encodeChar encoded)

/-- The byte `%`. -/
def percent : UInt8 := 0x25

/-- The bytes of a text, with every percent encoding replaced by the byte it stands for. A `%`
without two digits after it stands for itself. -/
def percentDecodeBytes : List UInt8 → List UInt8
  | a :: b :: c :: rest =>
    if a = percent then
      match hexValue? b, hexValue? c with
      | some h, some l => UInt8.ofNat (h * 16 + l) :: percentDecodeBytes rest
      | _, _ => a :: percentDecodeBytes (b :: c :: rest)
    else a :: percentDecodeBytes (b :: c :: rest)
  | a :: rest => a :: percentDecodeBytes rest
  | [] => []

/-- The text that a percent-encoded one stands for, if it is one. -/
def percentDecode? (cs : List Char) : Option (List Char) :=
  decodeChars? (percentDecodeBytes (utf8 cs))

end MailboxKeeper.Url
