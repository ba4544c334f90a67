import MailboxKeeper.Json.Basic
import MailboxKeeper.Text.Utf8

/-!
# Reading JSON

`parse?` reads a text that holds one value and, around its parts, blanks (space, tab, line feed
and carriage return) only. Every reader takes the characters that are left and returns the value
and what follows it. The nesting of a value is no deeper than its text is long, so the length of
the text bounds the recursion.
-/

namespace MailboxKeeper.Json

/-- A character that may stand between the parts of a value. -/
def isSpace (c : Char) : Bool := c == ' ' || c == '\t' || c == '\n' || c == '\r'

/-- The text from the next part on. -/
def skipSpace (cs : List Char) : List Char := cs.dropWhile isSpace

/-- The value of a hexadecimal digit. -/
def hexValue? (c : Char) : Option Nat :=
  if c.isDigit then some (c.toNat - 48)
  else if 'a' ≤ c ∧ c ≤ 'f' then some (c.toNat - 87)
  else if 'A' ≤ c ∧ c ≤ 'F' then some (c.toNat - 55)
  else none

/-- The value of four hexadecimal digits. -/
def hex4? (a b c d : Char) : Option Nat := do
  let a ← hexValue? a
  let b ← hexValue? b
  let c ← hexValue? c
  let d ← hexValue? d
  return ((a * 16 + b) * 16 + c) * 16 + d

/-- A piece of a string literal: a character, or an escape that is half of one. -/
inductive Piece where
  | char (c : Char)
  | surrogate (unit : Nat)

/-- The piece that a four-digit escape denotes. -/
def Piece.ofUnit (n : Nat) : Piece :=
  if 0xD800 ≤ n ∧ n ≤ 0xDFFF then .surrogate n else .char (Char.ofNat n)

/-- The character that a one-letter escape denotes. -/
def simpleEscape? (c : Char) : Option Char :=
  if c = '"' ∨ c = '\\' ∨ c = '/' then some c
  else if c = 'b' then some (Char.ofNat 8)
  else if c = 'f' then some (Char.ofNat 12)
  else if c = 'n' then some '\n'
  else if c = 'r' then some '\r'
  else if c = 't' then some '\t'
  else none

/-- The pieces of a string literal up to its closing quote, and the text after that. -/
def scanText : List Char → Option (List Piece × List Char)
  | [] => none
  | '"' :: rest => some ([], rest)
  | '\\' :: 'u' :: a :: b :: c :: d :: rest => do
    let n ← hex4? a b c d
    let (pieces, rest) ← scanText rest
    return (.ofUnit n :: pieces, rest)
  | '\\' :: e :: rest => do
    let c ← simpleEscape? e
    let (pieces, rest) ← scanText rest
    return (.char c :: pieces, rest)
  | c :: rest =>
    if c.toNat < 0x20 ∨ c = '\\' then none
    else do
      let (pieces, rest) ← scanText rest
      return (.char c :: pieces, rest)

/-- The characters of a string literal; nothing if a surrogate stands without its partner. -/
def joinPieces : List Piece → Option (List Char)
  | [] => some []
  | .char c :: ps => (joinPieces ps).map (c :: ·)
  | .surrogate h :: .surrogate l :: ps =>
    if h < 0xDC00 ∧ 0xDC00 ≤ l then
      (joinPieces ps).map (Char.ofNat (0x10000 + (h - 0xD800) * 0x400 + (l - 0xDC00)) :: ·)
    else none
  | .surrogate _ :: _ => none

/-- The text of a string literal whose opening quote has been read, and what follows it. -/
def readText (cs : List Char) : Option (Option (List Char) × List Char) := do
  let (pieces, rest) ← scanText cs
  return (joinPieces pieces, rest)

/-- The number that decimal digits denote. -/
def digitsValue (cs : List Char) : Nat := cs.foldl (fun n c => n * 10 + (digitValue c).val) 0

/-- One or more digits, and what follows them. -/
def readDigits (cs : List Char) : Option (List Char × List Char) :=
  let digits := cs.takeWhile Char.isDigit
  if digits.isEmpty then none else some (digits, cs.dropWhile Char.isDigit)

/-- The digits before the point: a lone zero, or digits of which the first is none. -/
def readWhole (cs : List Char) : Option (Nat × List Char) := do
  let (digits, rest) ← readDigits cs
  if digits.head? = some '0' ∧ digits.length ≠ 1 then none
  else return (digitsValue digits, rest)

/-- A point and the digits after it, if there is a point. -/
def readFraction : List Char → Option (List (Fin 10) × List Char)
  | '.' :: rest => do
    let (digits, rest) ← readDigits rest
    return (digits.map digitValue, rest)
  | cs => some ([], cs)

/-- An exponent, if there is one. -/
def readExponent : List Char → Option (Option Int × List Char)
  | [] => some (none, [])
  | c :: rest =>
    if c = 'e' ∨ c = 'E' then
      match rest with
      | '-' :: rest => do
        let (digits, rest) ← readDigits rest
        return (some (-(digitsValue digits : Int)), rest)
      | '+' :: rest => do
        let (digits, rest) ← readDigits rest
        return (some (digitsValue digits), rest)
      | rest => do
        let (digits, rest) ← readDigits rest
        return (some (digitsValue digits), rest)
    else some (none, c :: rest)

/-- A number without its sign. -/
def readUnsigned (negative : Bool) (cs : List Char) : Option (Number × List Char) := do
  let (whole, cs) ← readWhole cs
  let (fraction, cs) ← readFraction cs
  let (exponent, cs) ← readExponent cs
  return (⟨negative, whole, fraction, exponent⟩, cs)

/-- A number, and what follows it. -/
def readNumber : List Char → Option (Number × List Char)
  | '-' :: rest => readUnsigned true rest
  | cs => readUnsigned false cs

/-- The object with the given members, the first of which is yet to be added. -/
def addMember (key : Option (List Char)) (value : Json) : Json → Json
  | object members =>
    match key with
    | some k => object ((String.ofList k, value) :: members)
    | none => unreadable
  | j => j

mutual

/-- A value, and what follows it. -/
def readValue (fuel : Nat) (cs : List Char) : Option (Json × List Char) :=
  match fuel with
  | 0 => none
  | fuel + 1 =>
    match skipSpace cs with
    | 'n' :: 'u' :: 'l' :: 'l' :: rest => some (null, rest)
    | 't' :: 'r' :: 'u' :: 'e' :: rest => some (bool true, rest)
    | 'f' :: 'a' :: 'l' :: 's' :: 'e' :: rest => some (bool false, rest)
    | '"' :: rest => do
      let (text, rest) ← readText rest
      match text with
      | some t => return (string (String.ofList t), rest)
      | none => return (unreadable, rest)
    | '[' :: rest =>
      match skipSpace rest with
      | ']' :: rest => some (array [], rest)
      | rest => do
        let (items, rest) ← readItems fuel rest
        return (array items, rest)
    | '\x7b' :: rest =>
      match skipSpace rest with
      | '\x7d' :: rest => some (object [], rest)
      | rest => readMembers fuel rest
    | rest => do
      let (n, rest) ← readNumber rest
      return (number n, rest)

/-- The elements of an array from the next one on, and what follows its bracket. -/
def readItems (fuel : Nat) (cs : List Char) : Option (List Json × List Char) :=
  match fuel with
  | 0 => none
  | fuel + 1 => do
    let (item, rest) ← readValue fuel cs
    match skipSpace rest with
    | ']' :: rest => return ([item], rest)
    | ',' :: rest => do
      let (items, rest) ← readItems fuel rest
      return (item :: items, rest)
    | _ => none

/-- An object from its next member on, and what follows its brace. -/
def readMembers (fuel : Nat) (cs : List Char) : Option (Json × List Char) :=
  match fuel with
  | 0 => none
  | fuel + 1 =>
    match skipSpace cs with
    | '"' :: rest => do
      let (key, rest) ← readText rest
      match skipSpace rest with
      | ':' :: rest => do
        let (value, rest) ← readValue fuel rest
        match skipSpace rest with
        | '\x7d' :: rest => return (addMember key value (object []), rest)
        | ',' :: rest => do
          let (others, rest) ← readMembers fuel rest
          return (addMember key value others, rest)
        | _ => none
      | _ => none
    | _ => none

end

/-- The value that a sequence of characters holds. -/
def parseChars? (cs : List Char) : Option Json :=
  match readValue (cs.length + 1) cs with
  | some (j, rest) => if (skipSpace rest).isEmpty then some j else none
  | none => none

/-- The value that a text holds. -/
def parse? (text : String) : Option Json := parseChars? text.toList

/-- What is read for bytes that are no character. In a string literal it denotes no text, whatever
escapes stand next to it; everywhere else, and behind a backslash, it is out of place. -/
def brokenMark : List Char := "x\\ud800\\ud800".toList

/-- The value that some bytes hold. Bytes that are no character may be part of a string literal,
which then holds no text. -/
def ofBytes? (bs : List UInt8) : Option Json := parseChars? (Text.decodeMarked brokenMark bs)

end MailboxKeeper.Json
