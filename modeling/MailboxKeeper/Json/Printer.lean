import MailboxKeeper.Json.Basic

/-!
# Writing JSON

`render` writes a value on one line without blanks; `renderPretty` gives every element its own
line, indented by two blanks for each level. In strings the quote, the backslash and control
characters are escaped, all other characters stand for themselves.
-/

namespace MailboxKeeper.Json

/-- The digit of a number below sixteen, with small letters. -/
def hexDigit (n : Nat) : Char := Nat.digitChar n

/-- How a character is written inside a string. -/
def escapeChar (c : Char) : List Char :=
  if c = '"' then ['\\', '"']
  else if c = '\\' then ['\\', '\\']
  else if c = '\n' then ['\\', 'n']
  else if c = '\r' then ['\\', 'r']
  else if c = '\t' then ['\\', 't']
  else if c.toNat = 8 then ['\\', 'b']
  else if c.toNat = 12 then ['\\', 'f']
  else if c.toNat < 0x20 then
    ['\\', 'u', '0', '0', hexDigit (c.toNat / 16), hexDigit (c.toNat % 16)]
  else [c]

/-- A text as a string literal. -/
def renderText (cs : List Char) : List Char := '"' :: cs.flatMap escapeChar ++ ['"']

/-- The decimal digits of a number. -/
def renderNat (n : Nat) : List Char := Nat.toDigits 10 n

/-- The sign and digits of an integer. -/
def renderInt (n : Int) : List Char :=
  if n < 0 then '-' :: renderNat n.natAbs else renderNat n.natAbs

/-- A number literal. -/
def Number.render (n : Number) : List Char :=
  (if n.negative then ['-'] else []) ++ renderNat n.whole
    ++ (if n.fraction.isEmpty then [] else '.' :: n.fraction.map fun d => Nat.digitChar d.val)
    ++ (match n.exponent with
      | some e => 'e' :: renderInt e
      | none => [])

mutual

/-- The characters of a value on one line. -/
def renderChars : Json → List Char
  | null => "null".toList
  | bool true => "true".toList
  | bool false => "false".toList
  | number n => n.render
  | string s => renderText s.toList
  | array items => '[' :: renderItems items
  | object members => '\x7b' :: renderMembers members
  | unreadable => "\"\\ud800\"".toList

/-- The elements of an array and the bracket that closes it. -/
def renderItems : List Json → List Char
  | [] => [']']
  | [j] => renderChars j ++ [']']
  | j :: js => renderChars j ++ ',' :: renderItems js

/-- The members of an object and the brace that closes it. -/
def renderMembers : List (String × Json) → List Char
  | [] => ['\x7d']
  | [(k, j)] => renderText k.toList ++ ':' :: (renderChars j ++ ['\x7d'])
  | (k, j) :: ms => renderText k.toList ++ ':' :: (renderChars j ++ ',' :: renderMembers ms)

end

/-- A value on one line. -/
def render (j : Json) : String := String.ofList (renderChars j)

/-- A new line, indented. -/
def newline (depth : Nat) : List Char := '\n' :: List.replicate (2 * depth) ' '

mutual

/-- The characters of a value that stands `depth` levels deep. -/
def prettyChars (depth : Nat) : Json → List Char
  | array [] => ['[', ']']
  | array items => '[' :: newline (depth + 1) ++ prettyItems depth items
  | object [] => ['\x7b', '\x7d']
  | object members => '\x7b' :: newline (depth + 1) ++ prettyMembers depth members
  | null => "null".toList
  | bool true => "true".toList
  | bool false => "false".toList
  | number n => n.render
  | string s => renderText s.toList
  | unreadable => "\"\\ud800\"".toList

/-- The elements of an array that stands `depth` levels deep, and the closing bracket. -/
def prettyItems (depth : Nat) : List Json → List Char
  | [] => newline depth ++ [']']
  | [j] => prettyChars (depth + 1) j ++ newline depth ++ [']']
  | j :: js => prettyChars (depth + 1) j ++ ',' :: newline (depth + 1) ++ prettyItems depth js

/-- The members of an object that stands `depth` levels deep, and the closing brace. -/
def prettyMembers (depth : Nat) : List (String × Json) → List Char
  | [] => newline depth ++ ['\x7d']
  | [(k, j)] =>
    renderText k.toList ++ [':', ' '] ++ prettyChars (depth + 1) j ++ newline depth ++ ['\x7d']
  | (k, j) :: ms =>
    renderText k.toList ++ [':', ' '] ++ prettyChars (depth + 1) j ++ ',' :: newline (depth + 1)
      ++ prettyMembers depth ms

end

/-- A value with every element on a line of its own. -/
def renderPretty (j : Json) : String := String.ofList (prettyChars 0 j)

end MailboxKeeper.Json
