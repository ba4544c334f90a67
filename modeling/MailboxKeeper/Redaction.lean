import MailboxKeeper.Text.Blank
import MailboxKeeper.Text.Word

/-!
# Redaction of server names

Messages that reach a user must not name servers. In a URL the authority, which may hold
credentials, a host and a port, is what stands after `scheme://` up to a slash, a blank or one
of a few closing characters. `redact` replaces each by a placeholder and keeps all other text.

A scheme starts at a word boundary with a letter and goes on with letters, digits, `+`, `.` and
`-`. Letters are those of ASCII in either case, and the two other characters that fold to them:
the long s and the Kelvin sign.
-/

namespace MailboxKeeper.Redaction

open Text

/-- What stands in place of an authority. -/
def placeholder : List Char := "[SERVER]".toList

/-- A character that can start a scheme. -/
def isSchemeStart (c : Char) : Bool :=
  c.isAlpha || c == Char.ofNat 0x17F || c == Char.ofNat 0x212A

/-- A character that can stand in a scheme. -/
def isSchemeChar (c : Char) : Bool :=
  isSchemeStart c || c.isDigit || c == '+' || c == '.' || c == '-'

/-- A character that belongs to an authority. -/
def isAuthorityChar (c : Char) : Bool :=
  !(isBlank c || c == '/' || c == '?' || c == '#' || c == ')' || c == ']' || c == ','
    || c == ';' || c == '>' || c == '"')

/-- The text after a leading `://`. -/
def afterSlashes? : List Char → Option (List Char)
  | ':' :: '/' :: '/' :: rest => some rest
  | _ => none

theorem length_of_afterSlashes? {cs rest : List Char} (h : afterSlashes? cs = some rest) :
    cs.length = rest.length + 3 := by
  unfold afterSlashes? at h
  split at h
  · cases h; rfl
  · cases h

/-- For a text that starts with `scheme://` and an authority: the scheme, and the text from the
authority on. -/
def scheme? : List Char → Option (List Char × List Char)
  | [] => none
  | c :: cs =>
    if isSchemeStart c then
      match afterSlashes? (cs.dropWhile isSchemeChar) with
      | some rest =>
        if (rest.head?.map isAuthorityChar).getD false then
          some (c :: cs.takeWhile isSchemeChar, rest)
        else none
      | none => none
    else none

theorem length_dropWhile_le (p : Char → Bool) (cs : List Char) :
    (cs.dropWhile p).length ≤ cs.length := (List.dropWhile_suffix p).length_le

theorem length_of_scheme? {cs scheme rest : List Char} (h : scheme? cs = some (scheme, rest)) :
    rest.length < cs.length := by
  cases cs with
  | nil => cases h
  | cons c cs =>
    rw [scheme?] at h
    split at h
    · split at h
      · next r hr =>
        split at h
        · cases h
          have := length_of_afterSlashes? hr
          have := length_dropWhile_le isSchemeChar cs
          simp only [List.length_cons]
          omega
        · cases h
      · cases h
    · cases h

/-- `redact` on the rest of a text; `afterWord` tells whether a word character stands before
it. -/
def redactFrom (afterWord : Bool) (cs : List Char) : List Char :=
  match cs with
  | [] => []
  | c :: tail =>
    match _h : if afterWord then none else scheme? (c :: tail) with
    | some (scheme, rest) =>
      scheme ++ "://".toList ++ placeholder ++ redactFrom false (rest.dropWhile isAuthorityChar)
    | none => c :: redactFrom (isWord c) tail
termination_by cs.length
decreasing_by
  · have h' : scheme? (c :: tail) = some (scheme, rest) := by
      revert _h; cases afterWord <;> simp
    have := length_of_scheme? h'
    have := length_dropWhile_le isAuthorityChar rest
    omega
  · simp

/-- The characters of a message with every authority replaced. -/
def redactChars (cs : List Char) : List Char := redactFrom false cs

/-- The message with every authority of a URL in it replaced. -/
def redact (message : String) : String := String.ofList (redactChars message.toList)

end MailboxKeeper.Redaction
