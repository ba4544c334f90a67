/-!
# UTF-8

The bytes of a text, and the text of bytes. `decode?` refuses bytes that are no UTF-8;
`decodeMarked` puts a mark in place of every longest run of bytes that starts a character and
does not finish it, and of every byte that starts none. The mark of `decodeLossy` is U+FFFD.
-/

namespace MailboxKeeper.Text

/-- The bytes of a sequence of characters. -/
def utf8 (cs : List Char) : List UInt8 := cs.flatMap String.utf8EncodeChar

/-- The bytes of a text. -/
def bytes (s : String) : List UInt8 := utf8 s.toList

/-- A byte that continues a character. -/
def isContinuation (b : UInt8) : Bool := 0x80 ≤ b && b ≤ 0xBF

/-- What the bytes at the front of a text stand for: a character, or a run of bytes that is
none. -/
inductive Lead where
  | char (c : Char) (rest : List UInt8)
  | broken (rest : List UInt8)

/-- The bounds of the second byte after a first one of more than two bytes. -/
def secondBounds (b : UInt8) : UInt8 × UInt8 :=
  if b = 0xE0 then (0xA0, 0xBF)
  else if b = 0xED then (0x80, 0x9F)
  else if b = 0xF0 then (0x90, 0xBF)
  else if b = 0xF4 then (0x80, 0x8F)
  else (0x80, 0xBF)

/-- A byte within the bounds of the second byte after `b`. -/
def isSecond (b c : UInt8) : Bool := (secondBounds b).1 ≤ c && c ≤ (secondBounds b).2

/-- The first character of some bytes, of which the first is `b`. -/
def lead (b : UInt8) (rest : List UInt8) : Lead :=
  if b < 0x80 then .char (Char.ofNat b.toNat) rest
  else if 0xC2 ≤ b && b ≤ 0xDF then
    match rest with
    | c :: rest' =>
      if isContinuation c then
        .char (Char.ofNat ((b.toNat - 0xC0) * 64 + (c.toNat - 0x80))) rest'
      else .broken rest
    | [] => .broken rest
  else if 0xE0 ≤ b && b ≤ 0xEF then
    match rest with
    | c :: rest' =>
      if isSecond b c then
        match rest' with
        | d :: rest'' =>
          if isContinuation d then
            .char (Char.ofNat (((b.toNat - 0xE0) * 64 + (c.toNat - 0x80)) * 64
              + (d.toNat - 0x80))) rest''
          else .broken rest'
        | [] => .broken rest'
      else .broken rest
    | [] => .broken rest
  else if 0xF0 ≤ b && b ≤ 0xF4 then
    match rest with
    | c :: rest' =>
      if isSecond b c then
        match rest' with
        | d :: rest'' =>
          if isContinuation d then
            match rest'' with
            | e :: rest''' =>
              if isContinuation e then
                .char (Char.ofNat ((((b.toNat - 0xF0) * 64 + (c.toNat - 0x80)) * 64
                  + (d.toNat - 0x80)) * 64 + (e.toNat - 0x80))) rest'''
              else .broken rest''
            | [] => .broken rest''
          else .broken rest'
        | [] => .broken rest'
      else .broken rest
    | [] => .broken rest
  else .broken rest

/-- What is left after the first character or broken run. -/
def Lead.rest : Lead → List UInt8
  | .char _ r => r
  | .broken r => r

theorem length_rest_lead_le (b : UInt8) (rest : List UInt8) :
    (lead b rest).rest.length ≤ rest.length := by
  unfold lead
  repeat' split
  all_goals simp only [Lead.rest, List.length_cons, Nat.le_refl]
  all_goals omega

/-- The characters of some bytes, with a mark in place of every run that is none. -/
def decodeMarked (mark : List Char) (bs : List UInt8) : List Char :=
  match bs with
  | [] => []
  | b :: bs =>
    match _h : lead b bs with
    | .char c rest => c :: decodeMarked mark rest
    | .broken rest => mark ++ decodeMarked mark rest
termination_by bs.length
decreasing_by
  all_goals
    have := length_rest_lead_le b bs
    rw [_h] at this
    simp only [Lead.rest] at this
    simp only [List.length_cons]
    omega

/-- The characters of some bytes, if they are UTF-8. -/
def decodeChars? (bs : List UInt8) : Option (List Char) :=
  match bs with
  | [] => some []
  | b :: bs =>
    match _h : lead b bs with
    | .char c rest => (decodeChars? rest).map (c :: ·)
    | .broken _ => none
termination_by bs.length
decreasing_by
  have := length_rest_lead_le b bs
  rw [_h] at this
  simp only [Lead.rest] at this
  simp only [List.length_cons]
  omega

/-- The text of some bytes, with U+FFFD for every run that is no character. -/
def decodeLossy (bs : List UInt8) : String :=
  String.ofList (decodeMarked [Char.ofNat 0xFFFD] bs)

/-- The text of some bytes, if they are UTF-8. -/
def decode? (bs : List UInt8) : Option String := (decodeChars? bs).map String.ofList

end MailboxKeeper.Text
