/-!
# Base64

The standard alphabet with mandatory padding. Only what encoding produces is decoded: the padding
must be complete, and the bits that a last, partial group leaves over must be zero. An error names
the first offence and where it is.
-/

namespace MailboxKeeper.Text.Base64

/-- The sixty-four symbols. -/
def alphabet : List Char :=
  "ABCDEFGHIJKLMNOPQRSTUVWXYZabcdefghijklmnopqrstuvwxyz0123456789+/".toList

/-- The symbol of a number below 64. -/
def symbol (n : Nat) : Char := alphabet.getD n '='

/-- The symbols of a sequence of bytes. -/
def encodeChars : List UInt8 → List Char
  | a :: b :: c :: rest =>
    let n := (a.toNat * 256 + b.toNat) * 256 + c.toNat
    symbol (n / 262144) :: symbol (n / 4096 % 64) :: symbol (n / 64 % 64) :: symbol (n % 64)
      :: encodeChars rest
  | [a, b] =>
    let n := (a.toNat * 256 + b.toNat) * 4
    [symbol (n / 4096), symbol (n / 64 % 64), symbol (n % 64), '=']
  | [a] =>
    let n := a.toNat * 16
    [symbol (n / 64), symbol (n % 64), '=', '=']
  | [] => []

/-- The text of a sequence of bytes. -/
def encode (bs : List UInt8) : String := String.ofList (encodeChars bs)

/-- What makes a text no encoding. Positions and lengths count bytes of UTF-8. -/
inductive Error where
  | invalidByte (offset : Nat) (byte : UInt8)
  | invalidLength (length : Nat)
  | invalidLastSymbol (offset : Nat) (byte : UInt8)
  | invalidPadding
  deriving DecidableEq, Repr

def Error.message : Error → String
  | invalidByte offset byte => s!"Invalid symbol {byte}, offset {offset}."
  | invalidLength length => s!"Invalid input length: {length}"
  | invalidLastSymbol offset byte => s!"Invalid last symbol {byte}, offset {offset}."
  | invalidPadding => "Invalid padding"

/-- The byte that pads the last group. -/
def pad : UInt8 := 0x3D

/-- The number of a symbol. -/
def value? (b : UInt8) : Option Nat :=
  let n := b.toNat
  if 65 ≤ n ∧ n ≤ 90 then some (n - 65)
  else if 97 ≤ n ∧ n ≤ 122 then some (n - 71)
  else if 48 ≤ n ∧ n ≤ 57 then some (n + 4)
  else if n = 43 then some 62
  else if n = 47 then some 63
  else none

/-- The number of the symbol at an offset. -/
def valueAt (offset : Nat) (b : UInt8) : Except Error Nat :=
  match value? b with
  | some v => .ok v
  | none => .error (.invalidByte offset b)

/-- The three bytes of a full group. -/
def decodeGroup (offset : Nat) (a b c d : UInt8) : Except Error (List UInt8) := do
  let a ← valueAt offset a
  let b ← valueAt (offset + 1) b
  let c ← valueAt (offset + 2) c
  let d ← valueAt (offset + 3) d
  let n := ((a * 64 + b) * 64 + c) * 64 + d
  return [UInt8.ofNat (n / 65536), UInt8.ofNat (n / 256 % 256), UInt8.ofNat (n % 256)]

/-- What has been read of the last group: its symbols with their numbers, the latest first, and
how many paddings followed them. -/
structure LastGroup where
  symbols : List (UInt8 × Nat)
  paddings : Nat

/-- Reads the last group byte by byte. Padding may not come before two symbols, and no symbol
after padding. -/
def readLast (offset : Nat) (read : LastGroup) : List UInt8 → Except Error LastGroup
  | [] => .ok read
  | b :: rest =>
    let position := read.symbols.length + read.paddings
    if b = pad then
      if position < 2 then .error (.invalidByte (offset + position) b)
      else readLast offset { read with paddings := read.paddings + 1 } rest
    else if 0 < read.paddings then .error (.invalidByte (offset + read.symbols.length) pad)
    else
      match value? b with
      | some v => readLast offset { read with symbols := (b, v) :: read.symbols } rest
      | none => .error (.invalidByte (offset + position) b)

/-- The bytes of the last group, which starts at `offset`. -/
def decodeLast (offset : Nat) (bs : List UInt8) : Except Error (List UInt8) := do
  if bs.isEmpty then return []
  let group ← readLast offset ⟨[], 0⟩ bs
  let count := group.symbols.length
  if count < 2 then throw (.invalidLength (offset + count))
  if (group.paddings + count) % 4 ≠ 0 then throw .invalidPadding
  match group.symbols with
  | [(last, b), (_, a)] =>
    let n := a * 64 + b
    if n % 16 ≠ 0 then throw (.invalidLastSymbol (offset + 1) last)
    return [UInt8.ofNat (n / 16)]
  | [(last, c), (_, b), (_, a)] =>
    let n := (a * 64 + b) * 64 + c
    if n % 4 ≠ 0 then throw (.invalidLastSymbol (offset + 2) last)
    return [UInt8.ofNat (n / 1024), UInt8.ofNat (n / 4 % 256)]
  | [(_, d), (_, c), (_, b), (_, a)] =>
    let n := ((a * 64 + b) * 64 + c) * 64 + d
    return [UInt8.ofNat (n / 65536), UInt8.ofNat (n / 256 % 256), UInt8.ofNat (n % 256)]
  | _ => return []

/-- The bytes of all groups from the one at `offset` on; the last group may be partial. -/
def decodeGroups (offset : Nat) : List UInt8 → Except Error (List UInt8)
  | a :: b :: c :: d :: e :: rest => do
    let group ← decodeGroup offset a b c d
    let others ← decodeGroups (offset + 4) (e :: rest)
    return group ++ others
  | bs => decodeLast offset bs

/-- A last symbol that belongs to no group and is none at all. -/
def strayLast? (bs : List UInt8) : Option UInt8 :=
  if bs.length % 4 = 1 then
    bs.getLast?.filter fun b => b != pad && (value? b).isNone
  else none

/-- The bytes that a text encodes, given by its own bytes. -/
def decode (bs : List UInt8) : Except Error (List UInt8) :=
  match strayLast? bs with
  | some b => .error (.invalidByte (bs.length - 1) b)
  | none => decodeGroups 0 bs

end MailboxKeeper.Text.Base64
