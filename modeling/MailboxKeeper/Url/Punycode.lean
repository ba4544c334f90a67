/-!
# Punycode

Labels of domains that hold characters above ASCII are written in ASCII: first the characters of
ASCII, then, behind a hyphen, where the others go, in the order of their code points. Each place
is the distance from the one before, in digits of base 36 with thresholds that adapt to the
distances.
-/

namespace MailboxKeeper.Url.Punycode

/-- The digit of a number below 36. -/
def digit (n : Nat) : Char := if n < 26 then Char.ofNat (97 + n) else Char.ofNat (22 + n)

/-- The value of a digit. -/
def digitValue? (c : Char) : Option Nat :=
  let n := c.toNat
  if 97 ≤ n ∧ n ≤ 122 then some (n - 97)
  else if 65 ≤ n ∧ n ≤ 90 then some (n - 65)
  else if 48 ≤ n ∧ n ≤ 57 then some (n - 22)
  else none

/-- The threshold of the digit at position `k`; positions count in steps of 36. -/
def threshold (bias k : Nat) : Nat := if k ≤ bias then 1 else min 26 (k - bias)

theorem threshold_pos (bias k : Nat) : 1 ≤ threshold bias k := by
  unfold threshold
  split <;> omega

/-- Divides by 35 until 455 is reached, counting 36 for each division. -/
def shrink (delta k : Nat) : Nat × Nat :=
  if 455 < delta then shrink (delta / 35) (k + 36) else (delta, k)
termination_by delta
decreasing_by exact Nat.div_lt_self (by omega) (by omega)

/-- The bias after a distance, with `count` characters placed so far. -/
def adapt (distance count : Nat) (first : Bool) : Nat :=
  let scaled := if first then distance / 700 else distance / 2
  let (delta, k) := shrink (scaled + scaled / count) 0
  k + 36 * delta / (delta + 38)

/-- The digits of a distance from position `k` on. -/
def distanceDigits (bias k q : Nat) : List Char :=
  let t := threshold bias k
  if q < t then [digit q]
  else digit (t + (q - t) % (36 - t)) :: distanceDigits bias (k + 36) ((q - t) / (36 - t))
termination_by q
decreasing_by
  have h₁ := threshold_pos bias k
  have h₂ := Nat.div_le_self (q - threshold bias k) (36 - threshold bias k)
  omega

/-- What has been written: the digits so far, the distance since the last place, the bias, and
how many characters have been placed. -/
structure Written where
  digits : List Char
  distance : Nat
  bias : Nat
  placed : Nat

/-- Passes a character while those of code point `n` are placed. -/
def pass (basic n : Nat) (w : Written) (c : Char) : Written :=
  if c.toNat < n then { w with distance := w.distance + 1 }
  else if c.toNat = n then
    { digits := w.digits ++ distanceDigits w.bias 36 w.distance, distance := 0,
      bias := adapt w.distance (w.placed + 1) (w.placed == basic), placed := w.placed + 1 }
  else w

/-- Places the characters of the listed code points, of which `n` is the least that may come. -/
def placeAll (label : List Char) (basic : Nat) : List Nat → Nat → Written → Written
  | [], _, w => w
  | m :: ms, n, w =>
    let w := { w with distance := w.distance + (m - n) * (w.placed + 1) }
    let w := label.foldl (pass basic m) w
    placeAll label basic ms (m + 1) { w with distance := w.distance + 1 }

/-- A label in ASCII, without the mark that it is. -/
def encode (label : List Char) : List Char :=
  let basic := label.filter fun c => c.toNat < 128
  let codes := ((label.map Char.toNat).filter (128 ≤ ·)).eraseDups.mergeSort (· ≤ ·)
  let w := placeAll label basic.length codes 128 ⟨[], 0, 72, basic.length⟩
  basic ++ (if basic.isEmpty then [] else ['-']) ++ w.digits

/-- What has been read: the characters so far, the code point and place reached, the bias, and of
the distance that is being read its start, the weight and the position of its next digit. -/
structure Read where
  chars : List Char
  code : Nat
  place : Nat
  bias : Nat
  start : Nat
  weight : Nat
  position : Nat

/-- A bound of the weights of digits. -/
def weightLimit : Nat := Nat.pow 2 32

/-- Reads one more digit. -/
def Read.next? (r : Read) (c : Char) : Option Read := do
  let d ← digitValue? c
  let place := r.place + d * r.weight
  let t := threshold r.bias r.position
  if d < t then
    let count := r.chars.length + 1
    let code := r.code + place / count
    let index := place % count
    if code < 0x110000 ∧ ¬(0xD800 ≤ code ∧ code ≤ 0xDFFF) then
      return { chars := r.chars.take index ++ Char.ofNat code :: r.chars.drop index, code,
               place := index + 1, bias := adapt (place - r.start) count (r.start == 0),
               start := index + 1, weight := 1, position := 36 }
    else none
  else if r.weight * (36 - t) < weightLimit then
    return { r with place, weight := r.weight * (36 - t), position := r.position + 36 }
  else none

/-- The characters before the last hyphen, if there is one, and those after it. -/
def splitLastHyphen (cs : List Char) : List Char × List Char :=
  let after := (cs.reverse.takeWhile (· != '-')).reverse
  (cs.take (cs.length - after.length - 1), after)

/-- The label that a text in ASCII stands for. -/
def decode? (cs : List Char) : Option (List Char) := do
  let (basic, digits) := splitLastHyphen cs
  let r ← digits.foldlM Read.next? ⟨basic, 128, 0, 72, 0, 1, 36⟩
  if r.position = 36 then return r.chars else none

end MailboxKeeper.Url.Punycode
