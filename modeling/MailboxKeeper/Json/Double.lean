import MailboxKeeper.Json.Basic

/-!
# Doubles

A finite double is a whole multiple of a power of two whose factor has at most 53 bits. It is
computed here from exact ratios: the result of every operation is the double that is nearest to
the exact result, and the even one of two that are as near. As a literal it has the fewest digits
that it can be told by from every other double.
-/

namespace MailboxKeeper.Json

/-- A finite double that is not negative: `significand * 2 ^ exponent`. -/
structure Double where
  significand : Nat
  exponent : Int
  deriving DecidableEq, Repr

namespace Double

/-- The number of bits of a significand. -/
def precision : Nat := 53

def leastExponent : Int := -1074

def greatestExponent : Int := 971

/-- The whole number that is nearest to a ratio, the even one of two that are as near. -/
def roundEven (n d : Nat) : Nat :=
  let q := n / d
  let r := 2 * (n % d)
  if d < r ∨ (r = d ∧ q % 2 = 1) then q + 1 else q

/-- A ratio with another divided off: the numerator and the denominator of
`n / (d * base ^ e)`. -/
def dividedBy (base : Nat) (n d : Nat) (e : Int) : Nat × Nat :=
  (n * Nat.pow base (-e).toNat, d * Nat.pow base e.toNat)

/-- The least exponent with which a significand for a ratio is small enough. The logarithms leave
two exponents to choose from. -/
def exponentFor (n d : Nat) : Int :=
  let e : Int := (n.log2 : Int) - d.log2 - precision
  let (a, b) := dividedBy 2 n d e
  max (if a / b < Nat.pow 2 precision then e else e + 1) leastExponent

/-- The double that is nearest to a ratio, unless the ratio is out of their range. -/
def ofRatio? (n d : Nat) : Option Double :=
  let e := exponentFor n d
  let (a, b) := dividedBy 2 n d e
  let m := roundEven a b
  let x : Double :=
    if m < Nat.pow 2 precision then ⟨m, e⟩ else ⟨Nat.pow 2 (precision - 1), e + 1⟩
  if x.exponent ≤ greatestExponent then some x else none

/-- The numerator of a double as a ratio. -/
def numerator (x : Double) : Nat := x.significand * Nat.pow 2 x.exponent.toNat

/-- The denominator of a double as a ratio. -/
def denominator (x : Double) : Nat := Nat.pow 2 (-x.exponent).toNat

def times? (x y : Double) : Option Double :=
  ofRatio? (x.numerator * y.numerator) (x.denominator * y.denominator)

def over? (x y : Double) : Option Double :=
  ofRatio? (x.numerator * y.denominator) (x.denominator * y.numerator)

/-- The double that is nearest to a power of ten. -/
def powerOfTen? (k : Nat) : Option Double := ofRatio? (Nat.pow 10 k) 1

/-- The greatest power of ten that is a double. -/
def greatestPowerOfTen : Nat := 308

/-- A double divided by a power of ten, in steps of the greatest one. -/
def shrink? (x : Double) (k : Nat) : Option Double :=
  if x.significand = 0 then some x
  else if k ≤ greatestPowerOfTen then (powerOfTen? k).bind x.over?
  else do
    let x ← (powerOfTen? greatestPowerOfTen).bind x.over?
    shrink? x (k - greatestPowerOfTen)
termination_by k
decreasing_by
  have : 0 < greatestPowerOfTen := by decide
  omega

/-- A double multiplied by a power of ten. -/
def grow? (x : Double) (k : Nat) : Option Double :=
  if x.significand = 0 then some x
  else if k ≤ greatestPowerOfTen then (powerOfTen? k).bind x.times?
  else none

/-- The double for a number of 64 bits and a power of ten to multiply it by. Both are rounded
before they are multiplied, and the product once more. -/
def ofScaled? (n : Nat) (power : Int) : Option Double := do
  let x ← ofRatio? n 1
  if power < 0 then x.shrink? power.natAbs else x.grow? power.toNat

/-- The number of digits before the point of a ratio; as a negative number, the number of zeros
after the point. -/
def magnitude (n d : Nat) : Int :=
  if d ≤ n then (Nat.toDigits 10 (n / d)).length
  else
    let isEnough := fun zeros : Nat => decide (d ≤ n * Nat.pow 10 (zeros + 1))
    let zeros := ((List.range (-leastExponent).toNat).find? isEnough).getD 0
    0 - (zeros : Int)

/-- The number with so many digits that stands for a double, if one does: the factor and the
power of ten. Of the numbers right below and above the double it is the one that is nearer; the
one above may be a power of ten, which has one digit only. -/
def withDigits? (x : Double) (digits : Nat) : Option (Nat × Int) :=
  let power := magnitude x.numerator x.denominator - digits
  let (a, b) := dividedBy 10 x.numerator x.denominator power
  let standsFor := fun factor : Nat =>
    let (n, d) := dividedBy 10 factor 1 (-power)
    ofRatio? n d == some x
  let below := a / b
  let nearest := roundEven a b
  let other := if nearest = below then below + 1 else below
  (([nearest, other].find? standsFor).map fun factor =>
    if factor = Nat.pow 10 digits then (1, power + digits) else (factor, power))

/-- The number with the fewest digits that stands for a double. Seventeen digits always do. -/
def shortest (x : Double) : Nat × Int :=
  ((List.range 17).findSome? fun n => x.withDigits? (n + 1)).getD (0, 0)

/-- The digits of a number. -/
def digitsOf (n : Nat) : List (Fin 10) := (Nat.toDigits 10 n).map digitValue

/-- The number that digits stand for. -/
def ofDigits (ds : List (Fin 10)) : Nat := ds.foldl (fun n d => n * 10 + d.val) 0

/-- The literal of a double. Up to sixteen digits before the point and up to four zeros after it
are written out; otherwise the point comes after the first digit and a power of ten follows. -/
def toNumber (negative : Bool) (x : Double) : Number :=
  let zero := digitValue '0'
  if x.significand = 0 then ⟨negative, 0, [zero], none⟩
  else
    let (factor, power) := x.shortest
    let ds := digitsOf factor
    let places : Int := ds.length + power
    if 0 ≤ power ∧ places ≤ 16 then ⟨negative, factor * Nat.pow 10 power.toNat, [zero], none⟩
    else if 0 < places ∧ places ≤ 16 then
      ⟨negative, ofDigits (ds.take places.toNat), ds.drop places.toNat, none⟩
    else if -5 < places ∧ places ≤ 0 then
      ⟨negative, 0, List.replicate (-places).toNat zero ++ ds, none⟩
    else ⟨negative, ofDigits (ds.take 1), ds.drop 1, some (places - 1)⟩

end Double

end MailboxKeeper.Json
