import MailboxKeeper.Json.Double

/-!
# Numbers of 64 bits

A value that is kept as data has numbers of 64 bits only. An integer that fits stays as it is;
every other number becomes a double. Its digits are read into 64 bits from the left, as far as
they fit, before the power of ten is applied.
-/

namespace MailboxKeeper.Json

/-- Does a number without a sign fit into 64 bits? -/
def fits (n : Nat) : Bool := n < Nat.pow 2 64

/-- The digits of a number that fit, and how many are left out. -/
def leading (n : Nat) : Nat × Nat :=
  if _h : fits n = true then (n, 0)
  else
    let (kept, more) := leading (n / 10)
    (kept, more + 1)
termination_by n
decreasing_by
  have : n ≠ 0 := by
    intro h0
    subst h0
    exact _h (by decide)
  omega

/-- A number with the digits after its point, as far as they fit, and the power of ten that makes
up for the point. -/
def withFraction (n : Nat) (power : Int) : List (Fin 10) → Nat × Int
  | [] => (n, power)
  | d :: ds =>
    let next := n * 10 + d.val
    if fits next then withFraction next (power - 1) ds else (n, power)

/-- The double for a literal, unless the literal is out of their range. -/
def Number.toDouble? (n : Number) : Option Double :=
  let (whole, more) := leading n.whole
  let (factor, power) := withFraction whole more n.fraction
  Double.ofScaled? factor (power + n.exponent.getD 0)

/-- The integers that are kept as they are. -/
def isKept (n : Int) : Bool := -(Nat.pow 2 63 : Int) ≤ n && n < (Nat.pow 2 64 : Int)

/-- A number as data, unless it is out of range. -/
def Number.narrow? (n : Number) : Option Number :=
  if (n.toInt?.map isKept).getD false then some n
  else n.toDouble?.map fun x => x.toNumber n.negative

mutual

/-- A value as data, unless a number in it is out of range. -/
def narrow? : Json → Option Json
  | number n => n.narrow?.map number
  | array items => (narrowItems? items).map array
  | object members => (narrowMembers? members).map object
  | j => some j

/-- Items as data. -/
def narrowItems? : List Json → Option (List Json)
  | [] => some []
  | j :: js => do return (← narrow? j) :: (← narrowItems? js)

/-- Members as data. -/
def narrowMembers? : List (String × Json) → Option (List (String × Json))
  | [] => some []
  | (k, j) :: ms => do return (k, ← narrow? j) :: (← narrowMembers? ms)

end

end MailboxKeeper.Json
