/-!
# JSON values

A JSON value as it is read and written. Numbers keep the digits they are written with, objects
keep the order of their members. A string literal whose escapes leave a surrogate without its
partner, or among whose bytes some are no character, holds no text, and an object with such a key
no name; either reads as `unreadable`, which may be skipped but used for nothing.
-/

namespace MailboxKeeper

/-- A number literal: sign, digits before and after the point, and exponent. -/
structure Json.Number where
  negative : Bool
  whole : Nat
  fraction : List (Fin 10)
  exponent : Option Int
  deriving DecidableEq, Repr

/-- A JSON value. -/
inductive Json where
  | null
  | bool (b : Bool)
  | number (n : Json.Number)
  | string (s : String)
  | array (items : List Json)
  | object (members : List (String × Json))
  | unreadable

namespace Json

/-- The value of a decimal digit. -/
def digitValue (c : Char) : Fin 10 := Fin.ofNat 10 (c.toNat - 48)

/-- The literal of an integer. -/
def Number.ofInt (n : Int) : Number := ⟨decide (n < 0), n.natAbs, [], none⟩

/-- The integer that a literal without point and exponent denotes. The literal `-0` denotes a
negative zero, which is no integer. -/
def Number.toInt? (n : Number) : Option Int :=
  if n.fraction.isEmpty && n.exponent.isNone then
    if n.negative then
      if n.whole = 0 then none else some (-(n.whole : Int))
    else some n.whole
  else none

@[simp] theorem Number.toInt?_ofInt (n : Int) : (Number.ofInt n).toInt? = some n := by
  unfold Number.ofInt Number.toInt?
  by_cases h : n < 0
  · have h₁ : n.natAbs ≠ 0 := by omega
    have h₂ : (n.natAbs : Int) = -n := by omega
    simp [h, h₁, h₂]
  · have h₂ : (n.natAbs : Int) = n := by omega
    simp [h, h₂]

/-- An integer as a value. -/
def int (n : Int) : Json := .number (.ofInt n)

/-- A natural number as a value. -/
def nat (n : Nat) : Json := int n

/-- A value that may be absent, with `null` for absence. -/
def orNull {α : Type} (f : α → Json) : Option α → Json
  | some a => f a
  | none => null

end Json

end MailboxKeeper
