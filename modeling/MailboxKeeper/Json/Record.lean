import MailboxKeeper.Json.Basic

/-!
# Records in JSON

A record is an object with named members, or an array that holds them in their order, from the
first on. In an object, members with other names are skipped, and a name given twice is an error;
an array may hold no more elements than the record has names.
-/

namespace MailboxKeeper.Json

/-- The text that a value is. -/
def text? : Json → Option String
  | string s => some s
  | _ => none

/-- The truth value that a value is. -/
def bool? : Json → Option Bool
  | bool b => some b
  | _ => none

/-- The integer between `lo` and `hi` that a value is. -/
def intBetween? (lo hi : Int) : Json → Option Int
  | number n => n.toInt?.filter fun i => lo ≤ i && i ≤ hi
  | _ => none

/-- The natural number up to `hi` that a value is. -/
def natUpTo? (hi : Nat) (j : Json) : Option Nat := (j.intBetween? 0 hi).map Int.toNat

/-- What a value is, with absence for `null`. -/
def optional? {α : Type} (read : Json → Option α) : Json → Option (Option α)
  | null => some none
  | j => (read j).map some

/-- The named members of a record. -/
abbrev Record := List (String × Json)

/-- No name occurs twice. -/
def Record.distinct : Record → Bool
  | [] => true
  | m :: ms => !(ms.any fun n => n.1 == m.1) && Record.distinct ms

/-- The record with the given names that a value is. -/
def record? (names : List String) : Json → Option Record
  | object members =>
    let known := members.filter fun m => names.contains m.1
    if Record.distinct known then some known else none
  | array items => if items.length ≤ names.length then some (names.zip items) else none
  | _ => none

namespace Record

variable {α : Type} (r : Record) (name : String) (read : Json → Option α)

/-- The member of a name. -/
def get? : Option Json := (r.find? fun m => m.1 == name).map Prod.snd

/-- What a member is that has to be there. -/
def required? : Option α := (r.get? name).bind read

/-- What a member is, or the default in its absence. -/
def withDefault? (default : α) : Option α :=
  match r.get? name with
  | some j => read j
  | none => some default

/-- What a member is that may be absent or `null`. -/
def optional? : Option (Option α) := r.withDefault? name (Json.optional? read) none

end Record

/-- The choice that a value names: its name as a text, or an object with `null` under that name
and nothing else. -/
def choice? {α : Type} (ofName? : String → Option α) : Json → Option α
  | string s => ofName? s
  | object [(name, null)] => ofName? name
  | _ => none

end MailboxKeeper.Json
