import MailboxKeeper.Json.Parser
import MailboxKeeper.Json.Printer
import MailboxKeeper.Proofs.Text.Run

/-!
# Reading numbers back

A literal is written with the digits that it has, and these are read back one by one
(`readNumber_render`), however many there are. Nothing marks the end of a number but what comes
next: it must not go on with a digit, a point or an exponent (`Stops`).
-/

namespace MailboxKeeper.Json

variable {c : Char} {cs ds rest : List Char} {n : Nat}

/-! ## Digits -/

theorem digitsValue_append_singleton (ds : List Char) (c : Char) :
    digitsValue (ds ++ [c]) = digitsValue ds * 10 + (digitValue c).val := by
  rw [digitsValue, List.foldl_append]
  rfl

theorem digitValue_digitChar : ∀ d : Fin 10, digitValue (Nat.digitChar d) = d := by decide

theorem val_digitValue_digitChar (small : n < 10) : (digitValue (Nat.digitChar n)).val = n :=
  congrArg Fin.val (digitValue_digitChar ⟨n, small⟩)

theorem isDigit_digitChar : ∀ d : Fin 10, (Nat.digitChar d).isDigit = true := by decide

theorem digitsValue_renderNat (n : Nat) : digitsValue (renderNat n) = n := by
  induction n using Nat.strongRecOn with
  | ind n ih =>
    unfold renderNat at ih ⊢
    by_cases small : n < 10
    · rw [Nat.toDigits_of_lt_base small]
      exact (Nat.zero_add _).trans (val_digitValue_digitChar small)
    · rw [Nat.toDigits_of_base_le (by decide) (by omega), digitsValue_append_singleton,
        ih (n / 10) (by omega), val_digitValue_digitChar (by omega)]
      omega

theorem isDigit_of_mem_renderNat (member : c ∈ renderNat n) : c.isDigit = true :=
  Nat.isDigit_of_mem_toDigits (by decide) (by decide) member

theorem renderNat_ne_nil (n : Nat) : renderNat n ≠ [] := Nat.toDigits_ne_nil

theorem isDigit_of_mem_map {ds : List (Fin 10)} (member : c ∈ ds.map fun d => Nat.digitChar d.val) :
    c.isDigit = true := by
  obtain ⟨d, -, rfl⟩ := List.mem_map.1 member
  exact isDigit_digitChar d

/-- A number that is not zero does not begin with a zero. -/
theorem head?_renderNat_ne (positive : 0 < n) : (renderNat n).head? ≠ some '0' := by
  induction n using Nat.strongRecOn with
  | ind n ih =>
    unfold renderNat at ih ⊢
    by_cases small : n < 10
    · have all : ∀ d : Fin 10, 0 < d.val → some (Nat.digitChar d) ≠ some '0' := by decide
      rw [Nat.toDigits_of_lt_base small]
      exact all ⟨n, small⟩ positive
    · have other := ih (n / 10) (by omega) (by omega)
      rw [Nat.toDigits_of_base_le (by decide) (by omega), List.head?_append]
      cases first : (Nat.toDigits 10 (n / 10)).head? with
      | none => exact absurd (List.head?_eq_none_iff.1 first) Nat.toDigits_ne_nil
      | some c =>
        rw [first] at other
        exact other

theorem readDigits_append (digits : ∀ c ∈ ds, c.isDigit = true) (some : ds ≠ [])
    (stop : ∀ c ∈ rest.head?, c.isDigit = false) : readDigits (ds ++ rest) = .some (ds, rest) := by
  rw [readDigits, Text.takeWhile_append_of_stop digits stop, List.dropWhile_append_of_pos digits,
    Text.dropWhile_of_stop stop]
  exact if_neg (by simpa using some)

theorem readWhole_append (n : Nat) (stop : ∀ c ∈ rest.head?, c.isDigit = false) :
    readWhole (renderNat n ++ rest) = some (n, rest) := by
  have plain : ¬((renderNat n).head? = some '0' ∧ (renderNat n).length ≠ 1) := by
    rintro ⟨zero, long⟩
    rcases Nat.eq_zero_or_pos n with rfl | positive
    · exact long rfl
    · exact head?_renderNat_ne positive zero
  rw [readWhole, readDigits_append (fun _ => isDigit_of_mem_renderNat) (renderNat_ne_nil n) stop]
  show (if _ then none else some (digitsValue (renderNat n), rest)) = _
  rw [if_neg plain, digitsValue_renderNat]

/-! ## The parts of a literal -/

/-- A character with which a number could go on. -/
def continuesNumber (c : Char) : Bool := c.isDigit || c == '.' || c == 'e' || c == 'E'

theorem continuesNumber_eq_false_iff :
    continuesNumber c = false ↔ c.isDigit = false ∧ c ≠ '.' ∧ c ≠ 'e' ∧ c ≠ 'E' := by
  simp [continuesNumber, and_assoc]

/-- The text does not go on with a number that stands before it. -/
def Stops (rest : List Char) : Prop := ∀ c ∈ rest.head?, continuesNumber c = false

theorem Stops.isDigit (stops : Stops rest) : ∀ c ∈ rest.head?, c.isDigit = false :=
  fun c first => (continuesNumber_eq_false_iff.1 (stops c first)).1

theorem Stops.cons (other : continuesNumber c = false) : Stops (c :: rest) := by
  intro d first
  cases first
  exact other

/-- The point and the digits after it. -/
def renderFraction (ds : List (Fin 10)) : List Char :=
  if ds.isEmpty then [] else '.' :: ds.map fun d => Nat.digitChar d.val

/-- The exponent. -/
def renderExponent : Option Int → List Char
  | some e => 'e' :: renderInt e
  | none => []

theorem Number.render_eq (n : Number) : n.render = (if n.negative then ['-'] else [])
    ++ (renderNat n.whole ++ (renderFraction n.fraction ++ renderExponent n.exponent)) := by
  rw [Number.render, renderFraction]
  simp only [List.append_assoc]
  cases n.exponent <;> rfl

/-- Digits are no sign. -/
theorem exists_renderNat_eq_cons (n : Nat) :
    ∃ c cs, renderNat n = c :: cs ∧ c.isDigit = true ∧ c ≠ '-' ∧ c ≠ '+' := by
  obtain ⟨c, cs, same⟩ := List.exists_cons_of_ne_nil (renderNat_ne_nil n)
  have digit : c.isDigit = true := isDigit_of_mem_renderNat (n := n) (by simp [same])
  refine ⟨c, cs, same, digit, ?_, ?_⟩
  all_goals
    rintro rfl
    cases digit

theorem readExponent_append (e : Option Int) (stops : Stops rest) :
    readExponent (renderExponent e ++ rest) = some (e, rest) := by
  cases e with
  | none =>
    cases rest with
    | nil => rfl
    | cons c rest =>
      obtain ⟨-, -, small, capital⟩ := continuesNumber_eq_false_iff.1 (stops c rfl)
      exact if_neg (not_or.2 ⟨small, capital⟩)
  | some e =>
    have read := readDigits_append (fun c => isDigit_of_mem_renderNat (c := c) (n := e.natAbs))
      (renderNat_ne_nil _) stops.isDigit
    have value := digitsValue_renderNat e.natAbs
    show readExponent ('e' :: (renderInt e ++ rest)) = _
    unfold readExponent renderInt
    dsimp only
    rw [if_pos (.inl rfl)]
    by_cases negative : e < 0
    · have same : -(e.natAbs : Int) = e := by omega
      rw [if_pos negative]
      show (readDigits (renderNat e.natAbs ++ rest)).bind _ = _
      rw [read]
      show some (some (-(digitsValue (renderNat e.natAbs) : Int)), rest) = _
      rw [value, same]
    · have same : (e.natAbs : Int) = e := by omega
      obtain ⟨c, cs, digits, -, minus, plus⟩ := exists_renderNat_eq_cons e.natAbs
      rw [if_neg negative]
      rw [digits, List.cons_append] at read ⊢
      split
      · rename_i found
        cases found
        exact absurd rfl minus
      · rename_i found
        cases found
        exact absurd rfl plus
      · rw [read]
        show some (some ((digitsValue (c :: cs) : Int)), rest) = _
        rw [← digits, value, same]

theorem readFraction_append (ds : List (Fin 10)) (stop : ∀ c ∈ rest.head?, c.isDigit = false)
    (point : ∀ c ∈ rest.head?, c ≠ '.') :
    readFraction (renderFraction ds ++ rest) = some (ds, rest) := by
  unfold renderFraction
  by_cases none : ds = []
  · subst none
    show readFraction rest = _
    unfold readFraction
    split
    · exact absurd rfl (point '.' rfl)
    · rfl
  · have digits : ∀ c ∈ ds.map fun d => Nat.digitChar d.val, c.isDigit = true :=
      fun _ => isDigit_of_mem_map
    have read := readDigits_append digits (by simpa using none) stop
    have value : (ds.map fun d => Nat.digitChar d.val).map digitValue = ds := by
      rw [List.map_map]
      exact (List.map_congr_left fun d _ => digitValue_digitChar d).trans (List.map_id ds)
    rw [if_neg (by simpa using none), List.cons_append, readFraction, read]
    show some (List.map digitValue _, rest) = _
    rw [value]

/-! ## Whole literals -/

theorem head?_renderExponent (e : Option Int) (stops : Stops rest) :
    ∀ c ∈ (renderExponent e ++ rest).head?, c.isDigit = false ∧ c ≠ '.' := by
  cases e with
  | none =>
    intro c first
    obtain ⟨digit, point, -, -⟩ := continuesNumber_eq_false_iff.1 (stops c first)
    exact ⟨digit, point⟩
  | some e =>
    intro c first
    cases first
    decide

theorem head?_renderFraction (ds : List (Fin 10)) (e : Option Int) (stops : Stops rest) :
    ∀ c ∈ (renderFraction ds ++ (renderExponent e ++ rest)).head?, c.isDigit = false := by
  unfold renderFraction
  split
  · exact fun c first => (head?_renderExponent e stops c first).1
  · intro c first
    cases first
    rfl

theorem readUnsigned_append (negative : Bool) (n : Number) (stops : Stops rest) :
    readUnsigned negative (renderNat n.whole ++ (renderFraction n.fraction
      ++ (renderExponent n.exponent ++ rest))) = some ({ n with negative := negative }, rest) := by
  have next := head?_renderExponent n.exponent stops
  rw [readUnsigned, readWhole_append n.whole (head?_renderFraction _ _ stops)]
  show (readFraction _).bind _ = _
  rw [readFraction_append n.fraction (fun c first => (next c first).1)
    (fun c first => (next c first).2)]
  show (readExponent _).bind _ = _
  rw [readExponent_append n.exponent stops]
  rfl

/-- A literal begins with its sign or a digit. -/
theorem Number.exists_render_eq_cons (n : Number) :
    ∃ c cs, n.render = c :: cs ∧ (c = '-' ∨ c.isDigit = true) := by
  rw [n.render_eq]
  cases n.negative with
  | true => exact ⟨'-', _, rfl, .inl rfl⟩
  | false =>
    obtain ⟨c, cs, same, digit, -, -⟩ := exists_renderNat_eq_cons n.whole
    exact ⟨c, _, by rw [same]; rfl, .inr digit⟩

/-- A number is read back up to where it ends. -/
theorem readNumber_render (n : Number) (stops : Stops rest) :
    readNumber (n.render ++ rest) = some (n, rest) := by
  have read := fun negative => readUnsigned_append negative n stops
  obtain ⟨negative, whole, fraction, exponent⟩ := n
  rw [Number.render_eq]
  simp only [List.append_assoc]
  cases negative with
  | true => exact read true
  | false =>
    obtain ⟨c, cs, same, -, minus, -⟩ := exists_renderNat_eq_cons whole
    have read := read false
    simp only [same, List.cons_append] at read ⊢
    show readNumber (c :: _) = _
    unfold readNumber
    split
    · rename_i found
      cases found
      exact absurd rfl minus
    · exact read

end MailboxKeeper.Json
