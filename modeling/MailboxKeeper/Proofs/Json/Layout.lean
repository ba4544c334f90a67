import MailboxKeeper.Proofs.Json.Number
import MailboxKeeper.Proofs.Json.Text
import MailboxKeeper.Proofs.Text.Utf8

/-!
# Reading values back

The same value can be laid out on one line or on many: `Spells` relates a value to every text that
has its literals as they are written and, between them, any blanks. Each such text is read as that
value (`parseChars?_of_spells`). Both ways of writing produce one, so whatever is written is read
back.
-/

namespace MailboxKeeper.Json

variable {c : Char} {cs ds gap rest : List Char} {j : Json} {items : List Json}
  {members : List (String × Json)} {fuel : Nat}

/-- A text of blanks. -/
def IsGap (cs : List Char) : Prop := ∀ c ∈ cs, isSpace c = true

mutual

/-- The characters spell the value, with blanks before it or within. -/
inductive Spells : List Char → Json → Prop
  | gap {c : Char} {cs : List Char} {j : Json} : isSpace c = true → Spells cs j → Spells (c :: cs) j
  | null : Spells "null".toList null
  | true : Spells "true".toList (bool true)
  | false : Spells "false".toList (bool false)
  | number (n : Number) : Spells n.render (number n)
  | string (s : String) : Spells (renderText s.toList) (string s)
  | unreadable : Spells "\"\\ud800\"".toList unreadable
  | emptyArray : Spells ['[', ']'] (array [])
  | array {cs : List Char} {items : List Json} : SpellsItems cs items →
      Spells ('[' :: cs) (array items)
  | emptyObject : Spells ['\x7b', '\x7d'] (object [])
  | object {cs : List Char} {members : List (String × Json)} : SpellsMembers cs members →
      Spells ('\x7b' :: cs) (object members)

/-- The characters spell elements, at least one, and the bracket that closes them. -/
inductive SpellsItems : List Char → List Json → Prop
  | last {cs gap : List Char} {j : Json} : Spells cs j → IsGap gap →
      SpellsItems (cs ++ (gap ++ [']'])) [j]
  | more {cs gap ds : List Char} {j : Json} {items : List Json} : Spells cs j → IsGap gap →
      SpellsItems ds items → SpellsItems (cs ++ (gap ++ ',' :: ds)) (j :: items)

/-- The characters spell members, at least one, and the brace that closes them. -/
inductive SpellsMembers : List Char → List (String × Json) → Prop
  | gap {c : Char} {cs : List Char} {members : List (String × Json)} : isSpace c = true →
      SpellsMembers cs members → SpellsMembers (c :: cs) members
  | last {cs gap : List Char} {j : Json} (k : String) : Spells cs j → IsGap gap →
      SpellsMembers (renderText k.toList ++ ':' :: (cs ++ (gap ++ ['\x7d']))) [(k, j)]
  | more {cs gap ds : List Char} {j : Json} {members : List (String × Json)} (k : String) :
      Spells cs j → IsGap gap → SpellsMembers ds members →
      SpellsMembers (renderText k.toList ++ ':' :: (cs ++ (gap ++ ',' :: ds))) ((k, j) :: members)

end

/-! ## Blanks -/

theorem skipSpace_append (blank : IsGap gap) : skipSpace (gap ++ rest) = skipSpace rest :=
  List.dropWhile_append_of_pos blank

theorem skipSpace_cons (blank : isSpace c = true) : skipSpace (c :: cs) = skipSpace cs :=
  List.dropWhile_cons_of_pos blank

theorem skipSpace_skipSpace (cs : List Char) : skipSpace (skipSpace cs) = skipSpace cs := by
  induction cs with
  | nil => rfl
  | cons c cs ih =>
    cases blank : isSpace c with
    | true => rw [skipSpace_cons blank, ih]
    | false => rw [skipSpace_solid blank, skipSpace_solid blank]

theorem readValue_skipSpace (fuel : Nat) (cs : List Char) :
    readValue fuel (skipSpace cs) = readValue fuel cs := by
  cases fuel with
  | zero => rw [readValue, readValue]
  | succ fuel => rw [readValue, readValue, skipSpace_skipSpace]

theorem readItems_skipSpace (fuel : Nat) (cs : List Char) :
    readItems fuel (skipSpace cs) = readItems fuel cs := by
  cases fuel with
  | zero => rw [readItems, readItems]
  | succ fuel => rw [readItems, readItems, readValue_skipSpace]

theorem readMembers_skipSpace (fuel : Nat) (cs : List Char) :
    readMembers fuel (skipSpace cs) = readMembers fuel cs := by
  cases fuel with
  | zero => rw [readMembers, readMembers]
  | succ fuel => rw [readMembers, readMembers, skipSpace_skipSpace]

theorem continuesNumber_of_isSpace (blank : isSpace c = true) : continuesNumber c = false := by
  simp only [isSpace, Bool.or_eq_true, beq_iff_eq] at blank
  rcases blank with ((rfl | rfl) | rfl) | rfl <;> rfl

/-- Neither a blank nor what comes after it goes on with a number. -/
theorem stops_append (blank : IsGap gap) (other : continuesNumber c = false) (rest : List Char) :
    Stops (gap ++ c :: rest) := by
  cases gap with
  | nil => exact Stops.cons other
  | cons d gap => exact Stops.cons (continuesNumber_of_isSpace (blank d List.mem_cons_self))

theorem skipSpace_append_cons (blank : IsGap gap) (solid : isSpace c = false) :
    skipSpace (gap ++ c :: rest) = c :: rest := by
  rw [skipSpace_append blank, skipSpace_solid solid]

/-! ## Steps of the reader -/

/-- No number begins with a blank. -/
theorem isSpace_of_begins (first : c = '-' ∨ c.isDigit = true) : isSpace c = false := by
  rw [← Bool.not_eq_true]
  intro blank
  simp only [isSpace, Bool.or_eq_true, beq_iff_eq] at blank
  rcases blank with ((rfl | rfl) | rfl) | rfl <;> rcases first with wrong | wrong <;> cases wrong

theorem readValue_number (n : Number) (stops : Stops rest) (fuel : Nat) :
    readValue (fuel + 1) (n.render ++ rest) = some (.number n, rest) := by
  have read := readNumber_render n stops
  obtain ⟨c, cs, same, first⟩ := n.exists_render_eq_cons
  have solid := isSpace_of_begins first
  rw [same, List.cons_append] at read ⊢
  rw [readValue, skipSpace_solid solid]
  split
  case h_7 => rw [read]; rfl
  all_goals
    rename_i found
    obtain ⟨rfl, -⟩ := List.cons.inj found
    rcases first with wrong | wrong <;> cases wrong

theorem readValue_array (solid : ∀ ds, skipSpace cs ≠ ']' :: ds) (fuel : Nat) :
    readValue (fuel + 1) ('[' :: cs) = (readItems fuel cs).map fun p => (.array p.1, p.2) := by
  rw [readValue, skipSpace_solid (by decide)]
  simp only [readItems_skipSpace]
  cases readItems fuel cs <;> rfl

theorem readValue_members (solid : ∀ ds, skipSpace cs ≠ '\x7d' :: ds) (fuel : Nat) :
    readValue (fuel + 1) ('\x7b' :: cs) = readMembers fuel cs := by
  rw [readValue, skipSpace_solid (by decide)]
  simp only [readMembers_skipSpace]

theorem readItems_last (read : readValue fuel cs = some (j, gap ++ ']' :: rest))
    (blank : IsGap gap) : readItems (fuel + 1) cs = some ([j], rest) := by
  have bracket : skipSpace (gap ++ ']' :: rest) = ']' :: rest :=
    skipSpace_append_cons blank (by decide)
  rw [readItems, read]
  simp [bracket]

theorem readItems_more (read : readValue fuel cs = some (j, gap ++ ',' :: ds))
    (blank : IsGap gap) :
    readItems (fuel + 1) cs = (readItems fuel ds).map fun p => (j :: p.1, p.2) := by
  have comma : skipSpace (gap ++ ',' :: ds) = ',' :: ds := skipSpace_append_cons blank (by decide)
  rw [readItems, read]
  simp only [comma, Option.pure_def, Option.bind_eq_bind, Option.bind_some]
  cases readItems fuel ds <;> rfl

theorem readMembers_gap (blank : isSpace c = true) :
    readMembers fuel (c :: cs) = readMembers fuel cs := by
  rw [← readMembers_skipSpace, skipSpace_cons blank, readMembers_skipSpace]

theorem readMembers_last {k : String} (read : readValue fuel cs = some (j, gap ++ '\x7d' :: rest))
    (blank : IsGap gap) :
    readMembers (fuel + 1) (renderText k.toList ++ ':' :: cs) = some (.object [(k, j)], rest) := by
  have colon : skipSpace (':' :: cs) = ':' :: cs := skipSpace_solid (by decide)
  have brace : skipSpace (gap ++ '\x7d' :: rest) = '\x7d' :: rest :=
    skipSpace_append_cons blank (by decide)
  rw [renderText_append, readMembers, skipSpace_solid (by decide)]
  simp [readText_flatMap, colon, read, brace, addMember]

theorem readMembers_more {k : String} (read : readValue fuel cs = some (j, gap ++ ',' :: ds))
    (blank : IsGap gap) :
    readMembers (fuel + 1) (renderText k.toList ++ ':' :: cs)
      = (readMembers fuel ds).map fun p => (addMember (some k.toList) j p.1, p.2) := by
  have colon : skipSpace (':' :: cs) = ':' :: cs := skipSpace_solid (by decide)
  have comma : skipSpace (gap ++ ',' :: ds) = ',' :: ds := skipSpace_append_cons blank (by decide)
  rw [renderText_append, readMembers, skipSpace_solid (by decide)]
  simp only [readText_flatMap, colon, read, comma, Option.pure_def, Option.bind_eq_bind,
    Option.bind_some]
  cases readMembers fuel ds <;> rfl

/-! ## Every spelling is read -/

theorem Spells.skipSpace_ne : ∀ {cs : List Char} {j : Json}, Spells cs j →
    ∀ rest ds, skipSpace (cs ++ rest) ≠ ']' :: ds
  | _, _, .gap blank spelled, rest, ds => by
    rw [List.cons_append, skipSpace_cons blank]
    exact spelled.skipSpace_ne rest ds
  | _, _, .number n, rest, ds => by
    obtain ⟨c, cs, same, first⟩ := n.exists_render_eq_cons
    rw [same, List.cons_append, skipSpace_solid (isSpace_of_begins first)]
    intro found
    obtain ⟨rfl, -⟩ := List.cons.inj found
    rcases first with wrong | wrong <;> cases wrong
  | _, _, .null, rest, ds => nofun
  | _, _, .true, rest, ds => nofun
  | _, _, .false, rest, ds => nofun
  | _, _, .string s, rest, ds => nofun
  | _, _, .unreadable, rest, ds => nofun
  | _, _, .emptyArray, rest, ds => nofun
  | _, _, .array items, rest, ds => nofun
  | _, _, .emptyObject, rest, ds => nofun
  | _, _, .object members, rest, ds => nofun

theorem SpellsItems.skipSpace_ne (spelled : SpellsItems cs items) (rest ds : List Char) :
    skipSpace (cs ++ rest) ≠ ']' :: ds := by
  cases spelled with
  | last spelled _ =>
    rw [List.append_assoc]
    exact spelled.skipSpace_ne _ ds
  | more spelled _ _ =>
    rw [List.append_assoc]
    exact spelled.skipSpace_ne _ ds

theorem SpellsMembers.skipSpace_ne : ∀ {cs : List Char} {members : List (String × Json)},
    SpellsMembers cs members → ∀ rest ds, skipSpace (cs ++ rest) ≠ '\x7d' :: ds
  | _, _, .gap blank spelled, rest, ds => by
    rw [List.cons_append, skipSpace_cons blank]
    exact spelled.skipSpace_ne rest ds
  | _, _, .last k _ _, rest, ds => nofun
  | _, _, .more k _ _ _, rest, ds => nofun

mutual

/-- Each recursive call of the reader is on a shorter text, so the length of the text is enough
to bound them. -/
theorem readValue_of_spells {cs : List Char} {j : Json} (spelled : Spells cs j) {fuel : Nat}
    {rest : List Char} (long : cs.length < fuel) (stops : Stops rest) :
    readValue fuel (cs ++ rest) = some (j, rest) := by
  obtain ⟨fuel, rfl⟩ := Nat.exists_eq_add_one_of_ne_zero (Nat.ne_zero_of_lt long)
  match spelled with
  | @Spells.gap c cs j blank spelled =>
    rw [← readValue_skipSpace, List.cons_append, skipSpace_cons blank, readValue_skipSpace]
    exact readValue_of_spells spelled (Nat.lt_of_succ_lt long) stops
  | .null => rfl
  | .true => rfl
  | .false => rfl
  | .number n => exact readValue_number n stops fuel
  | .string s => exact readValue_text fuel s rest
  | .unreadable => rfl
  | .emptyArray => rfl
  | @Spells.array cs items spelled =>
    rw [List.cons_append, readValue_array (spelled.skipSpace_ne rest),
      readItems_of_spells spelled (Nat.lt_of_succ_lt_succ long)]
    rfl
  | .emptyObject => rfl
  | @Spells.object cs members spelled =>
    rw [List.cons_append, readValue_members (spelled.skipSpace_ne rest)]
    exact readMembers_of_spells spelled (Nat.lt_of_succ_lt_succ long)

theorem readItems_of_spells {cs : List Char} {items : List Json} (spelled : SpellsItems cs items)
    {fuel : Nat} {rest : List Char} (long : cs.length < fuel) :
    readItems fuel (cs ++ rest) = some (items, rest) := by
  obtain ⟨fuel, rfl⟩ := Nat.exists_eq_add_one_of_ne_zero (Nat.ne_zero_of_lt long)
  match spelled with
  | @SpellsItems.last cs gap j spelled blank =>
    simp only [List.length_append, List.length_cons] at long
    have read := readValue_of_spells spelled (show cs.length < fuel by omega)
      (stops_append (c := ']') blank rfl rest)
    rw [List.append_assoc, List.append_assoc]
    exact readItems_last read blank
  | @SpellsItems.more cs gap ds j items spelled blank others =>
    simp only [List.length_append, List.length_cons] at long
    have read := readValue_of_spells spelled (show cs.length < fuel by omega)
      (stops_append (c := ',') blank rfl (ds ++ rest))
    rw [List.append_assoc, List.append_assoc, List.cons_append, readItems_more read blank,
      readItems_of_spells others (by omega)]
    rfl

theorem readMembers_of_spells {cs : List Char} {members : List (String × Json)}
    (spelled : SpellsMembers cs members) {fuel : Nat} {rest : List Char} (long : cs.length < fuel) :
    readMembers fuel (cs ++ rest) = some (.object members, rest) := by
  obtain ⟨fuel, rfl⟩ := Nat.exists_eq_add_one_of_ne_zero (Nat.ne_zero_of_lt long)
  match spelled with
  | @SpellsMembers.gap c cs members blank spelled =>
    rw [List.cons_append, readMembers_gap blank]
    exact readMembers_of_spells spelled (Nat.lt_of_succ_lt long)
  | @SpellsMembers.last cs gap j k spelled blank =>
    simp only [List.length_append, List.length_cons] at long
    have read := readValue_of_spells spelled (show cs.length < fuel by omega)
      (stops_append (c := '\x7d') blank rfl rest)
    rw [List.append_assoc, List.cons_append, List.append_assoc, List.append_assoc]
    exact readMembers_last read blank
  | @SpellsMembers.more cs gap ds j members k spelled blank others =>
    simp only [List.length_append, List.length_cons] at long
    have read := readValue_of_spells spelled (show cs.length < fuel by omega)
      (stops_append (c := ',') blank rfl (ds ++ rest))
    rw [List.append_assoc, List.cons_append, List.append_assoc, List.append_assoc,
      List.cons_append, readMembers_more read blank, readMembers_of_spells others (by omega)]
    simp [addMember]

end

theorem parseChars?_of_spells (spelled : Spells cs j) : parseChars? cs = some j := by
  have stops : Stops [] := nofun
  have read := readValue_of_spells spelled (Nat.lt_succ_self cs.length) stops
  rw [List.append_nil] at read
  rw [parseChars?, read]
  rfl

/-! ## What is written -/

theorem isGap_nil : IsGap [] := nofun

theorem isGap_newline (depth : Nat) : IsGap (newline depth) := by
  refine List.forall_mem_cons.2 ⟨rfl, ?_⟩
  intro c member
  rw [List.eq_of_mem_replicate member]
  rfl

theorem Spells.append (spelled : Spells cs j) : ∀ {gap : List Char}, IsGap gap →
    Spells (gap ++ cs) j
  | [], _ => spelled
  | _ :: _, blank =>
    .gap (List.forall_mem_cons.1 blank).1 (spelled.append (List.forall_mem_cons.1 blank).2)

theorem SpellsMembers.append (spelled : SpellsMembers cs members) : ∀ {gap : List Char},
    IsGap gap → SpellsMembers (gap ++ cs) members
  | [], _ => spelled
  | _ :: _, blank =>
    .gap (List.forall_mem_cons.1 blank).1 (spelled.append (List.forall_mem_cons.1 blank).2)

theorem SpellsItems.append (spelled : SpellsItems cs items) (blank : IsGap gap) :
    SpellsItems (gap ++ cs) items := by
  cases spelled with
  | last spelled after =>
    rw [← List.append_assoc]
    exact .last (spelled.append blank) after
  | more spelled after others =>
    rw [← List.append_assoc]
    exact .more (spelled.append blank) after others

mutual

theorem spells_renderChars : ∀ j : Json, Spells (renderChars j) j
  | null => .null
  | bool Bool.true => .true
  | bool Bool.false => .false
  | number n => .number n
  | string s => .string s
  | unreadable => .unreadable
  | array [] => .emptyArray
  | array (j :: items) => .array (spells_renderItems (j :: items) (List.cons_ne_nil _ _))
  | object [] => .emptyObject
  | object (m :: members) => .object (spells_renderMembers (m :: members) (List.cons_ne_nil _ _))

theorem spells_renderItems : ∀ items : List Json, items ≠ [] →
    SpellsItems (renderItems items) items
  | [], solid => absurd rfl solid
  | [j], _ => .last (spells_renderChars j) isGap_nil
  | j :: next :: items, _ =>
    .more (spells_renderChars j) isGap_nil
      (spells_renderItems (next :: items) (List.cons_ne_nil _ _))

theorem spells_renderMembers : ∀ members : List (String × Json), members ≠ [] →
    SpellsMembers (renderMembers members) members
  | [], solid => absurd rfl solid
  | [(k, j)], _ => .last k (spells_renderChars j) isGap_nil
  | (k, j) :: next :: members, _ =>
    .more k (spells_renderChars j) isGap_nil
      (spells_renderMembers (next :: members) (List.cons_ne_nil _ _))

end

mutual

theorem spells_prettyChars : ∀ (depth : Nat) (j : Json), Spells (prettyChars depth j) j
  | _, null => .null
  | _, bool Bool.true => .true
  | _, bool Bool.false => .false
  | _, number n => .number n
  | _, string s => .string s
  | _, unreadable => .unreadable
  | _, array [] => .emptyArray
  | depth, array (j :: items) =>
    .array ((spells_prettyItems depth (j :: items) (List.cons_ne_nil _ _)).append
      (isGap_newline _))
  | _, object [] => .emptyObject
  | depth, object (m :: members) =>
    .object ((spells_prettyMembers depth (m :: members) (List.cons_ne_nil _ _)).append
      (isGap_newline _))

theorem spells_prettyItems : ∀ (depth : Nat) (items : List Json), items ≠ [] →
    SpellsItems (prettyItems depth items) items
  | _, [], solid => absurd rfl solid
  | depth, [j], _ => by
    have spelled := SpellsItems.last (spells_prettyChars (depth + 1) j) (isGap_newline depth)
    simpa [prettyItems] using spelled
  | depth, j :: next :: items, _ => by
    have others := (spells_prettyItems depth (next :: items) (List.cons_ne_nil _ _)).append
      (isGap_newline (depth + 1))
    have spelled := SpellsItems.more (spells_prettyChars (depth + 1) j) isGap_nil others
    simpa [prettyItems] using spelled

theorem spells_prettyMembers : ∀ (depth : Nat) (members : List (String × Json)), members ≠ [] →
    SpellsMembers (prettyMembers depth members) members
  | _, [], solid => absurd rfl solid
  | depth, [(k, j)], _ => by
    have value := (spells_prettyChars (depth + 1) j).gap (c := ' ') rfl
    have spelled := SpellsMembers.last k value (isGap_newline depth)
    simpa [prettyMembers] using spelled
  | depth, (k, j) :: next :: members, _ => by
    have value := (spells_prettyChars (depth + 1) j).gap (c := ' ') rfl
    have others := (spells_prettyMembers depth (next :: members) (List.cons_ne_nil _ _)).append
      (isGap_newline (depth + 1))
    have spelled := SpellsMembers.more k value isGap_nil others
    simpa [prettyMembers] using spelled

end

theorem parse?_render (j : Json) : parse? (render j) = some j := by
  rw [parse?, render, String.toList_ofList]
  exact parseChars?_of_spells (spells_renderChars j)

theorem parse?_renderPretty (j : Json) : parse? (renderPretty j) = some j := by
  rw [parse?, renderPretty, String.toList_ofList]
  exact parseChars?_of_spells (spells_prettyChars 0 j)

/-- It is one to read a text and to read its bytes. -/
theorem ofBytes?_bytes (text : String) : ofBytes? (Text.bytes text) = parse? text := by
  rw [ofBytes?, Text.bytes, Text.decodeMarked_utf8, parse?]

end MailboxKeeper.Json
