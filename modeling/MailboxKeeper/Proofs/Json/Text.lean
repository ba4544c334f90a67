import MailboxKeeper.Json.Parser
import MailboxKeeper.Json.Printer

/-!
# Reading texts back

A text that is written as a string literal is read back as it was, whatever its characters
(`readText_flatMap`). What surrounds a literal does not matter: the reader stops right behind it.
-/

namespace MailboxKeeper.Json

/-- The four digits of a control character give its code. -/
theorem hex4?_control :
    ∀ n < 0x20, hex4? '0' '0' (hexDigit (n / 16)) (hexDigit (n % 16)) = some n := by
  decide

theorem scanText_escape {e c : Char} {rest : List Char} (other : e ≠ 'u')
    (escape : simpleEscape? e = some c) :
    scanText ('\\' :: e :: rest) = (scanText rest).map fun p => (.char c :: p.1, p.2) := by
  rw [scanText, escape]
  · cases scanText rest <;> rfl
  · rintro a b c d rest same -
    exact other same

theorem scanText_plain {c : Char} {rest : List Char} (quote : c ≠ '"') (backslash : c ≠ '\\')
    (printable : ¬c.toNat < 0x20) :
    scanText (c :: rest) = (scanText rest).map fun p => (.char c :: p.1, p.2) := by
  rw [scanText, if_neg (by simp [printable, backslash])]
  · cases scanText rest <;> rfl
  · exact quote
  · rintro a b c d rest same -
    exact backslash same
  · rintro e rest same -
    exact backslash same

/-- A character that is written in a literal is read back as one. -/
theorem scanText_escapeChar (c : Char) (rest : List Char) :
    scanText (escapeChar c ++ rest) = (scanText rest).map fun p => (.char c :: p.1, p.2) := by
  unfold escapeChar
  split
  · rename_i same; subst same; exact scanText_escape (by decide) rfl
  · rename_i quote
    split
    · rename_i same; subst same; exact scanText_escape (by decide) rfl
    · rename_i backslash
      split
      · rename_i same; subst same; exact scanText_escape (by decide) rfl
      · split
        · rename_i same; subst same; exact scanText_escape (by decide) rfl
        · split
          · rename_i same; subst same; exact scanText_escape (by decide) rfl
          · split
            · rename_i code
              have same : c = Char.ofNat 8 := by rw [← code, Char.ofNat_toNat]
              subst same
              exact scanText_escape (by decide) rfl
            · split
              · rename_i code
                have same : c = Char.ofNat 12 := by rw [← code, Char.ofNat_toNat]
                subst same
                exact scanText_escape (by decide) rfl
              · split
                · rename_i control
                  have unit : Piece.ofUnit c.toNat = .char c := by
                    rw [Piece.ofUnit, if_neg (by omega), Char.ofNat_toNat]
                  show scanText ('\\' :: 'u' :: '0' :: '0' :: _ :: _ :: rest) = _
                  rw [scanText, hex4?_control c.toNat control]
                  cases scanText rest with
                  | none => rfl
                  | some p => simp [unit]
                · rename_i printable
                  exact scanText_plain quote backslash printable

theorem scanText_flatMap (cs rest : List Char) :
    scanText (cs.flatMap escapeChar ++ '"' :: rest) = some (cs.map Piece.char, rest) := by
  induction cs with
  | nil => rfl
  | cons c cs ih =>
    rw [List.flatMap_cons, List.append_assoc, scanText_escapeChar, ih]
    rfl

theorem joinPieces_char (cs : List Char) : joinPieces (cs.map Piece.char) = some cs := by
  induction cs with
  | nil => rfl
  | cons c cs ih =>
    rw [List.map_cons, joinPieces, ih]
    rfl

/-- A literal is read up to its closing quote. -/
theorem readText_flatMap (cs rest : List Char) :
    readText (cs.flatMap escapeChar ++ '"' :: rest) = some (some cs, rest) := by
  rw [readText, scanText_flatMap]
  show some (joinPieces _, rest) = _
  rw [joinPieces_char]

theorem renderText_append (cs rest : List Char) :
    renderText cs ++ rest = '"' :: (cs.flatMap escapeChar ++ '"' :: rest) := by
  simp [renderText]

theorem skipSpace_solid {c : Char} {rest : List Char} (solid : isSpace c = false) :
    skipSpace (c :: rest) = c :: rest := by
  rw [skipSpace, List.dropWhile_cons, solid, if_neg Bool.false_ne_true]

theorem readValue_text (fuel : Nat) (s : String) (rest : List Char) :
    readValue (fuel + 1) (renderText s.toList ++ rest) = some (.string s, rest) := by
  rw [renderText_append, readValue, skipSpace_solid (by decide)]
  simp [readText_flatMap]

end MailboxKeeper.Json
