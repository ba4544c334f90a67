import MailboxKeeper.Security
import MailboxKeeper.Text.Fold
import Mathlib.Data.List.Infix

/-!
# The security that a free text describes

The text is made small by the full mapping of Unicode before a word is looked for in it, but the
words consist of three letters that no character beyond ASCII is mapped to, whatever stands around
it. So the text mentions a word if three characters in a row are its letters, up to the case of
ASCII (`describes_ofMode`); and what it describes depends on nothing but its letters in small
(`ofMode_eq_of_fold_eq`).
-/

namespace MailboxKeeper.Security

open Text

/-- Somewhere in the text the letters of a word stand in a row, in either case. -/
def Mentions (word mode : String) : Prop :=
  ∃ found, found <:+: mode.toList ∧ fold found = word.toList

/-- What a free text describes: TLS if it mentions that, or else SSL if it mentions that. -/
inductive Describes (mode : String) : Security → Prop where
  | tls (mention : Mentions "tls" mode) : Describes mode .tls
  | ssl (other : ¬Mentions "tls" mode) (mention : Mentions "ssl" mode) : Describes mode .ssl
  | cleartext (other : ¬Mentions "tls" mode) (another : ¬Mentions "ssl" mode) :
      Describes mode .cleartext

/-- A letter of the words that are looked for. -/
def IsWordLetter (x : Char) : Prop := x = 't' ∨ x = 'l' ∨ x = 's'

variable {x c : Char} {cs word before after passed : List Char}

theorem mentions_iff_infix : mentions word cs = true ↔ word <:+: cs := by
  induction cs with
  | nil => rw [mentions, List.isEmpty_iff, List.infix_nil]
  | cons c cs ih =>
    rw [mentions, Bool.or_eq_true, List.isPrefixOf_iff_prefix, ih, List.infix_cons_iff]

/-! ## Single characters -/

theorem toNat_of_isWordLetter (letter : IsWordLetter x) :
    x.toNat = 116 ∨ x.toNat = 108 ∨ x.toNat = 115 := by
  rcases letter with rfl | rfl | rfl
  · exact .inl rfl
  · exact .inr (.inl rfl)
  · exact .inr (.inr rfl)

/-- The small letters of capitals beyond ASCII lie beyond ASCII, but for that of the sign for a
kelvin. -/
theorem small_of_mem_capitalRanges :
    ∀ r ∈ capitalRanges, 128 ≤ r.2.2.2 ∨ r = (0x212a, 0x212a, 1, 0x6b) := by
  decide +kernel

theorem toNat_ofNat_cases (n : Nat) : (Char.ofNat n).toNat = n ∨ (Char.ofNat n).toNat = 0 := by
  unfold Char.ofNat
  by_cases valid : n.isValidChar
  · rw [dif_pos valid]
    exact .inl rfl
  · rw [dif_neg valid]
    exact .inr rfl

theorem toLower_of_not_ascii (beyond : 128 ≤ c.toNat) : c.toLower = c := by
  have notCapital : ¬(c.val ≥ 'A'.val ∧ c.val ≤ 'Z'.val) := by
    rintro ⟨-, upper⟩
    have upper : c.toNat ≤ 90 := upper
    omega
  unfold Char.toLower
  exact dif_neg notCapital

/-- Beyond ASCII nothing is mapped to a letter of the words. -/
theorem not_mem_lowerChar (letter : IsWordLetter x) (beyond : 128 ≤ c.toNat) :
    x ∉ lowerChar c := by
  have codes := toNat_of_isWordLetter letter
  intro member
  unfold lowerChar at member
  rw [if_neg (Nat.not_lt.2 beyond)] at member
  split at member
  · rcases List.mem_cons.1 member with rfl | member
    · simp at codes
    · cases List.mem_singleton.1 member
      simp at codes
  · split at member
    · rename_i r found
      rw [List.mem_singleton.1 member] at codes
      have within := List.find?_some found
      simp only [Bool.and_eq_true, decide_eq_true_eq] at within
      rcases small_of_mem_capitalRanges r (List.mem_of_find?_eq_some found) with small | kelvin
      · rcases toNat_ofNat_cases (r.2.2.2 + (c.toNat - r.1)) with same | zero <;> omega
      · rw [kelvin] at codes within
        obtain ⟨⟨lower, upper⟩, -⟩ := within
        have one : c.toNat = 0x212a := Nat.le_antisymm upper lower
        rw [one] at codes
        simp at codes
    · rw [List.mem_singleton.1 member] at codes
      omega

theorem lowerChar_cases (c : Char) :
    (∃ y, lowerChar c = [y]) ∨ lowerChar c = ['i', Char.ofNat 0x307] := by
  unfold lowerChar
  split
  · exact .inl ⟨_, rfl⟩
  · split
    · exact .inr rfl
    · split
      · exact .inl ⟨_, rfl⟩
      · exact .inl ⟨_, rfl⟩

/-- A letter of the words comes from its ASCII forms and from nothing else. -/
theorem mem_lowerChar_iff (letter : IsWordLetter x) : x ∈ lowerChar c ↔ c.toLower = x := by
  by_cases ascii : c.toNat < 128
  · unfold lowerChar
    rw [if_pos ascii, List.mem_singleton]
    exact eq_comm
  · have beyond := Nat.not_lt.1 ascii
    refine iff_of_false (not_mem_lowerChar letter beyond) ?_
    rw [toLower_of_not_ascii beyond]
    rintro rfl
    have codes := toNat_of_isWordLetter letter
    omega

/-- A character stands where it makes no difference to its small form, or it is a sigma. -/
theorem lowerCharBetween_eq_or (before after : List Char) (c : Char) :
    lowerCharBetween before after c = lowerChar c
      ∨ c = capitalSigma ∧ lowerCharBetween before after c = [finalSigma] := by
  unfold lowerCharBetween
  split
  · rename_i ends
    exact .inr ⟨ends.1, rfl⟩
  · exact .inl rfl

theorem lowerCharBetween_cases (before after : List Char) (c : Char) :
    (∃ y, lowerCharBetween before after c = [y])
      ∨ lowerCharBetween before after c = ['i', Char.ofNat 0x307] := by
  rcases lowerCharBetween_eq_or before after c with same | ⟨-, sigma⟩
  · rw [same]
    exact lowerChar_cases c
  · exact .inl ⟨_, sigma⟩

/-- Nor does it matter what stands around the character. -/
theorem mem_lowerCharBetween_iff (letter : IsWordLetter x) :
    x ∈ lowerCharBetween before after c ↔ c.toLower = x := by
  rcases lowerCharBetween_eq_or before after c with same | ⟨rfl, sigma⟩
  · rw [same]
    exact mem_lowerChar_iff letter
  · have codes := toNat_of_isWordLetter letter
    have capital : capitalSigma.toLower.toNat = 0x3A3 := by decide
    have final : finalSigma.toNat = 0x3C2 := by decide
    rw [sigma, List.mem_singleton]
    refine iff_of_false ?_ ?_
    · rintro rfl
      omega
    · rintro rfl
      omega

theorem lowerCharBetween_eq_singleton (letter : IsWordLetter x)
    (member : x ∈ lowerCharBetween before after c) : lowerCharBetween before after c = [x] := by
  rcases lowerCharBetween_cases before after c with ⟨y, single⟩ | double
  · rw [single] at member ⊢
    rw [List.mem_singleton.1 member]
  · have codes := toNat_of_isWordLetter letter
    rw [double] at member
    rcases List.mem_cons.1 member with rfl | member
    · simp at codes
    · cases List.mem_singleton.1 member
      simp at codes

/-! ## Words -/

theorem lowerCharsBehind_cons (passed : List Char) (c : Char) (cs : List Char) :
    lowerCharsBehind passed (c :: cs)
      = lowerCharBetween passed cs c ++ lowerCharsBehind (c :: passed) cs := rfl

/-- A word at the beginning of the small letters is one at the beginning of the text. -/
theorem prefix_lowerCharsBehind_iff (letters : ∀ x ∈ word, IsWordLetter x) :
    word <+: lowerCharsBehind passed cs ↔ ∃ found, found <+: cs ∧ fold found = word := by
  induction word generalizing passed cs with
  | nil => exact iff_of_true List.nil_prefix ⟨[], List.nil_prefix, rfl⟩
  | cons x word ih =>
    obtain ⟨letter, letters⟩ := List.forall_mem_cons.1 letters
    cases cs with
    | nil =>
      refine iff_of_false ?_ ?_
      · intro start
        cases List.prefix_nil.1 start
      · rintro ⟨found, start, folded⟩
        rw [List.prefix_nil.1 start] at folded
        cases folded
    | cons c cs =>
      constructor
      · intro start
        have member : x ∈ lowerCharBetween passed cs c := by
          rw [lowerCharsBehind_cons] at start
          rcases lowerCharBetween_cases passed cs c with ⟨y, single⟩ | double
          · rw [single] at start ⊢
            exact List.mem_singleton.2 (List.cons_prefix_cons.1 start).1
          · rw [double] at start ⊢
            exact (List.cons_prefix_cons.1 start).1 ▸ List.mem_cons_self
        rw [lowerCharsBehind_cons, lowerCharBetween_eq_singleton letter member] at start
        obtain ⟨found, begins, folded⟩ := (ih letters).1 (List.cons_prefix_cons.1 start).2
        refine ⟨c :: found, List.cons_prefix_cons.2 ⟨rfl, begins⟩, ?_⟩
        rw [fold_cons, (mem_lowerCharBetween_iff letter).1 member, folded]
      · rintro ⟨found, begins, folded⟩
        cases found with
        | nil => cases folded
        | cons d found =>
          obtain ⟨rfl, follows⟩ := List.cons_prefix_cons.1 begins
          rw [fold_cons, List.cons.injEq] at folded
          have member : x ∈ lowerCharBetween passed cs d :=
            (mem_lowerCharBetween_iff letter).2 folded.1
          rw [lowerCharsBehind_cons, lowerCharBetween_eq_singleton letter member]
          exact List.cons_prefix_cons.2 ⟨rfl, (ih letters).2 ⟨found, follows, folded.2⟩⟩

/-- Somewhere in the small letters there is a word just where the text has one. -/
theorem infix_lowerCharsBehind_iff (some : word ≠ []) (letters : ∀ x ∈ word, IsWordLetter x) :
    word <:+: lowerCharsBehind passed cs ↔ ∃ found, found <:+: cs ∧ fold found = word := by
  induction cs generalizing passed with
  | nil =>
    refine iff_of_false (fun there => some (List.infix_nil.1 there)) ?_
    rintro ⟨found, there, folded⟩
    rw [List.infix_nil.1 there] at folded
    exact some folded.symm
  | cons c cs ih =>
    have step : word <:+: lowerCharsBehind passed (c :: cs)
        ↔ word <+: lowerCharsBehind passed (c :: cs)
          ∨ word <:+: lowerCharsBehind (c :: passed) cs := by
      rw [lowerCharsBehind_cons]
      rcases lowerCharBetween_cases passed cs c with ⟨y, single⟩ | double
      · rw [single]
        exact List.infix_cons_iff
      · -- No word begins with the second of the two characters.
        have apart : ¬word <+: Char.ofNat 0x307 :: lowerCharsBehind (c :: passed) cs := by
          intro start
          cases word with
          | nil => exact some rfl
          | cons x word =>
            have letter := letters x List.mem_cons_self
            have codes := toNat_of_isWordLetter letter
            rw [(List.cons_prefix_cons.1 start).1] at codes
            simp at codes
        rw [double]
        show word <:+: 'i' :: Char.ofNat 0x307 :: lowerCharsBehind (c :: passed) cs ↔ _
        rw [List.infix_cons_iff, List.infix_cons_iff, or_iff_right apart]
        rfl
    rw [step, prefix_lowerCharsBehind_iff letters, ih]
    constructor
    · rintro (⟨found, start, folded⟩ | ⟨found, there, folded⟩)
      · exact ⟨found, start.isInfix, folded⟩
      · exact ⟨found, List.infix_cons there, folded⟩
    · rintro ⟨found, there, folded⟩
      rcases List.infix_cons_iff.1 there with start | later
      · exact .inl ⟨found, start, folded⟩
      · exact .inr ⟨found, later, folded⟩

theorem mentions_lowerChars_iff {word mode : String} (some : word.toList ≠ [])
    (letters : ∀ x ∈ word.toList, IsWordLetter x) :
    mentions word.toList (lowerChars mode.toList) = true ↔ Mentions word mode :=
  mentions_iff_infix.trans (infix_lowerCharsBehind_iff some letters)

theorem describes_ofMode (mode : String) : Describes mode (ofMode mode) := by
  have tls : mentions "tls".toList (lowerChars mode.toList) = true ↔ Mentions "tls" mode :=
    mentions_lowerChars_iff (by decide) (by simp [IsWordLetter])
  have ssl : mentions "ssl".toList (lowerChars mode.toList) = true ↔ Mentions "ssl" mode :=
    mentions_lowerChars_iff (by decide) (by simp [IsWordLetter])
  unfold ofMode
  dsimp only
  split
  · rename_i mention
    exact .tls (tls.1 mention)
  · rename_i other
    split
    · rename_i mention
      exact .ssl (mt tls.2 other) (ssl.1 mention)
    · rename_i another
      exact .cleartext (mt tls.2 other) (mt ssl.2 another)

/-! ## What the description depends on -/

variable {mode other : String} {security : Security}

theorem Describes.unique {another : Security} (one : Describes mode security)
    (two : Describes mode another) : security = another := by
  cases one with
  | tls mention =>
    cases two with
    | tls => rfl
    | ssl missing => exact absurd mention missing
    | cleartext missing => exact absurd mention missing
  | ssl missing mention =>
    cases two with
    | tls mention => exact absurd mention missing
    | ssl => rfl
    | cleartext _ missing => exact absurd mention missing
  | cleartext noTls noSsl =>
    cases two with
    | tls mention => exact absurd mention noTls
    | ssl _ mention => exact absurd mention noSsl
    | cleartext => rfl

theorem ofMode_eq_iff : ofMode mode = security ↔ Describes mode security :=
  ⟨fun same => same ▸ describes_ofMode mode, (describes_ofMode mode).unique⟩

theorem ofMode_eq_tls_iff : ofMode mode = .tls ↔ Mentions "tls" mode := by
  rw [ofMode_eq_iff]
  exact ⟨fun | .tls mention => mention, .tls⟩

theorem mentions_iff_infix_fold {word : String} :
    Mentions word mode ↔ word.toList <:+: fold mode.toList := by
  rw [fold, List.infix_map_iff]
  exact exists_congr fun found => and_congr_right fun _ => eq_comm

theorem mentions_iff_of_fold_eq {word : String} (letters : fold mode.toList = fold other.toList) :
    Mentions word mode ↔ Mentions word other := by
  rw [mentions_iff_infix_fold, mentions_iff_infix_fold, letters]

theorem Describes.of_fold_eq (letters : fold mode.toList = fold other.toList)
    (described : Describes mode security) : Describes other security := by
  have same : ∀ {word}, Mentions word mode ↔ Mentions word other := mentions_iff_of_fold_eq letters
  cases described with
  | tls mention => exact .tls (same.1 mention)
  | ssl missing mention => exact .ssl (mt same.2 missing) (same.1 mention)
  | cleartext noTls noSsl => exact .cleartext (mt same.2 noTls) (mt same.2 noSsl)

/-- The case of ASCII letters does not count. -/
theorem ofMode_eq_of_fold_eq (letters : fold mode.toList = fold other.toList) :
    ofMode mode = ofMode other :=
  ofMode_eq_iff.2 ((describes_ofMode other).of_fold_eq letters.symm)

/-- A mention stays one in a longer text. -/
theorem Mentions.append {word : String} (mention : Mentions word mode) (before after : String) :
    Mentions word (before ++ mode ++ after) := by
  obtain ⟨found, there, folded⟩ := mention
  refine ⟨found, there.trans ?_, folded⟩
  rw [String.toList_append, String.toList_append]
  exact List.infix_append _ _ _

end MailboxKeeper.Security
