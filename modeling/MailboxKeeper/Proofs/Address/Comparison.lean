import MailboxKeeper.AccountRequest
import MailboxKeeper.Address
import MailboxKeeper.Store.Row
import Mathlib

/-!
# Two notions of one address

The engine compares addresses with `Address.same`, which trims both sides; the account table
compares them with `Store.sameAddress`, which trims nothing and stops at the first U+0000. For
well-formed local parts in one domain the two agree (`same_ofParts_iff`,
`sameAddress_ofParts_iff`). An address and its trimmed form are one address to the engine always,
to the table only when nothing was trimmed (`sameAddress_trimmed_iff`).
-/

namespace MailboxKeeper.Text

theorem utf8ByteSize_eq_sum (s : String) :
    s.utf8ByteSize = (s.toList.map Char.utf8Size).sum := by
  rw [← String.size_toByteArray, ← String.utf8Encode_toList, List.utf8Encode,
    List.size_toByteArray, List.length_flatMap]
  simp only [String.length_utf8EncodeChar]

theorem utf8Size_toLower (c : Char) : c.toLower.utf8Size = c.utf8Size := by
  unfold Char.toLower
  simp only [Char.utf8Size]
  grind

/-- Making a letter small leaves a character as it is, or moves a capital. -/
theorem toLower_cases (c : Char) :
    c.toLower = c ∨ 65 ≤ c.toNat ∧ c.toNat ≤ 90 ∧ c.toLower.toNat = c.toNat + 32 := by
  unfold Char.toLower
  split
  · rename_i capital
    have low : 65 ≤ c.val.toNat := UInt32.le_iff_toNat_le.1 capital.1
    have high : c.val.toNat ≤ 90 := UInt32.le_iff_toNat_le.1 capital.2
    refine .inr ⟨low, high, ?_⟩
    show (c.val + 32).toNat = c.val.toNat + 32
    rw [UInt32.toNat_add]
    exact Nat.mod_eq_of_lt (by have : (32 : UInt32).toNat = 32 := rfl; omega)
  · exact .inl rfl

theorem toNat_toLower_eq_zero_iff (c : Char) : c.toLower.toNat = 0 ↔ c.toNat = 0 := by
  rcases toLower_cases c with same | ⟨low, high, moved⟩
  · rw [same]
  · omega

theorem isBlank_toLower (c : Char) : isBlank c.toLower = isBlank c := by
  rcases toLower_cases c with same | ⟨low, high, moved⟩
  · rw [same]
  · have solid : ∀ d : Char, 65 ≤ d.toNat → d.toNat ≤ 122 → isBlank d = false := by
      intro d low high
      simp only [isBlank, Bool.or_eq_false_iff, Bool.and_eq_false_iff, decide_eq_false_iff_not,
        beq_eq_false_iff_ne]
      omega
    rw [solid c low (by omega), solid c.toLower (by omega) (by omega)]

/-- The case of letters takes no bytes. -/
theorem sum_utf8Size_fold (cs : List Char) :
    ((fold cs).map Char.utf8Size).sum = (cs.map Char.utf8Size).sum := by
  simp [fold, List.map_map, Function.comp_def, utf8Size_toLower]

theorem sum_utf8Size_eq_of_fold_eq {cs ds : List Char} (same : fold cs = fold ds) :
    (cs.map Char.utf8Size).sum = (ds.map Char.utf8Size).sum := by
  rw [← sum_utf8Size_fold cs, same, sum_utf8Size_fold]

/-- A text that takes no more bytes than a part at its front ends with that part. -/
theorem eq_nil_of_sum_utf8Size_append (cs : List Char) {ds : List Char}
    (same : ((cs ++ ds).map Char.utf8Size).sum = (cs.map Char.utf8Size).sum) : ds = [] := by
  cases ds with
  | nil => rfl
  | cons d ds =>
    have := d.utf8Size_pos
    simp only [List.map_append, List.map_cons, List.sum_append, List.sum_cons] at same
    omega

theorem trimChars_eq_rdropWhile (cs : List Char) :
    trimChars cs = (cs.dropWhile isBlank).rdropWhile isBlank := rfl

/-- A character that is not blank keeps what stands before it from being trimmed. -/
theorem rdropWhile_append_cons (cs ds : List Char) {c : Char} (solid : isBlank c = false) :
    (cs ++ c :: ds).rdropWhile isBlank = cs ++ c :: ds.rdropWhile isBlank := by
  induction ds using List.reverseRecOn with
  | nil => rw [List.rdropWhile_concat, solid]; simp
  | append_singleton ds d ih =>
    have regroup : cs ++ c :: (ds ++ [d]) = (cs ++ c :: ds) ++ [d] := by simp
    rw [regroup, List.rdropWhile_concat, List.rdropWhile_concat, ih]
    split <;> simp

theorem rdropWhile_cons {c : Char} (solid : isBlank c = false) (cs : List Char) :
    (c :: cs).rdropWhile isBlank = c :: cs.rdropWhile isBlank := rdropWhile_append_cons [] cs solid

theorem trimChars_trimChars (cs : List Char) : trimChars (trimChars cs) = trimChars cs := by
  have ends := List.dropWhile_idempotent isBlank cs
  rw [trimChars_eq_rdropWhile, trimChars_eq_rdropWhile]
  generalize cs.dropWhile isBlank = ds at ends
  cases ds with
  | nil => rfl
  | cons d ds =>
    have solid : isBlank d = false := by
      cases blank : isBlank d with
      | false => rfl
      | true =>
        have shorter := (List.dropWhile_suffix (l := ds) isBlank).length_le
        rw [List.dropWhile_cons, blank, if_pos rfl] at ends
        rw [ends, List.length_cons] at shorter
        omega
    have front := rdropWhile_cons solid ds
    rw [front, List.dropWhile_cons, solid, if_neg Bool.false_ne_true, ← front,
      List.rdropWhile_idempotent]

theorem trimChars_fold (cs : List Char) : trimChars (fold cs) = fold (trimChars cs) := by
  have blanks : isBlank ∘ Char.toLower = isBlank := funext isBlank_toLower
  simp only [trimChars, fold, List.dropWhile_map, blanks, ← List.map_reverse]

end MailboxKeeper.Text

namespace MailboxKeeper.AccountRequest

open Text

/-- The codes of the characters that a local part is made of. -/
theorem toNat_of_isLocalPartChar {c : Char} (allowed : isLocalPartChar c = true) :
    48 ≤ c.toNat ∧ c.toNat ≤ 57 ∨ 65 ≤ c.toNat ∧ c.toNat ≤ 90 ∨ 97 ≤ c.toNat ∧ c.toNat ≤ 122
      ∨ c.toNat = 46 ∨ c.toNat = 95 ∨ c.toNat = 45 := by
  simp only [isLocalPartChar, Char.isAlphanum, Char.isAlpha, Char.isUpper, Char.isLower,
    Char.isDigit, Bool.or_eq_true, Bool.and_eq_true, decide_eq_true_eq, beq_iff_eq, ge_iff_le,
    UInt32.le_iff_toNat_le] at allowed
  rcases allowed with ((((capital | small) | digit) | rfl) | rfl) | rfl
  · exact .inr (.inl capital)
  · exact .inr (.inr (.inl small))
  · exact .inl digit
  · decide
  · decide
  · decide

theorem isBlank_of_isLocalPartChar {c : Char} (allowed : isLocalPartChar c = true) :
    isBlank c = false := by
  have codes := toNat_of_isLocalPartChar allowed
  simp only [isBlank, Bool.or_eq_false_iff, Bool.and_eq_false_iff, decide_eq_false_iff_not,
    beq_eq_false_iff_ne]
  omega

theorem localPartViolation?_of_violations {userId localPart displayName : String}
    (valid : violations userId localPart displayName = []) :
    localPartViolation? localPart = none := by
  unfold violations identityViolations at valid
  rw [List.append_eq_nil_iff, List.append_eq_nil_iff] at valid
  exact Option.toList_eq_nil_iff.1 valid.1.2

/-- What a well-formed local part is made of. -/
theorem chars_of_localPartViolation?_eq_none {localPart : String}
    (valid : localPartViolation? localPart = none) :
    localPart.toList ≠ [] ∧ ∀ c ∈ localPart.toList, isLocalPartChar c = true := by
  unfold localPartViolation? at valid
  split at valid
  · cases valid
  · rename_i full
    split at valid
    · cases valid
    · split at valid
      · cases valid
      · rename_i allowed
        refine ⟨by simpa using full, ?_⟩
        simpa using allowed

theorem toNat_ne_zero_of_localPart {localPart : String}
    (valid : localPartViolation? localPart = none) : ∀ c ∈ localPart.toList, c.toNat ≠ 0 := by
  intro c member
  have codes := toNat_of_isLocalPartChar ((chars_of_localPartViolation?_eq_none valid).2 c member)
  omega

end MailboxKeeper.AccountRequest

namespace MailboxKeeper.Address

open Text AccountRequest

variable {localPart other domain : String}

theorem same_iff {a b : String} :
    same a b = true ↔ fold (trimChars a.toList) = fold (trimChars b.toList) := by
  simp [same]

theorem same_equivalence : Equivalence fun a b => same a b = true where
  refl _ := same_iff.2 rfl
  symm one := same_iff.2 (same_iff.1 one).symm
  trans one two := same_iff.2 ((same_iff.1 one).trans (same_iff.1 two))

theorem toList_ofParts (localPart domain : String) :
    (ofParts localPart domain).toList = localPart.toList ++ '@' :: domain.toList := by
  simp [ofParts]

/-- Only from the domain a U+0000 can come into an address. -/
theorem toNat_ne_zero_ofParts (valid : localPartViolation? localPart = none)
    (whole : ∀ c ∈ domain.toList, c.toNat ≠ 0) :
    ∀ c ∈ (ofParts localPart domain).toList, c.toNat ≠ 0 := by
  intro c member
  rw [toList_ofParts, List.mem_append, List.mem_cons] at member
  rcases member with inside | rfl | inside
  · exact toNat_ne_zero_of_localPart valid c inside
  · decide
  · exact whole c inside

/-- Of an address only the end of its domain is ever trimmed. -/
theorem trimChars_ofParts (valid : localPartViolation? localPart = none) :
    trimChars (ofParts localPart domain).toList
      = localPart.toList ++ '@' :: domain.toList.rdropWhile isBlank := by
  obtain ⟨full, allowed⟩ := chars_of_localPartViolation?_eq_none valid
  rw [trimChars_eq_rdropWhile, toList_ofParts]
  cases start : localPart.toList with
  | nil => exact absurd start full
  | cons c cs =>
    have solid : isBlank c = false := isBlank_of_isLocalPartChar (allowed c (by simp [start]))
    rw [List.cons_append, List.dropWhile_cons, solid, if_neg Bool.false_ne_true,
      ← List.cons_append, rdropWhile_append_cons _ _ (by decide)]

/-- Under one domain the engine tells two well-formed local parts apart by their letters alone. -/
theorem same_ofParts_iff (valid : localPartViolation? localPart = none)
    (otherValid : localPartViolation? other = none) :
    same (ofParts localPart domain) (ofParts other domain) = true
      ↔ fold localPart.toList = fold other.toList := by
  rw [same_iff, trimChars_ofParts valid, trimChars_ofParts otherValid, fold_append, fold_append]
  exact ⟨List.append_cancel_right, fun letters => by rw [letters]⟩

end MailboxKeeper.Address

namespace MailboxKeeper.Store

open Text AccountRequest Address

variable {localPart other domain : String}

theorem sameAddress_iff {a b : String} :
    sameAddress a b = true
      ↔ comparedChars a = comparedChars b ∧ a.utf8ByteSize = b.utf8ByteSize := by
  simp [sameAddress]

/-- What is compared of an address, with the case of its letters gone first. -/
theorem comparedChars_eq_takeWhile_fold (email : String) :
    comparedChars email = (fold email.toList).takeWhile fun c => c.toNat != 0 := by
  rw [comparedChars, fold, fold, List.takeWhile_map]
  congr 2
  funext c
  have := toNat_toLower_eq_zero_iff c
  by_cases zero : c.toNat = 0
  · simp [zero, this.2 zero]
  · simp only [Function.comp_apply, bne_iff_ne.2 zero, bne_iff_ne.2 (mt this.1 zero)]

/-- Addresses that differ in the case of letters alone count as one. -/
theorem sameAddress_of_fold_eq {a b : String} (letters : fold a.toList = fold b.toList) :
    sameAddress a b = true := by
  rw [sameAddress_iff, comparedChars_eq_takeWhile_fold, comparedChars_eq_takeWhile_fold, letters,
    utf8ByteSize_eq_sum, utf8ByteSize_eq_sum]
  exact ⟨rfl, sum_utf8Size_eq_of_fold_eq letters⟩

/-- Up to a U+0000 the table is no more lenient than the engine. -/
theorem same_of_sameAddress {a b : String} (found : sameAddress a b = true)
    (whole : ∀ c ∈ b.toList, c.toNat ≠ 0) : same a b = true := by
  obtain ⟨letters, size⟩ := sameAddress_iff.1 found
  have all : comparedChars b = fold b.toList := by
    rw [comparedChars, List.takeWhile_eq_self_iff.2 (by simpa using whole)]
  let front := a.toList.takeWhile fun c => c.toNat != 0
  let back := a.toList.dropWhile fun c => c.toNat != 0
  have parts : front ++ back = a.toList := List.takeWhile_append_dropWhile
  have frontLetters : fold front = fold b.toList := letters.trans all
  have nothing : back = [] := by
    apply eq_nil_of_sum_utf8Size_append front
    rw [parts, ← utf8ByteSize_eq_sum, size, utf8ByteSize_eq_sum,
      sum_utf8Size_eq_of_fold_eq frontLetters]
  rw [nothing, List.append_nil] at parts
  rw [same_iff, ← trimChars_fold, ← trimChars_fold, ← parts, frontLetters]

/-- An address that was read without the blanks around it is the address of a request in the eyes
of the engine; the table finds it only if the request had no blanks at its end either. -/
theorem sameAddress_trimmed_iff {found : String} (valid : localPartViolation? localPart = none)
    (trimmed : trimChars found.toList = found.toList)
    (same : Address.same found (ofParts localPart domain) = true) :
    sameAddress found (ofParts localPart domain) = true
      ↔ domain.toList.rdropWhile isBlank = domain.toList := by
  rw [same_iff, trimmed, trimChars_ofParts valid] at same
  constructor
  · intro one
    have size := (sameAddress_iff.1 one).2
    rw [utf8ByteSize_eq_sum, utf8ByteSize_eq_sum, sum_utf8Size_eq_of_fold_eq same,
      toList_ofParts] at size
    have split := List.rdropWhile_append_rtakeWhile (p := isBlank) (l := domain.toList)
    have nothing : domain.toList.rtakeWhile isBlank = [] := by
      apply eq_nil_of_sum_utf8Size_append
        (localPart.toList ++ '@' :: domain.toList.rdropWhile isBlank)
      rw [List.append_assoc, List.cons_append, split]
      exact size.symm
    rwa [nothing, List.append_nil] at split
  · intro whole
    rw [whole, ← toList_ofParts] at same
    exact sameAddress_of_fold_eq same

/-- Under one domain the table tells two well-formed local parts apart by their letters alone,
as the engine does. -/
theorem sameAddress_ofParts_iff (valid : localPartViolation? localPart = none)
    (otherValid : localPartViolation? other = none) :
    sameAddress (ofParts localPart domain) (ofParts other domain) = true
      ↔ Address.same (ofParts localPart domain) (ofParts other domain) = true := by
  rw [same_ofParts_iff valid otherValid]
  constructor
  · intro one
    have compared : ∀ {l : String}, localPartViolation? l = none →
        comparedChars (ofParts l domain)
          = fold l.toList ++ comparedChars (ofParts "" domain) := by
      intro l valid
      have nonzero : ∀ c ∈ l.toList, (c.toNat != 0) = true :=
        fun c member => bne_iff_ne.2 (toNat_ne_zero_of_localPart valid c member)
      simp only [comparedChars, toList_ofParts, List.takeWhile_append_of_pos nonzero, fold_append]
      rfl
    have letters := (sameAddress_iff.1 one).1
    rw [compared valid, compared otherValid] at letters
    exact List.append_cancel_right letters
  · intro letters
    apply sameAddress_of_fold_eq
    rw [toList_ofParts, toList_ofParts, fold_append, fold_append, letters]

end MailboxKeeper.Store
