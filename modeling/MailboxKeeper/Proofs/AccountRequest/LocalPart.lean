import MailboxKeeper.Proofs.Address.Domain
import MailboxKeeper.Proofs.Address.Labels

/-!
# The grammar of local parts

A local part is accepted exactly if it is a dot-atom of at most 64 characters: one or more atoms,
each a non-empty text of letters, digits, underscores and hyphens, with single dots between them
(`localPartViolation?_eq_none_iff`). Such a text has as many bytes as characters, and no `@`; so the
first `@` of an address parts it from the domain, and the address tells which local part it was
made from.
-/

namespace MailboxKeeper.Text

theorem length_le_utf8ByteSize (s : String) : s.length ≤ s.utf8ByteSize := by
  have each : ∀ size ∈ s.toList.map Char.utf8Size, 1 ≤ size := by
    intro size member
    obtain ⟨c, -, rfl⟩ := List.mem_map.1 member
    exact c.utf8Size_pos
  have bound := List.length_le_sum_of_one_le _ each
  rwa [List.length_map, String.length_toList, ← utf8ByteSize_eq_sum] at bound

/-- A text of ASCII has a byte for each character. -/
theorem utf8ByteSize_eq_length {s : String} (ascii : ∀ c ∈ s.toList, c.toNat < 128) :
    s.utf8ByteSize = s.length := by
  have each : ∀ size ∈ s.toList.map Char.utf8Size, size = 1 := by
    intro size member
    obtain ⟨c, inside, rfl⟩ := List.mem_map.1 member
    have small := ascii c inside
    exact Char.utf8Size_eq_one_iff.2 (UInt32.le_iff_toNat_le.2 (Nat.le_of_lt_succ small))
  rw [utf8ByteSize_eq_sum, List.sum_eq_card_nsmul _ 1 each, List.length_map, String.length_toList]
  exact Nat.mul_one _

end MailboxKeeper.Text

namespace MailboxKeeper.AccountRequest

open Text Address

variable {cs : List Char} {c : Char} {localPart : String}

/-- A letter or digit of ASCII, an underscore or a hyphen. -/
def isAtomChar (c : Char) : Bool := c.isAlphanum || c == '_' || c == '-'

/-- A non-empty text of such characters. -/
def IsAtom (cs : List Char) : Prop := cs ≠ [] ∧ ∀ c ∈ cs, isAtomChar c = true

/-- One or more atoms with single dots between them. -/
def IsDotAtom (cs : List Char) : Prop :=
  ∃ atoms, atoms ≠ [] ∧ (∀ atom ∈ atoms, IsAtom atom) ∧ ['.'].intercalate atoms = cs

theorem isLocalPartChar_iff : isLocalPartChar c = true ↔ c = '.' ∨ isAtomChar c = true := by
  simp only [isLocalPartChar, isAtomChar, Bool.or_eq_true, beq_iff_eq]
  tauto

theorem isAtomChar_dot : isAtomChar '.' = false := by decide

theorem isDotAtom_iff_labels : IsDotAtom cs ↔ ∀ label ∈ labels cs, IsAtom label := by
  constructor
  · rintro ⟨atoms, some_, each, rfl⟩
    have free : ∀ atom ∈ atoms, '.' ∉ atom := by
      intro atom member dot
      have allowed := (each atom member).2 '.' dot
      rw [isAtomChar_dot] at allowed
      cases allowed
    rw [labels_intercalate some_ free]
    exact each
  · intro each
    exact ⟨labels cs, labels_ne_nil cs, each, intercalate_labels cs⟩

/-- The recursive grammar in terms of single conditions. -/
theorem isDotAtom_iff : IsDotAtom cs ↔
    cs ≠ [] ∧ (∀ c ∈ cs, isLocalPartChar c = true) ∧ hasMisplacedDot cs = false := by
  rw [isDotAtom_iff_labels]
  constructor
  · intro each
    have full : cs ≠ [] := by
      rintro rfl
      exact (each [] (List.mem_singleton_self _)).1 rfl
    refine ⟨full, ?_, ?_⟩
    · intro c member
      rw [isLocalPartChar_iff]
      by_cases dot : c = '.'
      · exact .inl dot
      · obtain ⟨label, inside, member⟩ := exists_mem_labels_iff.2 ⟨member, dot⟩
        exact .inr ((each label inside).2 c member)
    · rw [← Bool.not_eq_true, ← nil_mem_labels_iff full]
      intro empty
      exact (each [] empty).1 rfl
  · rintro ⟨full, allowed, placed⟩ label member
    rw [← Bool.not_eq_true, ← nil_mem_labels_iff full] at placed
    refine ⟨?_, ?_⟩
    · rintro rfl
      exact placed member
    · intro c inside
      obtain ⟨whole, other⟩ := exists_mem_labels_iff.1 ⟨label, member, inside⟩
      exact (isLocalPartChar_iff.1 (allowed c whole)).resolve_left other

theorem utf8ByteSize_of_localPartChars
    (allowed : ∀ c ∈ localPart.toList, isLocalPartChar c = true) :
    localPart.utf8ByteSize = localPart.length := by
  apply utf8ByteSize_eq_length
  intro c member
  have codes := toNat_of_isLocalPartChar (allowed c member)
  omega

/-- A check that fails is reported, and any other leaves the word to the rest. -/
theorem ite_some_eq_none_iff {p : Prop} [Decidable p] {v : Violation} {rest : Option Violation} :
    (if p then some v else rest) = none ↔ ¬p ∧ rest = none := by
  split
  · rename_i broken
    simp [broken]
  · rename_i kept
    simp [kept]

/-- The checks one after another make up the grammar. -/
theorem localPartViolation?_eq_none_iff :
    localPartViolation? localPart = none ↔ localPart.length ≤ 64 ∧ IsDotAtom localPart.toList := by
  have checks : localPartViolation? localPart = none ↔ localPart.toList ≠ [] ∧
      localPart.utf8ByteSize ≤ 64 ∧ (∀ c ∈ localPart.toList, isLocalPartChar c = true) ∧
        hasMisplacedDot localPart.toList = false := by
    simp [localPartViolation?, maxLocalPart, ite_some_eq_none_iff]
  rw [checks, isDotAtom_iff]
  constructor
  · rintro ⟨full, short, allowed, placed⟩
    rw [utf8ByteSize_of_localPartChars allowed] at short
    exact ⟨short, full, allowed, placed⟩
  · rintro ⟨short, full, allowed, placed⟩
    rw [← utf8ByteSize_of_localPartChars allowed] at short
    exact ⟨full, short, allowed, placed⟩

/-- A local part is accepted exactly if it is a dot-atom of at most 64 characters. The first `@` of
an address parts it from the domain, whatever that is; so an address is made from one accepted local
part only. -/
theorem localPart_grammar :
    (∀ localPart, localPartViolation? localPart = none
      ↔ localPart.length ≤ 64 ∧ IsDotAtom localPart.toList) ∧
      (∀ localPart domain, localPartViolation? localPart = none →
        splitFirstAt? (ofParts localPart domain).toList
          = some (localPart.toList, domain.toList)) ∧
      ∀ localPart other domain, localPartViolation? localPart = none →
        localPartViolation? other = none →
          ofParts localPart domain = ofParts other domain → localPart = other := by
  have parted : ∀ localPart domain, localPartViolation? localPart = none →
      splitFirstAt? (ofParts localPart domain).toList
        = some (localPart.toList, domain.toList) := by
    intro localPart domain valid
    rw [toList_ofParts]
    exact splitFirstAt?_append (at_notMem_localPart valid)
  refine ⟨fun _ => localPartViolation?_eq_none_iff, parted, ?_⟩
  intro localPart other domain valid otherValid same
  have split := parted localPart domain valid
  rw [same, parted other domain otherValid] at split
  injection split with parts
  injection parts with letters
  exact String.toList_inj.1 letters.symm

/-- A domain with an `@` of its own. -/
theorem localPart_grammar_john :
    localPartViolation? "john_doe-2.x" = none ∧ IsDotAtom "john_doe-2.x".toList ∧
      splitFirstAt? (ofParts "john_doe-2.x" "mail@example.com").toList
        = some ("john_doe-2.x".toList, "mail@example.com".toList) := by
  have valid : localPartViolation? "john_doe-2.x" = none := by decide +kernel
  obtain ⟨grammar, parted, -⟩ := localPart_grammar
  exact ⟨valid, ((grammar _).1 valid).2, parted _ _ valid⟩

end MailboxKeeper.AccountRequest
