import MailboxKeeper.Proofs.Address.Domain
import MailboxKeeper.Proofs.Address.Labels

/-!
# The grammar of addresses

An address is checked by what stands around its first `@`, and its domain is what follows the last.
For the addresses that pass the check the two are one (`domain?_of_splitFirstAt?`): they are the
texts of the grammar, which has a single `@` with something before it and a dotted domain behind
it (`isWellFormed_iff`). The blanks at the ends count for neither.
-/

namespace MailboxKeeper.Address

open Text

variable {address : String} {cs front back : List Char}

/-- At least two labels, none of them empty, with single dots between them. -/
def IsDotted (cs : List Char) : Prop :=
  ∃ names, 2 ≤ names.length ∧ (∀ name ∈ names, name ≠ [] ∧ '.' ∉ name) ∧
    ['.'].intercalate names = cs

/-- The text of an address, blanks at the ends aside: one `@`, something before it, and a dotted
domain. -/
structure InGrammar (address : String) : Prop where
  single : (trim address).toList.count '@' = 1
  named : ∃ front back, (trim address).toList = front ++ '@' :: back ∧ front ≠ []
  dotted : ∃ domain, domain? address = some domain ∧ IsDotted domain.toList

/-! ## Dotted domains -/

theorem length_labels (cs : List Char) : (labels cs).length = cs.count '.' + 1 := by
  induction cs with
  | nil => rfl
  | cons c cs ih =>
    by_cases dot : c = '.'
    · subst dot
      rw [labels_cons_dot, List.length_cons, ih, List.count_cons_self]
    · obtain ⟨l, ls, split, extended⟩ := labels_cons dot cs
      rw [split, List.length_cons] at ih
      rw [extended, List.length_cons, ih, List.count_cons_of_ne dot]

theorem isDotted_iff_labels : IsDotted cs ↔ 2 ≤ (labels cs).length ∧ [] ∉ labels cs := by
  constructor
  · rintro ⟨names, two, each, rfl⟩
    have some_ : names ≠ [] := by
      rintro rfl
      cases two
    rw [labels_intercalate some_ fun name member => (each name member).2]
    exact ⟨two, fun empty => (each [] empty).1 rfl⟩
  · rintro ⟨two, full⟩
    refine ⟨labels cs, two, ?_, intercalate_labels cs⟩
    intro label member
    refine ⟨fun empty => full (empty ▸ member), ?_⟩
    intro dot
    exact (exists_mem_labels_iff.1 ⟨label, member, dot⟩).2 rfl

theorem IsDotted.ne_nil (dotted : IsDotted cs) : cs ≠ [] := by
  rintro rfl
  exact absurd (isDotted_iff_labels.1 dotted).1 (by decide)

/-- The single checks make up the grammar. -/
theorem isDottedDomain_iff : isDottedDomain cs = true ↔ '@' ∉ cs ∧ IsDotted cs := by
  have several : '.' ∈ cs ↔ 2 ≤ (labels cs).length := by
    rw [length_labels, ← List.count_pos_iff]
    omega
  have full : ((labels cs).all fun l => !l.isEmpty) = true ↔ [] ∉ labels cs := by
    rw [List.all_eq_true]
    constructor
    · intro each empty
      cases each [] empty
    · intro some_ l member
      cases l with
      | nil => exact absurd member some_
      | cons => rfl
  constructor
  · intro checks
    simp only [isDottedDomain, Bool.and_eq_true, full] at checks
    obtain ⟨⟨⟨free, -⟩, dot⟩, some_⟩ := checks
    refine ⟨by simpa using free, isDotted_iff_labels.2 ⟨several.1 (by simpa using dot), some_⟩⟩
  · rintro ⟨free, dotted⟩
    obtain ⟨two, some_⟩ := isDotted_iff_labels.1 dotted
    simp only [isDottedDomain, Bool.and_eq_true, full]
    refine ⟨⟨⟨by simpa using free, ?_⟩, by simpa using several.2 two⟩, some_⟩
    simpa using dotted.ne_nil

/-! ## The first `@` and the last -/

theorem splitFirstAt?_eq_some_iff :
    splitFirstAt? cs = some (front, back) ↔ cs = front ++ '@' :: back ∧ '@' ∉ front := by
  constructor
  · intro split
    induction cs generalizing front with
    | nil => cases split
    | cons c cs ih =>
      rw [splitFirstAt?] at split
      split at split
      · rename_i at_
        cases split
        exact ⟨by rw [at_]; rfl, List.not_mem_nil⟩
      · rename_i other
        obtain ⟨⟨front', back'⟩, later, same⟩ := Option.map_eq_some_iff.1 split
        cases same
        obtain ⟨rfl, free⟩ := ih later
        exact ⟨rfl, fun member => (List.mem_cons.1 member).elim (fun at_ => other at_.symm) free⟩
  · rintro ⟨rfl, free⟩
    exact splitFirstAt?_append free

/-- Which parts of an address are checked, and for what. -/
theorem isWellFormed_iff_parts : isWellFormed address = true ↔ ∃ front back,
    splitFirstAt? (trimChars address.toList) = some (front, back) ∧ front ≠ [] ∧
      isDottedDomain back = true := by
  unfold isWellFormed
  cases splitFirstAt? (trimChars address.toList) with
  | none =>
    refine iff_of_false Bool.false_ne_true ?_
    rintro ⟨_, _, ⟨⟩, -⟩
  | some parts =>
    show (!parts.1.isEmpty && isDottedDomain parts.2) = true ↔ _
    rw [Bool.and_eq_true, Bool.not_eq_true', List.isEmpty_eq_false_iff]
    constructor
    · exact fun passes => ⟨_, _, rfl, passes⟩
    · rintro ⟨front, back, ⟨⟩, passes⟩
      exact passes

/-- The text behind an `@` that has none itself is the domain, if there is any. -/
theorem domainChars?_of_parts (whole : trimChars address.toList = front ++ '@' :: back)
    (alone : '@' ∉ back) : domainChars? address = (some back).filter fun d => !d.isEmpty := by
  rw [domainChars?, whole, afterLastAt?_append, afterLastAt?_eq_none_iff.2 alone, Option.getD_none]

/-- The domain that is checked, behind the first `@`, is the domain of the address, behind the
last. -/
theorem domain?_of_splitFirstAt? (split : splitFirstAt? (trimChars address.toList)
    = some (front, back)) (checked : isDottedDomain back = true) :
    domain? address = some (String.ofList back) := by
  obtain ⟨alone, dotted⟩ := isDottedDomain_iff.1 checked
  have full : (!back.isEmpty) = true := by simpa using dotted.ne_nil
  rw [domain?, domainChars?_of_parts (splitFirstAt?_eq_some_iff.1 split).1 alone,
    Option.filter_some, if_pos full, Option.map_some]

theorem count_at_eq_one_iff :
    (front ++ '@' :: back).count '@' = 1 ↔ '@' ∉ front ∧ '@' ∉ back := by
  rw [List.count_append, List.count_cons_self, ← List.count_eq_zero, ← List.count_eq_zero]
  omega

theorem isWellFormed_iff : isWellFormed address = true ↔ InGrammar address := by
  rw [isWellFormed_iff_parts]
  constructor
  · rintro ⟨front, back, split, some_, checked⟩
    obtain ⟨whole, free⟩ := splitFirstAt?_eq_some_iff.1 split
    obtain ⟨alone, dotted⟩ := isDottedDomain_iff.1 checked
    refine ⟨?_, ⟨front, back, by rw [toList_trim, whole], some_⟩,
      _, domain?_of_splitFirstAt? split checked, ?_⟩
    · rw [toList_trim, whole]
      exact count_at_eq_one_iff.2 ⟨free, alone⟩
    · rwa [String.toList_ofList]
  · rintro ⟨single, ⟨front, back, whole, some_⟩, domain, named, dotted⟩
    rw [whole] at single
    rw [toList_trim] at whole
    obtain ⟨free, alone⟩ := count_at_eq_one_iff.1 single
    obtain ⟨chars, there, rfl⟩ := Option.map_eq_some_iff.1 named
    rw [domainChars?_of_parts whole alone, Option.filter_some,
      Option.ite_none_right_eq_some, Option.some.injEq] at there
    obtain ⟨-, rfl⟩ := there
    rw [String.toList_ofList] at dotted
    exact ⟨front, back, splitFirstAt?_eq_some_iff.2 ⟨whole, free⟩, some_,
      isDottedDomain_iff.2 ⟨alone, dotted⟩⟩

/-! ## Blanks at the ends -/

theorem isWellFormed_trim (address : String) :
    isWellFormed (trim address) = isWellFormed address := by
  rw [isWellFormed, isWellFormed, toList_trim, trimChars_trimChars]

theorem domain?_trim (address : String) : domain? (trim address) = domain? address := by
  rw [domain?, domain?, domainChars?, domainChars?, toList_trim, trimChars_trimChars]

end MailboxKeeper.Address
