import MailboxKeeper.AccountRequest
import MailboxKeeper.Address
import Mathlib.Tactic.Tauto

/-!
# Texts between dots

The labels of a text are put together again with single dots (`intercalate_labels`), and texts
without dots that were put together are its labels (`labels_intercalate`). A dot is misplaced, at an
end or next to another, exactly if one of the labels is empty (`nil_mem_labels_iff`).
-/

namespace MailboxKeeper.Address

open AccountRequest

variable {cs : List Char} {c : Char} {parts : List (List Char)}

theorem labels_eq_splitOn (cs : List Char) : labels cs = cs.splitOn '.' := by
  induction cs with
  | nil => rfl
  | cons c cs ih =>
    have split := List.splitOnP_cons_eq_if_modifyHead (p := (· == '.')) c cs
    change (c :: cs).splitOn '.' = if (c == '.') = true then [] :: cs.splitOn '.'
      else (cs.splitOn '.').modifyHead (c :: ·) at split
    rw [labels, ih, split]
    by_cases dot : c = '.'
    · rw [if_pos dot, if_pos (beq_iff_eq.2 dot)]
    · rw [if_neg dot, if_neg (mt beq_iff_eq.1 dot)]
      cases parts : cs.splitOn '.' with
      | nil => exact absurd parts (List.splitOn_ne_nil _ _)
      | cons l ls => rfl

theorem labels_ne_nil (cs : List Char) : labels cs ≠ [] := by
  rw [labels_eq_splitOn]
  exact List.splitOn_ne_nil _ _

theorem intercalate_labels (cs : List Char) : ['.'].intercalate (labels cs) = cs := by
  rw [labels_eq_splitOn]
  exact List.intercalate_splitOn _

theorem labels_intercalate (some_ : parts ≠ []) (free : ∀ part ∈ parts, '.' ∉ part) :
    labels (['.'].intercalate parts) = parts := by
  rw [labels_eq_splitOn]
  exact List.splitOn_intercalate _ free some_

theorem labels_cons_dot (cs : List Char) : labels ('.' :: cs) = [] :: labels cs := rfl

theorem labels_cons (other : c ≠ '.') (cs : List Char) :
    ∃ l ls, labels cs = l :: ls ∧ labels (c :: cs) = (c :: l) :: ls := by
  obtain ⟨l, ls, split⟩ := List.exists_cons_of_ne_nil (labels_ne_nil cs)
  refine ⟨l, ls, split, ?_⟩
  rw [labels, if_neg other, split]

/-- The characters of the labels are those of the text, without the dots. -/
theorem exists_mem_labels_iff : (∃ l ∈ labels cs, c ∈ l) ↔ c ∈ cs ∧ c ≠ '.' := by
  induction cs with
  | nil => simp [labels]
  | cons d cs ih =>
    by_cases dot : d = '.'
    · subst dot
      rw [labels_cons_dot, List.mem_cons]
      simp only [List.mem_cons, exists_eq_or_imp, List.not_mem_nil, false_or, ih]
      tauto
    · obtain ⟨l, ls, split, extended⟩ := labels_cons dot cs
      rw [split] at ih
      rw [extended]
      simp only [List.mem_cons, exists_eq_or_imp] at ih ⊢
      rw [or_assoc, ih]
      constructor
      · rintro (rfl | ⟨member, other⟩)
        · exact ⟨.inl rfl, dot⟩
        · exact ⟨.inr member, other⟩
      · rintro ⟨rfl | member, other⟩
        · exact .inl rfl
        · exact .inr ⟨member, other⟩

/-! ## Misplaced dots -/

theorem hasDoubleDot_cons (c : Char) (cs : List Char) : hasDoubleDot (c :: cs) = true
    ↔ c = '.' ∧ cs.head? = some '.' ∨ hasDoubleDot cs = true := by
  rw [hasDoubleDot.eq_def]
  split
  · rename_i rest same
    cases same
    simp
  · rename_i rest apart same
    cases same
    constructor
    · exact .inr
    · rintro (⟨rfl, next⟩ | later)
      · obtain ⟨rest, rfl⟩ := List.head?_eq_some_iff.1 next
        exact absurd rfl (apart rest rfl)
      · exact later
  · rename_i same
    cases same

theorem head?_labels_eq_nil_iff (cs : List Char) :
    (labels cs).head? = some [] ↔ cs = [] ∨ cs.head? = some '.' := by
  cases cs with
  | nil => simp [labels]
  | cons c cs =>
    by_cases dot : c = '.'
    · subst dot
      simp [labels_cons_dot]
    · obtain ⟨l, ls, -, extended⟩ := labels_cons dot cs
      simp [extended, dot]

/-- An empty label behind the first stands between two dots, or behind the last. -/
theorem nil_mem_tail_labels_iff (cs : List Char) :
    [] ∈ (labels cs).tail ↔ cs.getLast? = some '.' ∨ hasDoubleDot cs = true := by
  induction cs with
  | nil => simp [labels, hasDoubleDot]
  | cons c cs ih =>
    have last : (c :: cs).getLast? = some '.'
        ↔ cs = [] ∧ c = '.' ∨ cs.getLast? = some '.' := by
      cases cs with
      | nil => simp
      | cons d cs => simp
    rw [last, hasDoubleDot_cons]
    by_cases dot : c = '.'
    · subst dot
      have split : [] ∈ labels cs ↔ (labels cs).head? = some [] ∨ [] ∈ (labels cs).tail := by
        obtain ⟨l, ls, split⟩ := List.exists_cons_of_ne_nil (labels_ne_nil cs)
        simp [split, eq_comm]
      rw [labels_cons_dot, List.tail_cons, split, head?_labels_eq_nil_iff, ih]
      tauto
    · obtain ⟨l, ls, split, extended⟩ := labels_cons dot cs
      rw [split, List.tail_cons] at ih
      rw [extended, List.tail_cons, ih]
      simp [dot]

theorem nil_mem_labels_iff (full : cs ≠ []) : [] ∈ labels cs ↔ hasMisplacedDot cs = true := by
  obtain ⟨l, ls, split⟩ := List.exists_cons_of_ne_nil (labels_ne_nil cs)
  have first := head?_labels_eq_nil_iff cs
  have later := nil_mem_tail_labels_iff cs
  rw [split, List.head?_cons, Option.some.injEq] at first
  rw [split, List.tail_cons] at later
  rw [split, List.mem_cons, later, eq_comm, first, hasMisplacedDot]
  simp [full, or_assoc]

end MailboxKeeper.Address
