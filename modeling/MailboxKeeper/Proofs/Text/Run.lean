import Mathlib.Data.List.TakeWhile

/-!
# Runs of characters

A reader takes characters of one class for as long as it finds them. It takes no more than it was
meant to if what comes next is not of that class.
-/

namespace MailboxKeeper.Text

variable {α : Type} {p : α → Bool} {xs rest : List α}

theorem takeWhile_of_stop (stop : ∀ x ∈ rest.head?, p x = false) : rest.takeWhile p = [] := by
  cases rest with
  | nil => rfl
  | cons x rest => exact List.takeWhile_cons_of_neg (Bool.eq_false_iff.1 (stop x rfl))

theorem dropWhile_of_stop (stop : ∀ x ∈ rest.head?, p x = false) : rest.dropWhile p = rest := by
  cases rest with
  | nil => rfl
  | cons x rest => exact List.dropWhile_cons_of_neg (Bool.eq_false_iff.1 (stop x rfl))

/-- The whole run is taken, and nothing behind it. -/
theorem takeWhile_append_of_stop (run : ∀ x ∈ xs, p x = true)
    (stop : ∀ x ∈ rest.head?, p x = false) : (xs ++ rest).takeWhile p = xs := by
  rw [List.takeWhile_append_of_pos run, takeWhile_of_stop stop, List.append_nil]

/-- What is left of a text is left of it with something behind it, too. -/
theorem dropWhile_append_of_stop (stop : ∀ x ∈ rest.head?, p x = false) :
    (xs ++ rest).dropWhile p = xs.dropWhile p ++ rest := by
  rw [List.dropWhile_append]
  split
  · rename_i none
    rw [List.isEmpty_iff.1 none, dropWhile_of_stop stop]
    rfl
  · rfl

end MailboxKeeper.Text
