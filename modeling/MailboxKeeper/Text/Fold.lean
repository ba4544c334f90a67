/-!
# Letter case of ASCII

Addresses and domains are compared without regard to the case of ASCII letters; every other
character counts as it is.
-/

namespace MailboxKeeper.Text

/-- The characters with ASCII capitals made small. -/
def fold (cs : List Char) : List Char := cs.map Char.toLower

/-- Equality up to the case of ASCII letters. -/
def equalFold (a b : String) : Bool := fold a.toList == fold b.toList

theorem equalFold_iff {a b : String} : equalFold a b = true ↔ fold a.toList = fold b.toList := by
  simp [equalFold]

theorem fold_cons (c : Char) (cs : List Char) : fold (c :: cs) = c.toLower :: fold cs := rfl

@[simp] theorem fold_append (cs ds : List Char) : fold (cs ++ ds) = fold cs ++ fold ds := by
  simp [fold]

end MailboxKeeper.Text
