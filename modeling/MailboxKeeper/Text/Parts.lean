/-!
# Parts of a text

A text is taken apart at every place where a mark stands. There is one part more than there are
marks, and a part may be empty.
-/

namespace MailboxKeeper.Text

/-- The parts of a text between the places where a mark stands. -/
def parts (mark : Char) (text : String) : List String :=
  (text.toList.splitOn mark).map String.ofList

end MailboxKeeper.Text
