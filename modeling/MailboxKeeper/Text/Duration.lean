/-!
# Durations

A whole number of milliseconds is shown in seconds if it reaches one, with as many decimals as it
needs, and in milliseconds below that; zero is shown in nanoseconds.
-/

namespace MailboxKeeper.Text

/-- The three digits of a number below 1000, without zeros at the end. -/
def decimals (n : Nat) : List Char :=
  (([n / 100 % 10, n / 10 % 10, n % 10].map Nat.digitChar).reverse.dropWhile (· == '0')).reverse

/-- The text of a number of milliseconds. -/
def duration (milliseconds : Nat) : String :=
  if milliseconds = 0 then "0ns"
  else if milliseconds < 1000 then s!"{milliseconds}ms"
  else
    let fraction := decimals (milliseconds % 1000)
    let point := if fraction.isEmpty then "" else "." ++ String.ofList fraction
    s!"{milliseconds / 1000}{point}s"

end MailboxKeeper.Text
