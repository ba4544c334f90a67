/-!
# Dialogues

A dialogue is a computation that asks its surroundings questions and goes on with the answers,
until it is done or fails. It holds no state of its own and does nothing by itself: who `run`s it
decides how a question is answered.
-/

namespace MailboxKeeper

/-- A computation that asks questions of type `Query`, of which `q` is answered by an
`Answer q`. -/
inductive Dialogue (Query : Type) (Answer : Query → Type) (ε α : Type) where
  | done (value : α)
  | fail (error : ε)
  | ask (query : Query) (next : Answer query → Dialogue Query Answer ε α)

namespace Dialogue

variable {Query : Type} {Answer : Query → Type} {ε ε' α β γ : Type}

/-- One dialogue after another. -/
def bind (d : Dialogue Query Answer ε α) (f : α → Dialogue Query Answer ε β) :
    Dialogue Query Answer ε β :=
  match d with
  | done a => f a
  | fail e => fail e
  | ask q next => ask q fun answer => (next answer).bind f

instance : Monad (Dialogue Query Answer ε) where
  pure := done
  bind := bind

/-- The dialogue with its error put in other words. -/
def mapError (f : ε → ε') : Dialogue Query Answer ε α → Dialogue Query Answer ε' α
  | done a => done a
  | fail e => fail (f e)
  | ask q next => ask q fun answer => (next answer).mapError f

/-- The outcome of a dialogue whose questions are answered by `answer`. -/
def run {m : Type → Type} [Monad m] (answer : (q : Query) → m (Answer q)) :
    Dialogue Query Answer ε α → m (Except ε α)
  | done a => pure (.ok a)
  | fail e => pure (.error e)
  | ask q next => do (next (← answer q)).run answer

theorem bind_done (d : Dialogue Query Answer ε α) : d.bind done = d := by
  induction d with
  | done => rfl
  | fail => rfl
  | ask q next ih => simp only [bind, ih]

theorem bind_assoc (d : Dialogue Query Answer ε α) (f : α → Dialogue Query Answer ε β)
    (g : β → Dialogue Query Answer ε γ) : (d.bind f).bind g = d.bind fun a => (f a).bind g := by
  induction d with
  | done => rfl
  | fail => rfl
  | ask q next ih => simp only [bind, ih]

instance : LawfulMonad (Dialogue Query Answer ε) :=
  LawfulMonad.mk' _ bind_done (fun _ _ => rfl) bind_assoc

end Dialogue

end MailboxKeeper
