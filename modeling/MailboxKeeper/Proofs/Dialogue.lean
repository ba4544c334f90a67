import MailboxKeeper.Dialogue

/-!
# Running a dialogue from a state

Who answers the questions of a dialogue may keep a state. `runFrom` is the run from one state on,
and `Ends` says what holds of its outcome and of the state it leaves; `Yields` says that it does
not fail, and what holds of its value. The rules take a dialogue apart at its sequencing, so that
what is proved of a part is used wherever the part occurs. `Asks` speaks of the questions alone:
what every answer to one of them preserves, a run preserves (`Asks.runFrom`). `FailsOnly` speaks of
the reasons for a failure, whatever was answered.
-/

namespace MailboxKeeper.Dialogue

variable {Query : Type} {Answer : Query → Type} {ε ε' α β σ : Type}
variable {answer : (q : Query) → StateM σ (Answer q)}

/-- The outcome of a dialogue that is run from a state, and the state after it. -/
def runFrom (answer : (q : Query) → StateM σ (Answer q)) (d : Dialogue Query Answer ε α) (s : σ) :
    Except ε α × σ :=
  StateT.run (d.run answer) s

/-- What holds of the outcome and of the state after a run from `s`. -/
def Ends (answer : (q : Query) → StateM σ (Answer q)) (d : Dialogue Query Answer ε α) (s : σ)
    (post : Except ε α → σ → Prop) : Prop :=
  post (d.runFrom answer s).1 (d.runFrom answer s).2

theorem runFrom_ask (q : Query) (next : Answer q → Dialogue Query Answer ε α) (s : σ) :
    (ask q next).runFrom answer s
      = (next (StateT.run (answer q) s).1).runFrom answer (StateT.run (answer q) s).2 := rfl

/-- What follows a part is run after it, if the part does not fail. -/
theorem run_bind {m : Type → Type} [Monad m] [LawfulMonad m] (answer : (q : Query) → m (Answer q))
    (d : Dialogue Query Answer ε α) (f : α → Dialogue Query Answer ε β) :
    (d >>= f).run answer = d.run answer >>= fun
      | .ok a => (f a).run answer
      | .error e => pure (.error e) := by
  show (d.bind f).run answer = _
  induction d with
  | done a => simp only [bind, run, pure_bind]
  | fail e => simp only [bind, run, pure_bind]
  | ask q next ih => simp only [bind, run, LawfulMonad.bind_assoc, ih]

theorem runFrom_bind (d : Dialogue Query Answer ε α) (f : α → Dialogue Query Answer ε β) (s : σ) :
    (d >>= f).runFrom answer s
      = match d.runFrom answer s with
        | (.ok a, s') => (f a).runFrom answer s'
        | (.error e, s') => (.error e, s') := by
  rw [runFrom, run_bind, StateT.run_bind]
  cases ran : d.runFrom answer s with
  | mk r s' =>
    have ran : StateT.run (d.run answer) s = (r, s') := ran
    rw [ran]
    cases r <;> rfl

theorem runFrom_mapError (d : Dialogue Query Answer ε α) (f : ε → ε') (s : σ) :
    (d.mapError f).runFrom answer s
      = ((d.runFrom answer s).1.mapError f, (d.runFrom answer s).2) := by
  induction d generalizing s with
  | done a => rfl
  | fail e => rfl
  | ask q next ih => exact ih _ _

/-! ## Rules -/

variable {d : Dialogue Query Answer ε α} {s : σ} {post m : Except ε α → σ → Prop}

theorem Ends.mono (ends : d.Ends answer s m) (weaker : ∀ r s', m r s' → post r s') :
    d.Ends answer s post :=
  weaker _ _ ends

theorem Ends.and (left : d.Ends answer s post) (right : d.Ends answer s m) :
    d.Ends answer s fun r s' => post r s' ∧ m r s' :=
  ⟨left, right⟩

theorem Ends.of_runFrom {r : Except ε α} {s' : σ} (ends : d.Ends answer s post)
    (ran : d.runFrom answer s = (r, s')) : post r s' := by
  rw [Ends, ran] at ends
  exact ends

/-- A question goes on with its answer. -/
theorem Ends.ask {q : Query} {next : Answer q → Dialogue Query Answer ε α} {a : Answer q} {s' : σ}
    (answered : StateT.run (answer q) s = (a, s')) (ends : (next a).Ends answer s' post) :
    (Dialogue.ask q next).Ends answer s post := by
  unfold Ends at *
  rw [runFrom_ask, answered]
  exact ends

/-- A part that ends in `m` goes on with its result, or is the end of the whole if it fails. -/
theorem Ends.bind {f : α → Dialogue Query Answer ε β} {post : Except ε β → σ → Prop}
    (first : d.Ends answer s m)
    (next : ∀ a s', m (.ok a) s' → (f a).Ends answer s' post)
    (failed : ∀ e s', m (.error e) s' → post (.error e) s') :
    (d >>= f).Ends answer s post := by
  unfold Ends at *
  rw [runFrom_bind]
  cases ran : d.runFrom answer s with
  | mk r s' =>
    rw [ran] at first
    cases r with
    | ok a => exact next a s' first
    | error e => exact failed e s' first

/-- What holds whenever the whole succeeds is for its last part to say. -/
theorem Ends.bind_ok {f : α → Dialogue Query Answer ε β} {good : β → σ → Prop}
    (next : ∀ a s', (f a).Ends answer s' fun r s'' => ∀ b, r = .ok b → good b s'') :
    (d >>= f).Ends answer s fun r s' => ∀ b, r = .ok b → good b s' := by
  refine Ends.bind (m := fun _ _ => True) trivial ?_ ?_
  · exact fun a s' _ => next a s'
  · exact fun _ _ _ _ => nofun

theorem Ends.mapError {f : ε → ε'} {post : Except ε' α → σ → Prop}
    (ends : d.Ends answer s fun r s' => post (r.mapError f) s') :
    (d.mapError f).Ends answer s post := by
  unfold Ends at *
  rw [runFrom_mapError]
  exact ends

/-- The dialogue does not fail when it is run from `s`, and this holds of its value and of the
state after the run. -/
def Yields (answer : (q : Query) → StateM σ (Answer q)) (d : Dialogue Query Answer ε α) (s : σ)
    (good : α → σ → Prop) : Prop :=
  d.Ends answer s fun r s' => ∃ a, r = .ok a ∧ good a s'

theorem Yields.mono {good better : α → σ → Prop} (yields : d.Yields answer s better)
    (weaker : ∀ a s', better a s' → good a s') : d.Yields answer s good := by
  refine Ends.mono yields ?_
  intro r s' ends
  obtain ⟨a, ok, holds⟩ := ends
  exact ⟨a, ok, weaker a s' holds⟩

/-- A part that does not fail goes on with its value. -/
theorem Yields.bind {f : α → Dialogue Query Answer ε β} {good : α → σ → Prop}
    {post : Except ε β → σ → Prop} (first : d.Yields answer s good)
    (next : ∀ a s', good a s' → (f a).Ends answer s' post) : (d >>= f).Ends answer s post := by
  refine Ends.bind first ?_ ?_
  · intro a s' ends
    obtain ⟨b, same, holds⟩ := ends
    cases same
    exact next a s' holds
  · intro e s' ends
    obtain ⟨b, same, -⟩ := ends
    cases same

theorem Yields.mapError {f : ε → ε'} {good : α → σ → Prop} (yields : d.Yields answer s good) :
    (d.mapError f).Yields answer s good := by
  refine Ends.mapError (Ends.mono yields ?_)
  intro r s' ends
  obtain ⟨a, ok, holds⟩ := ends
  exact ⟨a, by rw [ok]; rfl, holds⟩

/-! ## The questions of a dialogue -/

/-- All questions that a dialogue may come to ask, whatever it is answered, are of one kind. -/
def Asks (kind : Query → Prop) : Dialogue Query Answer ε α → Prop
  | done _ => True
  | fail _ => True
  | ask q next => kind q ∧ ∀ answer, (next answer).Asks kind

variable {kind : Query → Prop}

theorem asks_any (d : Dialogue Query Answer ε α) : d.Asks fun _ => True := by
  induction d with
  | done a => trivial
  | fail e => trivial
  | ask q rest ih => exact ⟨trivial, ih⟩

theorem Asks.bind {f : α → Dialogue Query Answer ε β} (first : d.Asks kind)
    (next : ∀ a, (f a).Asks kind) : (d >>= f).Asks kind := by
  show (d.bind f).Asks kind
  induction d with
  | done a => exact next a
  | fail e => trivial
  | ask q rest ih => exact ⟨first.1, fun answer => ih answer (first.2 answer)⟩

/-- How the state may change at a question of that kind, it may change over a whole run. -/
theorem Asks.runFrom {R : σ → σ → Prop} (asks : d.Asks kind) (refl : ∀ s, R s s)
    (trans : ∀ {s s' s''}, R s s' → R s' s'' → R s s'')
    (step : ∀ q s, kind q → R s (StateT.run (answer q) s).2) (s : σ) :
    R s (d.runFrom answer s).2 := by
  induction d generalizing s with
  | done a => exact refl s
  | fail e => exact refl s
  | ask q rest ih =>
    rw [runFrom_ask]
    exact trans (step q s asks.1) (ih _ (asks.2 _) _)

/-! ## The failures of a dialogue -/

/-- Whatever it is answered, the dialogue fails, if it does, for such a reason. -/
def FailsOnly (reason : ε → Prop) : Dialogue Query Answer ε α → Prop
  | done _ => True
  | fail e => reason e
  | ask _ next => ∀ answer, (next answer).FailsOnly reason

variable {reason : ε → Prop}

theorem FailsOnly.bind {f : α → Dialogue Query Answer ε β} (first : d.FailsOnly reason)
    (next : ∀ a, (f a).FailsOnly reason) : (d >>= f).FailsOnly reason := by
  show (d.bind f).FailsOnly reason
  induction d with
  | done a => exact next a
  | fail e => exact first
  | ask q rest ih => exact fun answer => ih answer (first answer)

theorem FailsOnly.of_runFrom {e : ε} {s' : σ} (fails : d.FailsOnly reason)
    (ran : d.runFrom answer s = (.error e, s')) : reason e := by
  induction d generalizing s with
  | done a => cases ran
  | fail e' =>
    cases ran
    exact fails
  | ask q rest ih =>
    rw [runFrom_ask] at ran
    exact ih _ (fails _) ran

/-- Whatever it is answered, the dialogue asks only such questions and fails only for such a
reason. -/
structure Confined (kind : Query → Prop) (reason : ε → Prop) (d : Dialogue Query Answer ε α) :
    Prop where
  asks : d.Asks kind
  fails : d.FailsOnly reason

theorem confined_done (a : α) : (done a : Dialogue Query Answer ε α).Confined kind reason :=
  ⟨trivial, trivial⟩

theorem confined_ask {q : Query} {next : Answer q → Dialogue Query Answer ε α} (asked : kind q)
    (rest : ∀ answer, (next answer).Confined kind reason) : (ask q next).Confined kind reason :=
  ⟨⟨asked, fun answer => (rest answer).asks⟩, fun answer => (rest answer).fails⟩

theorem Confined.bind {f : α → Dialogue Query Answer ε β} (first : d.Confined kind reason)
    (next : ∀ a, (f a).Confined kind reason) : (d >>= f).Confined kind reason :=
  ⟨first.asks.bind fun a => (next a).asks, first.fails.bind fun a => (next a).fails⟩

/-! ## Dialogues within dialogues -/

/-- A dialogue whose questions are answered within another one asks and fails like the answers. -/
theorem Confined.within {Query' : Type} {Answer' : Query' → Type} {kind : Query' → Prop}
    {reason : ε' → Prop} {inner : (q : Query) → Dialogue Query' Answer' ε' (Answer q)}
    (confined : ∀ q, (inner q).Confined kind reason) (d : Dialogue Query Answer ε α) :
    (d.run inner).Confined kind reason := by
  induction d with
  | done a => exact confined_done _
  | fail e => exact confined_done _
  | ask q next ih => exact (confined q).bind ih

end MailboxKeeper.Dialogue
