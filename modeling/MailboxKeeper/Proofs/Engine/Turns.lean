import MailboxKeeper.Proofs.Engine.Calls

/-!
# The turns of an operation

What an operation says and hears can be told without those who answer: `Takes` lists, for every
table and whatever the answers, the turns that an operation can take, what it ends with and the
table it leaves. Every performance among collaborators takes such turns (`ends_of_takes`), so what
holds of all of them holds of the operation. The `of_` lemmas take an operation apart; nothing
later looks into how operations are put together.
-/

namespace MailboxKeeper.Engine

open Store

variable {σ α β ε : Type} {t t' : Table} {turns : List Turn}

/-- What can be heard over a table, and the table afterwards. The service and the encryption answer
as they like. The table fails as it likes; if it does not, it answers for what is in it. -/
inductive Hears (t : Table) : Turn → Table → Prop where
  | service (c : Provisioning.Call) (answer : c.Answer) : Hears t ⟨.service c, answer⟩ t
  | encrypt (plaintext : String) (answer : Except Credential.Error String) :
      Hears t ⟨.encrypt plaintext, answer⟩ t
  | failed (statement : Statement) (e : Error) : Hears t ⟨.table statement, .error e⟩ t
  | executed (statement : Statement) :
      Hears t ⟨.table statement, (t.execute statement).1⟩ (t.execute statement).2

/-- Over the table `t`, the operation can take these turns, end with that result and leave the
table `t'`. -/
inductive Takes : Operation α → (t : Table) → List Turn → Except Fault α → (t' : Table) → Prop where
  | done (a : α) (t : Table) : Takes (.done a) t [] (.ok a) t
  | fail (fault : Fault) (t : Table) : Takes (.fail fault) t [] (.error fault) t
  | ask {call : Call} {next : call.Answer → Operation α} {answer : call.Answer}
      {t middle t' : Table} {turns : List Turn} {result : Except Fault α}
      (hears : Hears t ⟨call, answer⟩ middle)
      (rest : Takes (next answer) middle turns result t') :
      Takes (.ask call next) t (⟨call, answer⟩ :: turns) result t'

/-- What every statement keeps true of a table, everything that is heard keeps true of it. -/
theorem Hears.keeps {P : Table → Prop} {turn : Turn}
    (kept : ∀ t statement, P t → P (t.execute statement).2) (hears : Hears t turn t')
    (holds : P t) : P t' := by
  cases hears with
  | service | encrypt | failed => exact holds
  | executed statement => exact kept t statement holds

theorem Takes.keeps {P : Table → Prop} {op : Operation α} {result : Except Fault α}
    (kept : ∀ t statement, P t → P (t.execute statement).2) (takes : Takes op t turns result t')
    (holds : P t) : P t' := by
  induction takes with
  | done | fail => exact holds
  | ask hears rest ih => exact ih (hears.keeps kept holds)

/-! ## Among collaborators -/

theorem Collaborators.hears (k : Collaborators σ) (call : Call) (s : Scene σ) :
    (k.answer call s).2.transcript = s.transcript ++ [⟨call, (k.answer call s).1⟩] ∧
      Hears s.table ⟨call, (k.answer call s).1⟩ (k.answer call s).2.table := by
  refine ⟨k.transcript_answer call s, ?_⟩
  cases call with
  | service c => exact .service c _
  | encrypt plaintext => exact .encrypt plaintext _
  | table statement =>
    rcases k.answer_table_cases s statement with ⟨e, others, -, said⟩ | ⟨others, -, said⟩
    · rw [said]
      exact .failed statement e
    · rw [said]
      exact .executed statement

/-- Whoever the collaborators are, an operation takes turns that it can take. -/
theorem Collaborators.takes (k : Collaborators σ) (op : Operation α) (s : Scene σ) :
    ∃ turns, (k.perform op s).2.transcript = s.transcript ++ turns ∧
      Takes op s.table turns (k.perform op s).1 (k.perform op s).2.table := by
  induction op generalizing s with
  | done a => exact ⟨[], (List.append_nil _).symm, .done a _⟩
  | fail fault => exact ⟨[], (List.append_nil _).symm, .fail fault _⟩
  | ask call next ih =>
    -- The hypothesis holds at every answer, and so at the one that these collaborators give.
    obtain ⟨said, hears⟩ := k.hears call s
    obtain ⟨turns, more, rest⟩ := ih (k.answer call s).1 (k.answer call s).2
    refine ⟨_ :: turns, ?_, .ask hears rest⟩
    rw [said, List.append_assoc] at more
    exact more

theorem ends_of_takes {k : Collaborators σ} {op : Operation α} {s : Scene σ}
    {post : Except Fault α → Scene σ → Prop}
    (all : ∀ turns result s', s'.transcript = s.transcript ++ turns →
      Takes op s.table turns result s'.table → post result s') : op.Ends k.answer s post := by
  obtain ⟨turns, more, takes⟩ := k.takes op s
  exact all turns _ _ more takes

/-- At the beginning nothing was said yet. -/
theorem ends_of_takes_start {k : Collaborators σ} {op : Operation α} {others : σ}
    {post : Except Fault α → Scene σ → Prop}
    (all : ∀ result s', Takes op t s'.transcript result s'.table → post result s') :
    op.Ends k.answer ⟨t, others, []⟩ post := by
  refine ends_of_takes ?_
  intro turns result s' said takes
  rw [List.nil_append] at said
  rw [← said] at takes
  exact all result s' takes

/-! ## Sequencing -/

namespace Takes

theorem of_done {a : α} {result : Except Fault α} (takes : Takes (.done a) t turns result t') :
    turns = [] ∧ result = .ok a ∧ t' = t := by
  cases takes
  exact ⟨rfl, rfl, rfl⟩

theorem of_fail {fault : Fault} {result : Except Fault α}
    (takes : Takes (.fail fault) t turns result t') :
    turns = [] ∧ result = .error fault ∧ t' = t := by
  cases takes
  exact ⟨rfl, rfl, rfl⟩

/-- Either a first part fails and that is the end, or the second part goes on from its value. -/
theorem of_bind {op : Operation α} {f : α → Operation β} {result : Except Fault β}
    (takes : Takes (op >>= f) t turns result t') :
    (∃ fault, result = .error fault ∧ Takes op t turns (.error fault) t') ∨
      ∃ a middle first second, turns = first ++ second ∧ Takes op t first (.ok a) middle ∧
        Takes (f a) middle second result t' := by
  change Takes (op.bind f) t turns result t' at takes
  -- The turns of the first part come first, so the induction is on that part.
  induction op generalizing t turns with
  | done a => exact .inr ⟨a, t, [], turns, rfl, .done a t, takes⟩
  | fail fault =>
    obtain ⟨rfl, rfl, rfl⟩ := of_fail takes
    exact .inl ⟨fault, rfl, .fail fault t'⟩
  | ask call next ih =>
    cases takes with
    | ask hears rest =>
      rcases ih _ rest with ⟨fault, rfl, failed⟩ | ⟨a, middle, first, second, rfl, left, right⟩
      · exact .inl ⟨fault, rfl, .ask hears failed⟩
      · exact .inr ⟨a, middle, _ :: first, second, rfl, .ask hears left, right⟩

theorem of_mapError {op : Operation α} {f : Fault → Fault} {result : Except Fault α}
    (takes : Takes (op.mapError f) t turns result t') :
    ∃ inner : Except Fault α, result = inner.mapError f ∧ Takes op t turns inner t' := by
  induction op generalizing t turns with
  | done a =>
    obtain ⟨rfl, rfl, rfl⟩ := of_done takes
    exact ⟨.ok a, rfl, .done a t'⟩
  | fail fault =>
    obtain ⟨rfl, rfl, rfl⟩ := of_fail takes
    exact ⟨.error fault, rfl, .fail fault t'⟩
  | ask call next ih =>
    cases takes with
    | ask hears rest =>
      obtain ⟨inner, same, rest⟩ := ih _ rest
      exact ⟨inner, same, .ask hears rest⟩

/-! ## Single calls -/

theorem of_orFault_bind {toFault : ε → Fault} {answer : Except ε α} {f : α → Operation β}
    {result : Except Fault β}
    (takes : Takes (Operation.orFault toFault answer >>= f) t turns result t') :
    (∃ e, answer = .error e ∧ turns = [] ∧ result = .error (toFault e) ∧ t' = t) ∨
      ∃ a, answer = .ok a ∧ Takes (f a) t turns result t' := by
  cases answer with
  | ok a => exact .inr ⟨a, rfl, takes⟩
  | error e =>
    obtain ⟨rfl, rfl, rfl⟩ := of_fail takes
    exact .inl ⟨e, rfl, rfl, rfl, rfl⟩

/-- A call to the service that fails is the last. -/
theorem of_service_bind {c : Provisioning.Call} {f : c.Result → Operation α}
    {result : Except Fault α} (takes : Takes (Operation.service c >>= f) t turns result t') :
    (∃ failure : Provisioning.Failure, turns = [⟨.service c, .error failure⟩] ∧
        result = .error failure.toFault ∧ t' = t) ∨
      ∃ a rest, turns = ⟨.service c, .ok a⟩ :: rest ∧ Takes (f a) t rest result t' := by
  cases takes with
  | ask hears rest =>
    cases hears
    rcases of_orFault_bind rest with ⟨failure, rfl, rfl, rfl, rfl⟩ | ⟨a, rfl, rest⟩
    · exact .inl ⟨failure, rfl, rfl, rfl⟩
    · exact .inr ⟨a, _, rfl, rest⟩

theorem of_tryService_bind {c : Provisioning.Call} {f : c.Answer → Operation α}
    {result : Except Fault α} (takes : Takes (Operation.tryService c >>= f) t turns result t') :
    ∃ answer rest, turns = ⟨.service c, answer⟩ :: rest ∧ Takes (f answer) t rest result t' := by
  cases takes with
  | ask hears rest =>
    cases hears
    exact ⟨_, _, rfl, rest⟩

/-- A text that cannot be encrypted is the last. -/
theorem of_encrypt_bind {plaintext : String} {f : String → Operation α} {result : Except Fault α}
    (takes : Takes (Operation.encrypt plaintext >>= f) t turns result t') :
    (∃ e : Credential.Error, turns = [⟨.encrypt plaintext, .error e⟩] ∧
        result = .error e.toFault ∧ t' = t) ∨
      ∃ ciphertext rest, turns = ⟨.encrypt plaintext, .ok ciphertext⟩ :: rest ∧
        Takes (f ciphertext) t rest result t' := by
  cases takes with
  | ask hears rest =>
    cases hears
    rcases of_orFault_bind rest with ⟨e, rfl, rfl, rfl, rfl⟩ | ⟨ciphertext, rfl, rest⟩
    · exact .inl ⟨e, rfl, rfl, rfl⟩
    · exact .inr ⟨ciphertext, _, rfl, rest⟩

/-- A statement that the table does not refuse is carried out, unless the table fails. -/
theorem of_table_bind {statement : Statement} {a : statement.Result}
    {f : statement.Result → Operation α} {result : Except Fault α}
    (carries : (t.execute statement).1 = .ok a)
    (takes : Takes (Operation.table statement >>= f) t turns result t') :
    (∃ e : Error, turns = [⟨.table statement, .error e⟩] ∧ result = .error e.toFault ∧ t' = t) ∨
      ∃ rest, turns = ⟨.table statement, .ok a⟩ :: rest ∧
        Takes (f a) (t.execute statement).2 rest result t' := by
  cases takes with
  | ask hears rest =>
    cases hears with
    | failed _ e =>
      obtain ⟨rfl, rfl, rfl⟩ := of_fail rest
      exact .inl ⟨e, rfl, rfl, rfl⟩
    | executed =>
      rw [carries] at rest ⊢
      exact .inr ⟨_, rfl, rest⟩

/-- A statement at the end is carried out or refused, unless the table fails. -/
theorem of_table {statement : Statement} {result : Except Fault statement.Result}
    (takes : Takes (Operation.table statement) t turns result t') :
    (∃ e : Error, turns = [⟨.table statement, .error e⟩] ∧ result = .error e.toFault ∧ t' = t) ∨
      turns = [⟨.table statement, (t.execute statement).1⟩] ∧
        result = (t.execute statement).1.mapError Error.toFault ∧
          t' = (t.execute statement).2 := by
  cases takes with
  | ask hears rest =>
    cases hears with
    | failed _ e =>
      obtain ⟨rfl, rfl, rfl⟩ := of_fail rest
      exact .inl ⟨e, rfl, rfl, rfl⟩
    | executed =>
      cases answered : (t.execute statement).1 with
      | ok a =>
        rw [answered] at rest
        obtain ⟨rfl, rfl, rfl⟩ := of_done rest
        exact .inr ⟨rfl, rfl, rfl⟩
      | error e =>
        rw [answered] at rest
        obtain ⟨rfl, rfl, rfl⟩ := of_fail rest
        exact .inr ⟨rfl, rfl, rfl⟩

end Takes

end MailboxKeeper.Engine
