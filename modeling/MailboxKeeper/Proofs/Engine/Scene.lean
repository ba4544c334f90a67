import MailboxKeeper.Engine.Creation
import MailboxKeeper.Engine.Deletion
import MailboxKeeper.Engine.PasswordReset
import MailboxKeeper.Proofs.Dialogue
import MailboxKeeper.Proofs.Store.Table

/-!
# The engine among its collaborators

A scene is an account table, the state of everybody else who answers calls, and the transcript of
the calls so far. Collaborators may answer as they like; the table answers for itself, unless it
fails. An operation is performed from one scene on and leaves another. The rules say what each
call does to a scene, and what the writing end of a request does to the table.
-/

namespace MailboxKeeper.Engine

variable {σ : Type}

/-- Who answers the engine. What they do may depend on a state that they share. -/
structure Collaborators (σ : Type) where
  /-- The failure of the table to carry out a statement, if it does fail. -/
  tableFailure? : Store.Statement → σ → Option Store.Error × σ
  service : (c : Provisioning.Call) → σ → c.Answer × σ
  encrypt : String → σ → Except Credential.Error String × σ

/-- A call and its answer. -/
structure Turn where
  call : Call
  answer : call.Answer

/-- The account table, the state of the other collaborators, and all that was said. -/
structure Scene (σ : Type) where
  table : Store.Table
  others : σ
  transcript : List Turn

/-- The scene after a turn that has not touched the table. -/
def Scene.hear (s : Scene σ) (turn : Turn) (others : σ) : Scene σ :=
  { s with others, transcript := s.transcript ++ [turn] }

@[simp] theorem Scene.hear_table (s : Scene σ) (turn : Turn) (others : σ) :
    (s.hear turn others).table = s.table := rfl

@[simp] theorem Scene.hear_others (s : Scene σ) (turn : Turn) (others : σ) :
    (s.hear turn others).others = others := rfl

@[simp] theorem Scene.hear_transcript (s : Scene σ) (turn : Turn) (others : σ) :
    (s.hear turn others).transcript = s.transcript ++ [turn] := rfl

/-- The scene after a statement that the table has carried out or refused by itself. -/
def Scene.execute (s : Scene σ) (statement : Store.Statement) (others : σ) : Scene σ :=
  { s.hear ⟨.table statement, (s.table.execute statement).1⟩ others with
    table := (s.table.execute statement).2 }

namespace Collaborators

variable {α : Type}

/-- How a call is answered, and the scene after it. -/
def answer (k : Collaborators σ) : (c : Call) → StateM (Scene σ) c.Answer
  | .table statement => fun s =>
    match k.tableFailure? statement s.others with
    | (some e, others) => (.error e, s.hear ⟨.table statement, .error e⟩ others)
    | (none, others) => ((s.table.execute statement).1, s.execute statement others)
  | .service c => fun s =>
    ((k.service c s.others).1,
      s.hear ⟨.service c, (k.service c s.others).1⟩ (k.service c s.others).2)
  | .encrypt plaintext => fun s =>
    ((k.encrypt plaintext s.others).1,
      s.hear ⟨.encrypt plaintext, (k.encrypt plaintext s.others).1⟩
        (k.encrypt plaintext s.others).2)

section Table

variable {k : Collaborators σ} {s : Scene σ} {statement : Store.Statement} {e : Store.Error}
variable {others : σ}

theorem answer_of_failure (fails : k.tableFailure? statement s.others = (some e, others)) :
    k.answer (.table statement) s = (.error e, s.hear ⟨.table statement, .error e⟩ others) := by
  simp only [answer, fails]

theorem answer_of_execution (works : k.tableFailure? statement s.others = (none, others)) :
    k.answer (.table statement) s
      = ((s.table.execute statement).1, s.execute statement others) := by
  simp only [answer, works]
  rfl

variable (k s statement) in
/-- The table fails at a statement, or answers for itself. -/
theorem answer_table_cases :
    (∃ e others, k.tableFailure? statement s.others = (some e, others) ∧
        k.answer (.table statement) s = (.error e, s.hear ⟨.table statement, .error e⟩ others)) ∨
      ∃ others, k.tableFailure? statement s.others = (none, others) ∧
        k.answer (.table statement) s
          = ((s.table.execute statement).1, s.execute statement others) := by
  cases fails : k.tableFailure? statement s.others with
  | mk e? others =>
    cases e? with
    | some e => exact .inl ⟨e, others, rfl, answer_of_failure fails⟩
    | none => exact .inr ⟨others, rfl, answer_of_execution fails⟩

end Table

/-- Every answer is written down, and nothing else. -/
theorem transcript_answer (k : Collaborators σ) (call : Call) (s : Scene σ) :
    (k.answer call s).2.transcript = s.transcript ++ [⟨call, (k.answer call s).1⟩] := by
  cases call with
  | service c => rfl
  | encrypt plaintext => rfl
  | table statement =>
    rcases k.answer_table_cases s statement with ⟨e, others, -, said⟩ | ⟨others, -, said⟩
    · rw [said]
      rfl
    · rw [said]
      rfl

/-- The outcome of an operation, and the scene after it. -/
def perform (k : Collaborators σ) (op : Operation α) (s : Scene σ) : Except Fault α × Scene σ :=
  op.runFrom k.answer s

end Collaborators

/-! ## Requests -/

/-- What the engine can be asked for. -/
inductive Request where
  | create (userId localPart displayName : String)
  | resolve (userId localPart : String)
  | resetPassword (userId : String) (id : AccountId)
  | delete (userId : String) (id : AccountId)
  deriving DecidableEq, Repr

namespace Request

/-- What a request yields when it succeeds. -/
def Result : Request → Type
  | create .. | resetPassword .. => Account
  | resolve .. => Resolution
  | delete .. => DeletionOutcome

/-- The user who makes a request. -/
def userId : Request → String
  | create userId .. | resolve userId _ | resetPassword userId _ | delete userId _ => userId

def isDeletion : Request → Bool
  | delete .. => true
  | _ => false

/-- What the engine does at a request. -/
def operation (domain : String) : (q : Request) → Operation q.Result
  | create userId localPart displayName => createOrUpdate domain userId localPart displayName
  | resolve userId localPart => resolveChecked domain userId localPart
  | resetPassword userId id => resetAccountPassword domain userId id
  | delete userId id => deleteAccount domain userId id

end Request

/-- The scene after requests that were made one after the other. -/
def Collaborators.after (k : Collaborators σ) (domain : String) (requests : List Request)
    (s : Scene σ) : Scene σ :=
  requests.foldl (fun s q => (k.perform (q.operation domain) s).2) s

/-- What holds at first and outlasts every request holds after all of them. -/
theorem Collaborators.after_induction {k : Collaborators σ} {domain : String}
    {motive : Scene σ → Prop} {requests : List Request} {s : Scene σ} (start : motive s)
    (step : ∀ q ∈ requests, ∀ s, motive s → motive (k.perform (q.operation domain) s).2) :
    motive (k.after domain requests s) := by
  induction requests generalizing s with
  | nil => exact start
  | cons q requests ih =>
    refine ih (step q (by simp) s start) ?_
    intro r member
    exact step r (by simp [member])

/-! ## Calls -/

namespace Operation

variable {α ε : Type} {k : Collaborators σ} {s : Scene σ}

theorem runFrom_orFault (toFault : ε → Fault) (a : Except ε α) :
    (orFault toFault a).runFrom k.answer s = (a.mapError toFault, s) := by
  cases a <;> rfl

theorem ends_table {statement : Store.Statement}
    {post : Except Fault statement.Result → Scene σ → Prop}
    (failed : ∀ e others, k.tableFailure? statement s.others = (some e, others) →
      post (.error e.toFault) (s.hear ⟨.table statement, .error e⟩ others))
    (executed : ∀ others, k.tableFailure? statement s.others = (none, others) →
      post ((s.table.execute statement).1.mapError Store.Error.toFault)
        (s.execute statement others)) :
    (table statement).Ends k.answer s post := by
  have run : (table statement).runFrom k.answer s
      = ((k.answer (.table statement) s).1.mapError Store.Error.toFault,
          (k.answer (.table statement) s).2) := runFrom_orFault _ _
  unfold Dialogue.Ends
  rw [run]
  rcases k.answer_table_cases s statement with ⟨e, others, fails, said⟩ | ⟨others, works, said⟩
  · rw [said]
    exact failed e others fails
  · rw [said]
    exact executed others works

theorem ends_service {c : Provisioning.Call} {post : Except Fault c.Result → Scene σ → Prop}
    (heard : ∀ answer others, k.service c s.others = (answer, others) →
      post (answer.mapError Provisioning.Failure.toFault)
        (s.hear ⟨.service c, answer⟩ others)) :
    (service c).Ends k.answer s post := by
  have run : (service c).runFrom k.answer s
      = ((k.answer (.service c) s).1.mapError Provisioning.Failure.toFault,
          (k.answer (.service c) s).2) := runFrom_orFault _ _
  unfold Dialogue.Ends
  rw [run]
  exact heard _ _ rfl

/-- A call that the service answers by a result yields that result. -/
theorem yields_service {c : Provisioning.Call} {a : c.Result}
    (answered : (k.service c s.others).1 = .ok a) :
    (service c).Yields k.answer s fun b s' =>
      b = a ∧ s' = s.hear ⟨.service c, .ok a⟩ (k.service c s.others).2 := by
  refine ends_service ?_
  intro answer others heard
  rw [heard] at answered ⊢
  cases answered
  exact ⟨a, rfl, rfl, rfl⟩

theorem ends_tryService {c : Provisioning.Call} {post : Except Fault c.Answer → Scene σ → Prop}
    (heard : ∀ answer others, k.service c s.others = (answer, others) →
      post (.ok answer) (s.hear ⟨.service c, answer⟩ others)) :
    (tryService c).Ends k.answer s post :=
  heard _ _ rfl

theorem yields_tryService {c : Provisioning.Call} :
    (tryService c).Yields k.answer s fun answer s' => answer = (k.service c s.others).1 ∧
      s' = s.hear ⟨.service c, answer⟩ (k.service c s.others).2 :=
  ⟨_, rfl, rfl, rfl⟩

theorem ends_encrypt {plaintext : String} {post : Except Fault String → Scene σ → Prop}
    (heard : ∀ answer others, k.encrypt plaintext s.others = (answer, others) →
      post (answer.mapError Credential.Error.toFault)
        (s.hear ⟨.encrypt plaintext, answer⟩ others)) :
    (encrypt plaintext).Ends k.answer s post := by
  have run : (encrypt plaintext).runFrom k.answer s
      = ((k.answer (.encrypt plaintext) s).1.mapError Credential.Error.toFault,
          (k.answer (.encrypt plaintext) s).2) := runFrom_orFault _ _
  unfold Dialogue.Ends
  rw [run]
  exact heard _ _ rfl

end Operation

end MailboxKeeper.Engine
