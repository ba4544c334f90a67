import MailboxKeeper.Proofs.Engine.ConformingService
import MailboxKeeper.Proofs.Engine.Course
import MailboxKeeper.Proofs.Engine.Related
import MailboxKeeper.Proofs.Store.Ownership
import MailboxKeeper.Proofs.Store.SingleRow

/-!
# Users are isolated from each other

An operation for a user keeps to the user: as long as the table yields accounts of the user alone,
all its statements concern the user's rows and all its remote calls the user's mailbox
(`Request.keepsTo`). A sound table does so. Hence nothing that is said, yielded or left for the
user depends on the rows of others, and these stay as they are (`users_isolated`). An id of another
user's account is not found, and that is all that comes of naming one.
-/

namespace MailboxKeeper.Engine

open Store

variable {σ α : Type} {domain userId : String} {id : AccountId}

/-! ## Operations that keep to a user -/

/-- Is the call about rows, or the mailbox, of the user? -/
def Call.Concerns (userId : String) : Call → Prop
  | table statement => statement.Concerns userId
  | service c => c.userId = userId
  | encrypt _ => True

/-- Are the accounts that the table answers with the user's? -/
def Turn.Belongs (userId : String) : Turn → Prop
  | ⟨.table statement, answer⟩ => ∀ result, answer = .ok result → statement.Belongs userId result
  | ⟨.service _, _⟩ => True
  | ⟨.encrypt _, _⟩ => True

/-- Calls are alike when they are the same and concern the user; turns, when they are the same and
tell of no other user's account. -/
def isolation (userId : String) : Likeness :=
  ⟨fun c₁ c₂ => c₁ = c₂ ∧ c₁.Concerns userId, fun t₁ t₂ => t₁ = t₂ ∧ t₁.Belongs userId⟩

/-- The operation makes calls that concern the user alone, provided that the table tells of no other
user's account. -/
abbrev KeepsTo (userId : String) (op : Operation α) : Prop :=
  SideBySide (isolation userId) Eq op op

/-- The data of an operation that keeps to the user are the same, and the accounts are the
user's. -/
def Relations.ofUser (userId : String) : Relations where
  account a b := a = b ∧ b.userId = userId
  mailbox := Eq
  server := Eq
  endpoint := Eq
  password := Eq

theorem Relations.ofUser_coherent (userId : String) : (ofUser userId).Coherent (· = userId) where
  new := fun own _ => ⟨rfl, own⟩
  account := by
    rintro a b ⟨rfl, own⟩
    exact ⟨rfl, rfl, own, rfl, rfl, rfl⟩
  update := by
    rintro a b ⟨rfl, own⟩ inbound inbound' outbound outbound' rfl rfl
    exact ⟨rfl, own⟩
  rename := by
    rintro a b ⟨rfl, own⟩ displayName authMethod
    exact ⟨rfl, own⟩
  mailbox := by
    rintro m n rfl
    exact ⟨rfl, rfl, rfl, rfl⟩
  withPassword := by
    rintro m n rfl p q rfl
    rfl
  serverOf := by
    rintro e f rfl p q rfl
    rfl

theorem rel_of_belongs {found : Option Account}
    (belongs : ∀ a, found = some a → a.userId = userId) :
    Option.Rel (Relations.ofUser userId).account found found := by
  cases found with
  | none => exact .none
  | some a => exact .some ⟨rfl, belongs a rfl⟩

/-- A statement that concerns the user is answered by the same, and it belongs to the user. -/
theorem isolation_table (s : Statement) (concerns : s.Concerns userId) :
    SideBySide (isolation userId) (fun x y => x = y ∧ s.Belongs userId y) (Operation.table s)
      (Operation.table s) := by
  refine .table s s ⟨rfl, concerns⟩ ?_
  rintro x y ⟨same, belongs⟩
  obtain rfl : x = y := eq_of_heq (Turn.mk.inj same).2
  cases x with
  | ok result => exact .ok ⟨rfl, belongs result rfl⟩
  | error e => exact .error e

theorem isolation_encrypt (userId plaintext : String) :
    SideBySide (isolation userId) Eq (Operation.encrypt plaintext)
      (Operation.encrypt plaintext) := by
  refine .encrypt ⟨rfl, trivial⟩ ?_
  rintro x y ⟨same, -⟩
  obtain rfl : x = y := eq_of_heq (Turn.mk.inj same).2
  exact .refl x

/-- Calls that concern the user are answered by the same, and by the user's accounts. -/
theorem isolation_respects (userId : String) :
    (isolation userId).Respects (.ofUser userId) (· = userId) where
  toCoherent := Relations.ofUser_coherent userId
  findByAddress := by
    intro owner own email
    refine (isolation_table (.findByAddress owner email) own).mono ?_
    rintro x y ⟨rfl, belongs⟩
    exact rel_of_belongs belongs
  findById := by
    intro owner own id
    refine (isolation_table (.findById owner id) own).mono ?_
    rintro x y ⟨rfl, belongs⟩
    exact rel_of_belongs belongs
  saveRow := by
    rintro a b ⟨rfl, own⟩
    exact isolation_table (.save a) own
  updateRow := by
    rintro a b ⟨rfl, own⟩
    exact isolation_table (.update a) own
  deleteRow := by
    intro owner own id
    exact (isolation_table (.delete owner id) own).mono fun _ _ _ => trivial
  tryService := by
    intro c own
    refine .tryService c ⟨rfl, own⟩ ?_
    rintro x y ⟨same, -⟩
    obtain rfl : x = y := eq_of_heq (Turn.mk.inj same).2
    refine (Outcomes.refl x).mono ?_
    rintro result - rfl
    cases c with
    | create | delete | resetPassword => exact rfl
    | get =>
      cases result with
      | none => exact .none
      | some mailbox => exact .some rfl
  encryptEndpoint := by
    rintro server - rfl
    refine SideBySide.bind (isolation_encrypt userId _) ?_
    rintro ciphertext - rfl
    exact .done rfl

theorem eq_of_results {q : Request} {x y : q.Result}
    (related : (Relations.ofUser userId).results q x y) : x = y := by
  cases q with
  | create | resetPassword => exact related.1
  | delete => exact related
  | resolve =>
    cases related with
    | retry same => exact congrArg Resolution.retry same
    | noExistingAccount | emailMismatch => rfl

/-- A request keeps to the user who makes it. -/
theorem Request.keepsTo (domain : String) (q : Request) :
    KeepsTo q.userId (q.operation domain) :=
  ((isolation_respects q.userId).request domain q rfl).mono fun _ _ => eq_of_results

/-! ## Runs -/

/-- Scenes that agree on all that concerns the user, and in which the other users have the rows that
they had in `t₁` and in `t₂`. -/
structure Scene.Agree (userId : String) (t₁ t₂ : Table) (s₁ s₂ : Scene σ) : Prop where
  only : s₁.table.only userId = s₂.table.only userId
  others : s₁.others = s₂.others
  transcript : s₁.transcript = s₂.transcript
  sound₁ : s₁.table.Sound
  sound₂ : s₂.table.Sound
  foreign₁ : s₁.table.foreign userId = t₁.foreign userId
  foreign₂ : s₂.table.foreign userId = t₂.foreign userId

variable {t₁ t₂ : Table} {s₁ s₂ : Scene σ} {k : Collaborators σ}

theorem Scene.Agree.hear (agree : Scene.Agree userId t₁ t₂ s₁ s₂) (turn : Turn) (others : σ) :
    Scene.Agree userId t₁ t₂ (s₁.hear turn others) (s₂.hear turn others) :=
  { agree with others := rfl, transcript := congrArg (· ++ [turn]) agree.transcript }

/-- A statement that concerns the user is answered alike, and leaves scenes that still agree. -/
theorem Scene.Agree.execute {s : Statement} (agree : Scene.Agree userId t₁ t₂ s₁ s₂)
    (concerns : s.Concerns userId) (others : σ) :
    (s₁.table.execute s).1 = (s₂.table.execute s).1 ∧
      Scene.Agree userId t₁ t₂ (s₁.execute s others) (s₂.execute s others) := by
  have left := agree.sound₁.execute_only concerns
  have right := agree.sound₂.execute_only concerns
  rw [agree.only, right, Prod.mk.injEq] at left
  obtain ⟨answers, tables⟩ := left
  refine ⟨answers.symm, tables.symm, rfl, ?_, agree.sound₁.execute s, agree.sound₂.execute s,
    ?_, ?_⟩
  · show s₁.transcript ++ _ = s₂.transcript ++ _
    rw [agree.transcript, answers]
  · exact (agree.sound₁.foreign_execute concerns).trans agree.foreign₁
  · exact (agree.sound₂.foreign_execute concerns).trans agree.foreign₂

/-- Calls that concern the user have the same answers, which tell of no other user's account. -/
theorem Scene.Agree.answers (agree : Scene.Agree userId t₁ t₂ s₁ s₂) (c : Call)
    (concerns : c.Concerns userId) :
    (isolation userId).turns ⟨c, (k.answer c s₁).1⟩ ⟨c, (k.answer c s₂).1⟩ ∧
      Scene.Agree userId t₁ t₂ (k.answer c s₁).2 (k.answer c s₂).2 := by
  obtain ⟨left, x, said⟩ := s₁
  obtain ⟨right, y, heard⟩ := s₂
  obtain rfl : x = y := agree.others
  cases c with
  | table s =>
    cases fails : k.tableFailure? s x with
    | mk e? others =>
      cases e? with
      | some e =>
        rw [Collaborators.answer_of_failure fails, Collaborators.answer_of_failure fails]
        exact ⟨⟨rfl, nofun⟩, agree.hear _ others⟩
      | none =>
        obtain ⟨answers, next⟩ := agree.execute concerns others
        rw [Collaborators.answer_of_execution fails, Collaborators.answer_of_execution fails]
        refine ⟨⟨congrArg (Turn.mk (.table s)) answers, ?_⟩, next⟩
        intro result yields
        exact Table.belongs_execute concerns yields
  | service c => exact ⟨⟨rfl, trivial⟩, agree.hear _ _⟩
  | encrypt plaintext => exact ⟨⟨rfl, trivial⟩, agree.hear _ _⟩

/-- From scenes that agree for its user, a request comes to the same result and to scenes that
agree. -/
theorem Scene.Agree.perform (domain : String) (q : Request)
    (agree : Scene.Agree q.userId t₁ t₂ s₁ s₂) :
    (k.perform (q.operation domain) s₁).1 = (k.perform (q.operation domain) s₂).1 ∧
      Scene.Agree q.userId t₁ t₂ (k.perform (q.operation domain) s₁).2
        (k.perform (q.operation domain) s₂).2 := by
  have answers (c₁ c₂ : Call) (s₁ s₂ : Scene σ) (calls : (isolation q.userId).calls c₁ c₂)
      (agree : Scene.Agree q.userId t₁ t₂ s₁ s₂) :
      (isolation q.userId).turns ⟨c₁, (k.answer c₁ s₁).1⟩ ⟨c₂, (k.answer c₂ s₂).1⟩ ∧
        Scene.Agree q.userId t₁ t₂ (k.answer c₁ s₁).2 (k.answer c₂ s₂).2 := by
    obtain ⟨rfl, concerns⟩ := calls
    exact agree.answers c₁ concerns
  obtain ⟨outcomes, after⟩ := (q.keepsTo domain).perform answers agree
  exact ⟨outcomes.eq, after⟩

/-! ## The ids of others -/

/-- The id of the account that a request names, if it names one. -/
def Request.id? : Request → Option AccountId
  | resetPassword _ id | delete _ id => some id
  | create .. | resolve .. => none

/-- An operation has looked for an account that its user does not have, and has made no other
call. -/
def NotFound (userId : String) (id : AccountId) (t : Table) (result : Except Fault α)
    (s' : Scene σ) : Prop :=
  s'.table = t ∧ ((∃ e : Error, result = .error e.toFault ∧
      s'.transcript = [⟨.table (.findById userId id), .error e⟩]) ∨
    result = .error (Fault.accountNotFound id.text) ∧
      s'.transcript = [⟨.table (.findById userId id), .ok none⟩])

theorem notFound_requireAccount {f : Account → Operation α} {t : Table} {x : σ}
    (absent : t.findById userId id = none) :
    (Operation.requireAccount userId id >>= f).Ends k.answer ⟨t, x, []⟩
      (NotFound userId id t) := by
  refine ends_of_takes_start ?_
  intro result s' takes
  rcases takes.of_requireAccount_bind with
    ⟨e, said, failed, same⟩ | ⟨-, said, failed, same⟩ | ⟨account, -, found, -⟩
  · exact ⟨same, .inl ⟨e, failed, said⟩⟩
  · exact ⟨same, .inr ⟨failed, said⟩⟩
  · rw [absent] at found
    cases found

theorem Request.notFound {q : Request} {t : Table} {x : σ} (named : q.id? = some id)
    (absent : t.findById q.userId id = none) :
    (q.operation domain).Ends k.answer ⟨t, x, []⟩ (NotFound q.userId id t) := by
  cases q with
  | create | resolve => cases named
  | resetPassword userId id =>
    cases named
    exact notFound_requireAccount absent
  | delete userId id =>
    cases named
    exact notFound_requireAccount absent

/-- What a request comes to does not depend on the rows of other users. Over two tables that hold
the same rows of its user and would give out the same id next, it makes the same calls, has the same
result and leaves the same rows of the user, and in each table it leaves every other row as it was.
If it names the account of another user, the account is not found, and there is no remote call. -/
theorem users_isolated (k : Collaborators σ) (domain : String) (q : Request) {t₁ t₂ : Table} (x : σ)
    (sound₁ : t₁.Sound) (sound₂ : t₂.Sound) (rows : t₁.owned q.userId = t₂.owned q.userId)
    (next : t₁.nextId? = t₂.nextId?) :
    let left := k.perform (q.operation domain) ⟨t₁, x, []⟩
    let right := k.perform (q.operation domain) ⟨t₂, x, []⟩
    left.1 = right.1 ∧ left.2.transcript = right.2.transcript ∧
      left.2.table.owned q.userId = right.2.table.owned q.userId ∧
      left.2.table.foreign q.userId = t₁.foreign q.userId ∧
      right.2.table.foreign q.userId = t₂.foreign q.userId ∧
      ∀ id, q.id? = some id → (∃ r ∈ t₁.rows, r.id = id ∧ r.entry.userId ≠ q.userId) →
        NotFound q.userId id t₁ left.1 left.2 := by
  have start : Scene.Agree q.userId t₁ t₂ (⟨t₁, x, []⟩ : Scene σ) ⟨t₂, x, []⟩ :=
    ⟨Table.only_eq_of_nextId? rows next, rfl, rfl, sound₁, sound₂, rfl, rfl⟩
  obtain ⟨same, agree⟩ := start.perform domain q
  refine ⟨same, agree.transcript, congrArg Table.rows agree.only, agree.foreign₁,
    agree.foreign₂, ?_⟩
  rintro id named ⟨r, member, numbered, other⟩
  exact q.notFound named (sound₁.findById_eq_none member numbered other)

/-- A user who names the account of another cannot tell whether it is there. -/
theorem users_isolated_handWritten :
    Table.handWritten.Sound ∧ (Table.handWritten.only "u1").rows.length = 1 ∧
      ((calm "example.com").perform (deleteAccount "example.com" "u1" ⟨7⟩)
          ⟨.handWritten, fun _ => none, []⟩).1
        = ((calm "example.com").perform (deleteAccount "example.com" "u1" ⟨7⟩)
          ⟨Table.handWritten.only "u1", fun _ => none, []⟩).1 ∧
      NotFound "u1" ⟨7⟩ .handWritten
        ((calm "example.com").perform (deleteAccount "example.com" "u1" ⟨7⟩)
          ⟨.handWritten, fun _ => none, []⟩).1
        ((calm "example.com").perform (deleteAccount "example.com" "u1" ⟨7⟩)
          ⟨.handWritten, fun _ => none, []⟩).2 := by
  have sound : Table.handWritten.Sound := ⟨by decide, by decide, by decide +kernel⟩
  obtain ⟨same, -, -, -, -, named⟩ := users_isolated (calm "example.com") "example.com"
    (.delete "u1" ⟨7⟩) (fun _ => none) sound (sound.only "u1") (by decide +kernel) rfl
  exact ⟨sound, by decide +kernel, same, named ⟨7⟩ rfl (by decide +kernel)⟩

end MailboxKeeper.Engine
