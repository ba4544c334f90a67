import MailboxKeeper.Json.Printer
import MailboxKeeper.Proofs.Engine.Related
import MailboxKeeper.Proofs.Store.Concealment

/-!
# Passwords stay unseen

What the engine says and leaves depends on whether there are passwords, never on what they are. Two
performances of one operation go side by side when calls and answers count as alike that agree but
for passwords and ciphertexts (`Request.looksAlike`). So over the same table, among collaborators
who differ in the passwords that they hand out and in how they encrypt, any requests make the same
calls, have the same results and leave the same table, once the passwords are concealed; and what
may be shown of the results is the same as it is (`passwords_unseen`).
-/

namespace MailboxKeeper

/-- The answer to a call, with the passwords concealed. -/
def Provisioning.Call.conceal : (c : Call) → c.Answer → c.Answer
  | create .., answer => Except.map Mailbox.concealed answer
  | get _, answer => Except.map (Option.map Mailbox.concealed) answer
  | delete _, answer => answer
  | resetPassword _, answer => Except.map (fun _ => "") answer

namespace Engine

open Store

variable {σ σ₁ σ₂ α γ : Type}

/-! ## Concealing -/

def Call.concealed : Call → Call
  | table statement => table statement.concealed
  | service c => service c
  | encrypt _ => encrypt ""

/-- The turn with the passwords of the call and of the answer concealed. -/
def Turn.concealed : Turn → Turn
  | ⟨.table statement, answer⟩ => ⟨.table statement.concealed, statement.conceal answer⟩
  | ⟨.service c, answer⟩ => ⟨.service c, c.conceal answer⟩
  | ⟨.encrypt _, answer⟩ => ⟨.encrypt "", Except.map (fun _ => "") answer⟩

def Resolution.concealed : Resolution → Resolution
  | retry mailbox => retry mailbox.concealed
  | r => r

namespace Request

/-- What a request yields, with the passwords concealed. -/
def conceal : (q : Request) → q.Result → q.Result
  | create .. => Account.concealed
  | resolve .. => Resolution.concealed
  | resetPassword .. => Account.concealed
  | delete .. => fun outcome => outcome

/-- What may be shown of the result of a request. -/
def resultToJson : (q : Request) → q.Result → Json
  | create .. => Account.toJson
  | resolve .. => Resolution.toJson
  | resetPassword .. => Account.toJson
  | delete .. => fun outcome => .string (DeletionOutcome.name outcome)

theorem resultToJson_conceal (q : Request) (a : q.Result) :
    q.resultToJson (q.conceal a) = q.resultToJson a := by
  cases q with
  | create | resetPassword => exact Account.toJson_concealed a
  | delete => rfl
  | resolve =>
    cases a with
    | retry mailbox =>
      exact congrArg (fun shown => Json.object [("resolution", .string "retry"), ("config", shown)])
        mailbox.toJson_concealed
    | noExistingAccount | emailMismatch => rfl

end Request

/-- A request and what has become of it. -/
structure Response where
  request : Request
  outcome : Except Fault request.Result

namespace Response

def concealed (r : Response) : Response := ⟨r.request, r.outcome.map r.request.conceal⟩

/-- What may be shown of an outcome. -/
def toJson (r : Response) : Json :=
  match r.outcome with
  | .ok a => r.request.resultToJson a
  | .error fault => fault.toJson

/-- The text in which an outcome is shown. -/
def text (r : Response) : String := r.toJson.render

theorem text_concealed (r : Response) : r.concealed.text = r.text := by
  obtain ⟨q, outcome⟩ := r
  cases outcome with
  | ok a => exact congrArg Json.render (q.resultToJson_conceal a)
  | error fault => rfl

end Response

/-- What becomes of requests that are made one after the other. -/
def Collaborators.responses (k : Collaborators σ) (domain : String) :
    List Request → Scene σ → List Response
  | [], _ => []
  | q :: requests, s =>
    ⟨q, (k.perform (q.operation domain) s).1⟩ ::
      k.responses domain requests (k.perform (q.operation domain) s).2

/-! ## Operations that look alike -/

/-- Calls and turns are alike when they agree but for passwords. -/
def concealment : Likeness :=
  ⟨fun c₁ c₂ => c₁.concealed = c₂.concealed, fun t₁ t₂ => t₁.concealed = t₂.concealed⟩

/-- Two operations cannot be told apart but for passwords, nor can what they yield, once something
is hidden in it. -/
abbrev LooksAlike (hide : α → γ) (op₁ op₂ : Operation α) : Prop :=
  SideBySide concealment (fun a b => hide a = hide b) op₁ op₂

section Answers

variable {s₁ s₂ : Statement} {c : Provisioning.Call} {p₁ p₂ : String}

theorem heq_of_table {x : s₁.Answer} {y : s₂.Answer}
    (alike : concealment.turns ⟨.table s₁, x⟩ ⟨.table s₂, y⟩) :
    HEq (s₁.conceal x) (s₂.conceal y) :=
  (Turn.mk.inj alike).2

theorem eq_of_service {x y : c.Answer}
    (alike : concealment.turns ⟨.service c, x⟩ ⟨.service c, y⟩) : c.conceal x = c.conceal y :=
  eq_of_heq (Turn.mk.inj alike).2

theorem eq_of_encrypt {x y : Except Credential.Error String}
    (alike : concealment.turns ⟨.encrypt p₁, x⟩ ⟨.encrypt p₂, y⟩) :
    x.map (fun _ => "") = y.map (fun _ => "") :=
  eq_of_heq (Turn.mk.inj alike).2

end Answers

/-- The data of operations that look alike agree but for passwords. -/
def Relations.concealed : Relations where
  account a b := a.concealed = b.concealed
  mailbox m n := m.concealed = n.concealed
  server s s' := s.concealed = s'.concealed
  endpoint e f := e.concealed = f.concealed
  password _ _ := True

theorem Relations.concealed_coherent : concealed.Coherent fun _ => True where
  new := fun _ _ => rfl
  account := by
    intro a b same
    obtain ⟨id, user, -, email, -, inbound, outbound⟩ := Account.concealed_eq_iff.1 same
    exact ⟨id, user, trivial, email, inbound, outbound⟩
  update := by
    intro a b same inbound inbound' outbound outbound' incoming outgoing
    obtain ⟨id, user, name, email, method, -⟩ := Account.concealed_eq_iff.1 same
    exact Account.concealed_eq_iff.2 ⟨id, user, name, email, method, incoming, outgoing⟩
  rename := by
    intro a b same displayName authMethod
    obtain ⟨id, user, -, email, -, inbound, outbound⟩ := Account.concealed_eq_iff.1 same
    exact Account.concealed_eq_iff.2 ⟨id, user, rfl, email, rfl, inbound, outbound⟩
  mailbox := by
    intro m n same
    obtain ⟨email, imap, smtp⟩ := Mailbox.concealed_eq_iff.1 same
    have credentials : m.hasCredentials = n.hasCredentials := by
      rw [← m.hasCredentials_concealed, same, n.hasCredentials_concealed]
    exact ⟨email, credentials, imap, smtp⟩
  withPassword := by
    intro m n same p q _
    show (m.withPassword p).concealed = (n.withPassword q).concealed
    rw [Mailbox.concealed_withPassword, Mailbox.concealed_withPassword, same]
  serverOf := by
    intro e f same p q _
    obtain ⟨host, port, security, user⟩ := Endpoint.concealed_eq_iff.1 same
    exact MailServer.concealed_eq_iff.2 ⟨host, port, security, user, rfl⟩

/-- A ciphertext tells nothing, and the plaintext does not matter. -/
theorem concealment_encrypt (p₁ p₂ : String) :
    SideBySide concealment (fun _ _ => True) (Operation.encrypt p₁) (Operation.encrypt p₂) := by
  refine .encrypt rfl ?_
  intro x y alike
  exact (Outcomes.of_map_eq (eq_of_encrypt alike)).mono fun _ _ _ => trivial

/-- Calls on data that agree but for passwords look alike, and so do their answers. -/
theorem concealment_respects : concealment.Respects .concealed fun _ => True where
  toCoherent := Relations.concealed_coherent
  findByAddress := by
    intro userId _ email
    refine .table (.findByAddress userId email) (.findByAddress userId email) rfl ?_
    intro x y alike
    have same : x.map (Option.map Account.concealed) = y.map (Option.map Account.concealed) :=
      eq_of_heq (heq_of_table alike)
    exact (Outcomes.of_map_eq same).mono fun _ _ => rel_of_map_eq
  findById := by
    intro userId _ id
    refine .table (.findById userId id) (.findById userId id) rfl ?_
    intro x y alike
    have same : x.map (Option.map Account.concealed) = y.map (Option.map Account.concealed) :=
      eq_of_heq (heq_of_table alike)
    exact (Outcomes.of_map_eq same).mono fun _ _ => rel_of_map_eq
  saveRow := by
    intro a b same
    refine .table (.save a) (.save b) (congrArg (fun a => Call.table (.save a)) same) ?_
    intro x y alike
    have same : x.map Account.concealed = y.map Account.concealed := eq_of_heq (heq_of_table alike)
    exact .of_map_eq same
  updateRow := by
    intro a b same
    refine .table (.update a) (.update b) (congrArg (fun a => Call.table (.update a)) same) ?_
    intro x y alike
    have same : x.map Account.concealed = y.map Account.concealed := eq_of_heq (heq_of_table alike)
    exact .of_map_eq same
  deleteRow := by
    intro userId _ id
    refine .table (.delete userId id) (.delete userId id) rfl ?_
    intro x y alike
    obtain rfl : x = y := eq_of_heq (heq_of_table alike)
    exact (Outcomes.refl x).mono fun _ _ _ => trivial
  tryService := by
    intro c _
    refine .tryService c rfl ?_
    intro x y alike
    have same : c.conceal x = c.conceal y := eq_of_service alike
    cases c with
    | create => exact .of_map_eq same
    | get => exact (Outcomes.of_map_eq same).mono fun _ _ => rel_of_map_eq
    | delete =>
      cases same
      exact .refl x
    | resetPassword => exact (Outcomes.of_map_eq same).mono fun _ _ _ => trivial
  encryptEndpoint := by
    intro server server' same
    obtain ⟨host, port, security, username, -⟩ := MailServer.concealed_eq_iff.1 same
    refine SideBySide.bind (concealment_encrypt _ _) ?_
    intro ciphertext ciphertext' _
    exact .done (Endpoint.concealed_eq_iff.2 ⟨host, port, security, username⟩)

theorem conceal_eq_of_results {q : Request} {x y : q.Result}
    (related : Relations.concealed.results q x y) : q.conceal x = q.conceal y := by
  cases q with
  | create | resetPassword | delete => exact related
  | resolve =>
    cases related with
    | retry same => exact congrArg Resolution.retry same
    | noExistingAccount | emailMismatch => rfl

/-- A request does what it does, whatever the passwords are. -/
theorem Request.looksAlike (domain : String) (q : Request) :
    LooksAlike q.conceal (q.operation domain) (q.operation domain) :=
  (concealment_respects.request domain q trivial).mono fun _ _ => conceal_eq_of_results

/-! ## Runs -/

/-- Collaborators who do the same but for passwords, as long as their states are linked: the table
fails at the same statements, the service gives the same answers with other passwords, and the
encryption, given whatever it is, succeeds at the same calls. -/
structure Collaborators.Alike (k₁ : Collaborators σ₁) (k₂ : Collaborators σ₂)
    (link : σ₁ → σ₂ → Prop) : Prop where
  table : ∀ {s₁ s₂ : Statement} {x₁ x₂}, s₁.concealed = s₂.concealed → link x₁ x₂ →
    (k₁.tableFailure? s₁ x₁).1 = (k₂.tableFailure? s₂ x₂).1 ∧
      link (k₁.tableFailure? s₁ x₁).2 (k₂.tableFailure? s₂ x₂).2
  service : ∀ (c : Provisioning.Call) {x₁ x₂}, link x₁ x₂ →
    c.conceal (k₁.service c x₁).1 = c.conceal (k₂.service c x₂).1 ∧
      link (k₁.service c x₁).2 (k₂.service c x₂).2
  encryption : ∀ (p₁ p₂ : String) {x₁ x₂}, link x₁ x₂ →
    (k₁.encrypt p₁ x₁).1.map (fun _ => "") = (k₂.encrypt p₂ x₂).1.map (fun _ => "") ∧
      link (k₁.encrypt p₁ x₁).2 (k₂.encrypt p₂ x₂).2

/-- Scenes that agree but for passwords, over linked states of the collaborators. -/
structure Scene.Alike (link : σ₁ → σ₂ → Prop) (s₁ : Scene σ₁) (s₂ : Scene σ₂) : Prop where
  table : s₁.table.concealed = s₂.table.concealed
  others : link s₁.others s₂.others
  transcript : s₁.transcript.map Turn.concealed = s₂.transcript.map Turn.concealed

variable {k₁ : Collaborators σ₁} {k₂ : Collaborators σ₂} {link : σ₁ → σ₂ → Prop}
variable {s₁ : Scene σ₁} {s₂ : Scene σ₂}

theorem Scene.Alike.hear {t₁ t₂ : Turn} {x₁ : σ₁} {x₂ : σ₂} (alike : Scene.Alike link s₁ s₂)
    (turns : t₁.concealed = t₂.concealed) (linked : link x₁ x₂) :
    Scene.Alike link (s₁.hear t₁ x₁) (s₂.hear t₂ x₂) where
  table := alike.table
  others := linked
  transcript := by simp [alike.transcript, turns]

/-- A table may fail at statements that agree but for passwords. -/
theorem Scene.Alike.fail {q₁ q₂ : Statement} {x₁ : σ₁} {x₂ : σ₂} (alike : Scene.Alike link s₁ s₂)
    (same : q₁.concealed = q₂.concealed) (e : Error) (linked : link x₁ x₂) :
    concealment.turns ⟨.table q₁, .error e⟩ ⟨.table q₂, .error e⟩ ∧
      Scene.Alike link (s₁.hear ⟨.table q₁, .error e⟩ x₁) (s₂.hear ⟨.table q₂, .error e⟩ x₂) := by
  have failed (q : Statement) :
      Turn.concealed ⟨.table q, .error e⟩ = ⟨.table q.concealed, .error e⟩ := by
    cases q <;> rfl
  have turns : Turn.concealed ⟨.table q₁, .error e⟩ = .concealed ⟨.table q₂, .error e⟩ := by
    rw [failed, failed, same]
  exact ⟨turns, alike.hear turns linked⟩

/-- Statements about tables that agree but for passwords are answered alike and leave such
tables. -/
theorem Scene.Alike.execute {q₁ q₂ : Statement} {x₁ : σ₁} {x₂ : σ₂}
    (alike : Scene.Alike link s₁ s₂) (same : q₁.concealed = q₂.concealed) (linked : link x₁ x₂) :
    concealment.turns ⟨.table q₁, (s₁.table.execute q₁).1⟩ ⟨.table q₂, (s₂.table.execute q₂).1⟩ ∧
      Scene.Alike link (s₁.execute q₁ x₁) (s₂.execute q₂ x₂) := by
  have said (t : Table) (q : Statement) : Turn.concealed ⟨.table q, (t.execute q).1⟩
      = ⟨.table q.concealed, (t.concealed.execute q.concealed).1⟩ := by
    rw [t.execute_concealed q]
    rfl
  have leaves (t : Table) (q : Statement) :
      (t.execute q).2.concealed = (t.concealed.execute q.concealed).2 := by
    rw [t.execute_concealed q]
  have turns : Turn.concealed ⟨.table q₁, (s₁.table.execute q₁).1⟩
      = Turn.concealed ⟨.table q₂, (s₂.table.execute q₂).1⟩ := by
    rw [said, said, alike.table, same]
  have tables : (s₁.table.execute q₁).2.concealed = (s₂.table.execute q₂).2.concealed := by
    rw [leaves, leaves, alike.table, same]
  exact ⟨turns, tables, linked, (alike.hear turns linked).transcript⟩

theorem Collaborators.Alike.answers (alike : k₁.Alike k₂ link) (c₁ c₂ : Call)
    (calls : concealment.calls c₁ c₂) (scenes : Scene.Alike link s₁ s₂) :
    concealment.turns ⟨c₁, (k₁.answer c₁ s₁).1⟩ ⟨c₂, (k₂.answer c₂ s₂).1⟩ ∧
      Scene.Alike link (k₁.answer c₁ s₁).2 (k₂.answer c₂ s₂).2 := by
  cases c₁ with
  | table q₁ =>
    cases c₂ with
    | service | encrypt => cases calls
    | table q₂ =>
      have same : q₁.concealed = q₂.concealed := Call.table.inj calls
      obtain ⟨failures, linked⟩ := alike.table same scenes.others
      cases left : k₁.tableFailure? q₁ s₁.others with
      | mk e₁ x₁ =>
        cases right : k₂.tableFailure? q₂ s₂.others with
        | mk e₂ x₂ =>
          rw [left, right] at failures linked
          cases failures
          cases e₁ with
          | none =>
            rw [answer_of_execution left, answer_of_execution right]
            exact scenes.execute same linked
          | some e =>
            rw [answer_of_failure left, answer_of_failure right]
            exact scenes.fail same e linked
  | service c =>
    cases c₂ with
    | table | encrypt => cases calls
    | service =>
      cases calls
      obtain ⟨answers, linked⟩ := alike.service c scenes.others
      have turns : Turn.concealed ⟨.service c, (k₁.service c s₁.others).1⟩
          = .concealed ⟨.service c, (k₂.service c s₂.others).1⟩ :=
        congrArg (fun answer => (⟨.service c, answer⟩ : Turn)) answers
      exact ⟨turns, scenes.hear turns linked⟩
  | encrypt p₁ =>
    cases c₂ with
    | table | service => cases calls
    | encrypt p₂ =>
      obtain ⟨answers, linked⟩ := alike.encryption p₁ p₂ scenes.others
      have turns : Turn.concealed ⟨.encrypt p₁, (k₁.encrypt p₁ s₁.others).1⟩
          = .concealed ⟨.encrypt p₂, (k₂.encrypt p₂ s₂.others).1⟩ :=
        congrArg (fun answer => (⟨.encrypt "", answer⟩ : Turn)) answers
      exact ⟨turns, scenes.hear turns linked⟩

/-- Over scenes that agree but for passwords, a request has outcomes and leaves scenes that do. -/
theorem Collaborators.Alike.perform (alike : k₁.Alike k₂ link) (domain : String) (q : Request)
    (scenes : Scene.Alike link s₁ s₂) :
    (k₁.perform (q.operation domain) s₁).1.map q.conceal
        = (k₂.perform (q.operation domain) s₂).1.map q.conceal ∧
      Scene.Alike link (k₁.perform (q.operation domain) s₁).2
        (k₂.perform (q.operation domain) s₂).2 := by
  obtain ⟨outcomes, after⟩ := (q.looksAlike domain).perform
    (fun c₁ c₂ s₁ s₂ calls scenes => alike.answers c₁ c₂ calls scenes) scenes
  exact ⟨outcomes.map_eq, after⟩

/-- So it is with requests that are made one after the other. -/
theorem Collaborators.Alike.after (alike : k₁.Alike k₂ link) (domain : String)
    (requests : List Request) (scenes : Scene.Alike link s₁ s₂) :
    (k₁.responses domain requests s₁).map Response.concealed
        = (k₂.responses domain requests s₂).map Response.concealed ∧
      Scene.Alike link (k₁.after domain requests s₁) (k₂.after domain requests s₂) := by
  induction requests generalizing s₁ s₂ with
  | nil => exact ⟨rfl, scenes⟩
  | cons q requests ih =>
    obtain ⟨outcome, next⟩ := alike.perform domain q scenes
    obtain ⟨responses, last⟩ := ih next
    refine ⟨?_, last⟩
    exact congrArg₂ List.cons (congrArg (Response.mk q) outcome) responses

/-- Over one table, among collaborators who differ in passwords and ciphertexts alone, requests make
the same calls in the same order and have the same faults and the same results, but for the texts
of passwords. What is shown of each result is the same text, and the tables that they leave differ
in the password columns at most. -/
theorem passwords_unseen (alike : k₁.Alike k₂ link) (domain : String) (requests : List Request)
    (t : Table) {x₁ : σ₁} {x₂ : σ₂} (linked : link x₁ x₂) :
    (k₁.after domain requests ⟨t, x₁, []⟩).transcript.map Turn.concealed
        = (k₂.after domain requests ⟨t, x₂, []⟩).transcript.map Turn.concealed ∧
      (k₁.responses domain requests ⟨t, x₁, []⟩).map Response.concealed
        = (k₂.responses domain requests ⟨t, x₂, []⟩).map Response.concealed ∧
      (k₁.responses domain requests ⟨t, x₁, []⟩).map Response.text
        = (k₂.responses domain requests ⟨t, x₂, []⟩).map Response.text ∧
      (k₁.after domain requests ⟨t, x₁, []⟩).table.concealed
        = (k₂.after domain requests ⟨t, x₂, []⟩).table.concealed := by
  have start : Scene.Alike link ⟨t, x₁, []⟩ ⟨t, x₂, []⟩ := ⟨rfl, linked, rfl⟩
  obtain ⟨responses, scenes⟩ := alike.after domain requests start
  refine ⟨scenes.transcript, responses, ?_, scenes.table⟩
  have texts := congrArg (List.map Response.text) responses
  simpa only [List.map_map, Function.comp_def, Response.text_concealed] using texts

/-- Collaborators who count the calls that they answer. The service makes every mailbox without
passwords and issues the one that is given; the fourth call is a text that cannot be encrypted. -/
def issuing (password : String) : Collaborators Nat where
  tableFailure? _ n := (none, n + 1)
  service
    | .create userId localPart, n =>
      (.ok ⟨localPart ++ "@example.com", ⟨"imap.example.com", 993, .tls, userId, none⟩,
        ⟨"smtp.example.com", 465, .tls, userId, none⟩⟩, n + 1)
    | .get _, n => (.ok none, n + 1)
    | .delete _, n => (.ok true, n + 1)
    | .resetPassword _, n => (.ok password, n + 1)
  encrypt plaintext n :=
    (if n = 3 then .error (.encryption "out of order") else .ok (password ++ plaintext), n + 1)

theorem issuing_alike (one other : String) : (issuing one).Alike (issuing other) Eq where
  table := by
    rintro q₁ q₂ n - - rfl
    exact ⟨rfl, rfl⟩
  service := by
    rintro c n - rfl
    cases c <;> exact ⟨rfl, rfl⟩
  encryption := by
    rintro p₁ p₂ n - rfl
    refine ⟨?_, rfl⟩
    simp only [issuing]
    split <;> rfl

/-- A user asks twice, since the first request fails at the encryption. Two services that issue
different passwords leave different tables, but nothing else tells them apart. -/
theorem passwords_unseen_issued :
    let twice := [Request.create "u1" "jane" "Jane", .create "u1" "jane" "Jane"]
    ((issuing "one").after "example.com" twice ⟨.empty, 0, []⟩).table
        ≠ ((issuing "two").after "example.com" twice ⟨.empty, 0, []⟩).table ∧
      ((issuing "one").responses "example.com" twice ⟨.empty, 0, []⟩).map Response.text
        = ((issuing "two").responses "example.com" twice ⟨.empty, 0, []⟩).map Response.text ∧
      ((issuing "one").after "example.com" twice ⟨.empty, 0, []⟩).table.concealed
        = ((issuing "two").after "example.com" twice ⟨.empty, 0, []⟩).table.concealed := by
  intro twice
  obtain ⟨-, -, texts, tables⟩ :=
    passwords_unseen (issuing_alike "one" "two") "example.com" twice .empty rfl
  exact ⟨by decide +kernel, texts, tables⟩

end Engine

end MailboxKeeper
