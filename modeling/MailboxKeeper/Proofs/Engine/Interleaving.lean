import MailboxKeeper.Proofs.Engine.ConformingService
import Mathlib.Logic.Relation

/-!
# Requests at the same time

Nothing keeps the engine from working on several requests at once. A crowd is the requests that are
being worked on, each with the rest of its operation, over one account table and one provisioning
service. A step lets one of them go on by a single call, which is answered at once and without
failing; which one that is, nobody says. So what is reached by steps is what comes of the requests
in every order of their calls.
-/

namespace MailboxKeeper

/-- What a dialogue has ended with, if it has ended. -/
def Dialogue.outcome? {Query : Type} {Answer : Query → Type} {ε α : Type} :
    Dialogue Query Answer ε α → Option (Except ε α)
  | done a => some (.ok a)
  | fail e => some (.error e)
  | ask .. => none

namespace Engine

open Store

variable {n : Nat} {domain : String}

/-- How a call is answered by a conforming service, a table and an encryption that never fail, and
what the table and the service hold before and after. -/
inductive Answers (domain : String) (t : Table) (held : Holdings) :
    (c : Call) → c.Answer → Table → Holdings → Prop where
  | table (statement : Statement) :
      Answers domain t held (.table statement) (t.execute statement).1 (t.execute statement).2 held
  | service {c : Provisioning.Call} {answer : c.Answer} {after : Holdings}
      (serves : Serves domain held c answer after) :
      Answers domain t held (.service c) answer t after
  | encrypt (plaintext ciphertext : String) :
      Answers domain t held (.encrypt plaintext) (.ok ciphertext) t held

/-- Does a turn make a mailbox? -/
def Turn.creates : Turn → Bool
  | ⟨.service (.create ..), .ok _⟩ => true
  | _ => false

/-- Does a turn write to the table? -/
def Turn.writes : Turn → Bool
  | ⟨.table statement, .ok _⟩ => !statement.isRead
  | _ => false

/-- Requests that are worked on at the same time: the table and the service that they share, the
rest of each operation, and all that was said, each turn with the request that it belongs to. -/
structure Crowd (n : Nat) where
  table : Table
  held : Holdings
  rest : Fin n → Operation Account
  transcript : List (Fin n × Turn)

namespace Crowd

variable {c c' : Crowd n}

/-- What a request has ended with, if it has ended. -/
def outcome? (c : Crowd n) (i : Fin n) : Option (Except Fault Account) := (c.rest i).outcome?

/-- Has every request ended? -/
def Finished (c : Crowd n) : Prop := ∀ i, (c.outcome? i).isSome = true

instance (c : Crowd n) : Decidable c.Finished :=
  inferInstanceAs (Decidable (∀ i, (c.outcome? i).isSome = true))

/-- The turns of one request. -/
def said (c : Crowd n) (i : Fin n) : List Turn :=
  (c.transcript.filter fun turn => turn.1 == i).map Prod.snd

/-- How many mailboxes were made. -/
def creations (c : Crowd n) : Nat := c.transcript.countP fun turn => turn.2.creates

/-- Has a request written to the table? -/
def wrote (c : Crowd n) (i : Fin n) : Bool := (c.said i).any Turn.writes

/-- The crowd after a turn of one request. -/
def take (c : Crowd n) (i : Fin n) (turn : Turn) (next : Operation Account) (t : Table)
    (held : Holdings) : Crowd n :=
  ⟨t, held, Function.update c.rest i next, c.transcript ++ [(i, turn)]⟩

/-- One of the requests goes on by one call. -/
inductive Step (domain : String) (c : Crowd n) : Crowd n → Prop where
  | turn {i : Fin n} {call : Call} {next : call.Answer → Operation Account} {answer : call.Answer}
      {t : Table} {held : Holdings} (asks : c.rest i = .ask call next)
      (answers : Answers domain c.table c.held call answer t held) :
      Step domain c (c.take i ⟨call, answer⟩ (next answer) t held)

/-- What requests may come to when their calls are made in any order. -/
abbrev Reaches (domain : String) : Crowd n → Crowd n → Prop := Relation.ReflTransGen (Step domain)

/-- A user asks for accounts, over an empty table. -/
def start (domain userId : String) (held : Holdings) (localPart displayName : Fin n → String) :
    Crowd n :=
  ⟨.empty, held, fun i => createOrUpdate domain userId (localPart i) (displayName i), []⟩

section Take

variable {i j : Fin n} {turn : Turn} {next : Operation Account} {t : Table} {held : Holdings}

@[simp] theorem rest_take_self : (c.take i turn next t held).rest i = next :=
  Function.update_self ..

theorem rest_take_of_ne (other : j ≠ i) : (c.take i turn next t held).rest j = c.rest j :=
  Function.update_of_ne other ..

theorem creations_take :
    (c.take i turn next t held).creations = c.creations + turn.creates.toNat := by
  rw [creations, take, List.countP_append, List.countP_singleton]
  cases turn.creates <;> rfl

theorem said_take_self : (c.take i turn next t held).said i = c.said i ++ [turn] := by
  simp [said, take, List.filter_append]

theorem said_take_of_ne (other : j ≠ i) : (c.take i turn next t held).said j = c.said j := by
  simp [said, take, List.filter_append, other.symm]

theorem wrote_take_self : (c.take i turn next t held).wrote i = (c.wrote i || turn.writes) := by
  simp [wrote, said_take_self]

theorem wrote_take_of_ne (other : j ≠ i) : (c.take i turn next t held).wrote j = c.wrote j := by
  rw [wrote, said_take_of_ne other, wrote]

end Take

/-! ## A schedule -/

/-- How calls are answered by the table, the exemplary service and an encryption that only marks
what it is given, and what the table and the service hold afterwards. -/
def reply (domain : String) (t : Table) (held : Holdings) :
    (c : Call) → c.Answer × Table × Holdings
  | .table statement => ((t.execute statement).1, (t.execute statement).2, held)
  | .service c => ((exemplary domain c held).1, t, (exemplary domain c held).2)
  | .encrypt plaintext => (.ok ("enc:" ++ plaintext), t, held)

theorem answers_reply (domain : String) (t : Table) (held : Holdings) (c : Call) :
    Answers domain t held c (reply domain t held c).1 (reply domain t held c).2.1
      (reply domain t held c).2.2 := by
  cases c with
  | table statement => exact .table statement
  | service c => exact .service (exemplary_serves domain c held)
  | encrypt plaintext => exact .encrypt plaintext _

/-- The crowd after one request has gone on by one call, if it has not ended. -/
def goOn (domain : String) (c : Crowd n) (i : Fin n) : Crowd n :=
  match c.rest i with
  | .ask call next =>
    let r := reply domain c.table c.held call
    c.take i ⟨call, r.1⟩ (next r.1) r.2.1 r.2.2
  | _ => c

/-- The crowd after requests have gone on in some order. -/
def play (domain : String) (c : Crowd n) (order : List (Fin n)) : Crowd n :=
  order.foldl (goOn domain) c

theorem reaches_goOn (domain : String) (c : Crowd n) (i : Fin n) :
    Reaches domain c (goOn domain c i) := by
  unfold goOn
  split
  · rename_i call next asks
    exact .single (.turn asks (answers_reply ..))
  · exact .refl

theorem reaches_play (domain : String) (c : Crowd n) (order : List (Fin n)) :
    Reaches domain c (play domain c order) := by
  induction order generalizing c with
  | nil => exact .refl
  | cons i order ih => exact (reaches_goOn domain c i).trans (ih _)

/-- One request can always be brought to its end. -/
theorem exists_ended (domain : String) (c : Crowd n) (i : Fin n) :
    ∃ c', Reaches domain c c' ∧ (c'.outcome? i).isSome = true ∧
      ∀ j, j ≠ i → c'.outcome? j = c.outcome? j := by
  generalize rest : c.rest i = op
  induction op generalizing c with
  | done a => exact ⟨c, .refl, by rw [outcome?, rest]; rfl, fun _ _ => rfl⟩
  | fail fault => exact ⟨c, .refl, by rw [outcome?, rest]; rfl, fun _ _ => rfl⟩
  | ask call next ih =>
    have step := Step.turn rest (answers_reply domain c.table c.held call)
    obtain ⟨c', reached, ended, others⟩ := ih _ _ rest_take_self
    refine ⟨c', .head step reached, ended, fun j other => ?_⟩
    rw [others j other, outcome?, rest_take_of_ne other, outcome?]

/-- Whatever requests have come to, they can all be brought to their ends. -/
theorem exists_finished (domain : String) (c : Crowd n) :
    ∃ c', Reaches domain c c' ∧ c'.Finished := by
  have some_ended : ∀ requests : List (Fin n), ∃ c', Reaches domain c c' ∧
      ∀ i ∈ requests, (c'.outcome? i).isSome = true := by
    intro requests
    induction requests with
    | nil => exact ⟨c, .refl, nofun⟩
    | cons i requests ih =>
      obtain ⟨middle, first, earlier⟩ := ih
      obtain ⟨c', second, ended, others⟩ := exists_ended domain middle i
      refine ⟨c', first.trans second, ?_⟩
      intro j member
      by_cases same : j = i
      · rw [same]
        exact ended
      · rw [others j same]
        exact earlier j ((List.mem_cons.1 member).resolve_left same)
  obtain ⟨c', reached, all⟩ := some_ended (List.finRange n)
  exact ⟨c', reached, fun i => all i (List.mem_finRange i)⟩

end Crowd

end Engine

end MailboxKeeper
