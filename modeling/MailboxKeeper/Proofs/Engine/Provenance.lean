import MailboxKeeper.Proofs.Engine.CallDiscipline
import MailboxKeeper.Proofs.Engine.ConformingService

/-!
# Where stored passwords come from

A request that stores passwords encrypts two of them, one for each endpoint: those of the mailbox at
hand if it has both, and otherwise the one that was issued for it, twice (`Supplied`). No password
is ever missing where one is encrypted. So what the password columns of the table hold are answers
of the encryption, each to a call of its own (`Sourced`).
-/

namespace MailboxKeeper.Engine

open AccountRequest Store

/-! ## The passwords of a request -/

/-- The passwords that a request stores for the two servers: those that the mailbox at hand has, if
it has both, and otherwise one that was issued in the request. -/
inductive Supplied (userId : String) (turns : List Turn) : (imap smtp : String) → Prop where
  | own {mailbox : Mailbox} {imap smtp : String} (shown : ∃ turn ∈ turns, turn.Shows mailbox)
      (only : ∀ turn ∈ turns, ∀ other, turn.Shows other → other = mailbox)
      (hasImap : mailbox.imap.password = some imap) (hasSmtp : mailbox.smtp.password = some smtp)
      (unissued : turns.filter (·.call.isReset) = []) : Supplied userId turns imap smtp
  | issued {password : String}
      (lacks : ∀ turn ∈ turns, ∀ mailbox, turn.Shows mailbox → mailbox.hasCredentials = false)
      (issued : turns.filter (·.call.isReset)
        = [⟨.service (.resetPassword userId), .ok password⟩]) :
      Supplied userId turns password password

/-- The two passwords of a request are encrypted, the first for IMAP and the second for SMTP, and
the answers stand in the row of the account. -/
structure Stores (userId : String) (turns : List Turn) (a : Account) (t' : Table) : Prop where
  encrypted : ∃ imap smtp, Supplied userId turns imap smtp ∧
    turns.filter (·.call.isEncryption)
      = [⟨.encrypt imap, .ok a.inbound.encryptedPassword⟩,
        ⟨.encrypt smtp, .ok a.outbound.encryptedPassword⟩]
  stored : ∃ id, a.id = some id ∧ ⟨id, .ofAccount a⟩ ∈ t'.rows

/-- The account takes over the endpoints that it is given. -/
def TakesOver (renewed : Endpoint → Endpoint → Account) : Prop :=
  ∀ inbound outbound, (renewed inbound outbound).inbound = inbound ∧
    (renewed inbound outbound).outbound = outbound

variable {t t' : Table} {turns rest : List Turn} {domain userId localPart displayName : String}
variable {account a b : Account} {mailbox issued : Mailbox} {id : AccountId}
variable {found : Option Account} {imap smtp : String}

theorem passwords_of_hasCredentials (has : mailbox.hasCredentials = true) :
    ∃ imap smtp, mailbox.imap.password = some imap ∧ mailbox.smtp.password = some smtp := by
  rw [Mailbox.hasCredentials, Bool.and_eq_true, Option.isSome_iff_exists,
    Option.isSome_iff_exists] at has
  obtain ⟨⟨imap, hasImap⟩, smtp, hasSmtp⟩ := has
  exact ⟨imap, smtp, hasImap, hasSmtp⟩

theorem filter_eq_nil {kind : Call → Bool} (others : ∀ turn ∈ turns, kind turn.call = false) :
    turns.filter (fun turn => kind turn.call) = [] := by
  rw [List.filter_eq_nil_iff]
  intro turn member
  rw [others turn member]
  exact Bool.false_ne_true

theorem Supplied.append (supplied : Supplied userId turns imap smtp)
    (hidden : ∀ turn ∈ rest, ∀ mailbox, ¬turn.Shows mailbox)
    (unreset : ∀ turn ∈ rest, turn.call.isReset = false) :
    Supplied userId (turns ++ rest) imap smtp := by
  have same : (turns ++ rest).filter (·.call.isReset) = turns.filter (·.call.isReset) := by
    rw [List.filter_append, filter_eq_nil unreset, List.append_nil]
  have earlier : ∀ turn ∈ turns ++ rest, ∀ mailbox, turn.Shows mailbox → turn ∈ turns := by
    intro turn member mailbox shows
    exact (List.mem_append.1 member).resolve_right fun late => hidden turn late mailbox shows
  cases supplied with
  | own shown only hasImap hasSmtp unissued =>
    obtain ⟨turn, member, shows⟩ := shown
    refine .own ⟨turn, List.mem_append_left _ member, shows⟩ ?_ hasImap hasSmtp
      (same.trans unissued)
    intro turn member other shows
    exact only turn (earlier turn member other shows) other shows
  | issued lacks issued =>
    refine .issued ?_ (same.trans issued)
    intro turn member mailbox shows
    exact lacks turn (earlier turn member mailbox shows) mailbox shows

namespace Course

section Recording

variable {imapServer smtpServer : MailServer} {renewed : Endpoint → Endpoint → Account}

/-- A recording that succeeds is two encryptions and a write. -/
theorem Recording.of_ok
    (recording : Recording imapServer smtpServer renewed t turns (.ok a) t')
    (takesOver : TakesOver renewed) :
    (∃ write : Turn, write.call.isWrite = true ∧
      turns = [⟨.encrypt (imapServer.password.getD ""), .ok a.inbound.encryptedPassword⟩,
        ⟨.encrypt (smtpServer.password.getD ""), .ok a.outbound.encryptedPassword⟩, write]) ∧
      ∃ unwritten, t.write unwritten = .ok (a, t') := by
  cases recording with
  | @written inbound outbound _ write _ writes wrote =>
    obtain ⟨id, rfl, -⟩ := Table.of_write_eq_ok wrote
    obtain ⟨left, right⟩ :=
      takesOver (endpointOf imapServer inbound) (endpointOf smtpServer outbound)
    refine ⟨⟨write, writes.isWrite, ?_⟩, _, wrote⟩
    rw [left, right]
    rfl

theorem Recording.eq_of_error {fault : Fault}
    (recording : Recording imapServer smtpServer renewed t turns (.error fault) t') : t' = t := by
  cases recording with
  | inboundFailed | outboundFailed | refused => rfl

/-- What was supplied before a recording is stored by it. -/
theorem Recording.stores
    (recording : Recording imapServer smtpServer renewed t rest (.ok a) t')
    (takesOver : TakesOver renewed) (hasImap : imapServer.password = some imap)
    (hasSmtp : smtpServer.password = some smtp)
    (silent : ∀ turn ∈ turns, turn.call.isEncryption = false)
    (supplied : Supplied userId turns imap smtp) : Stores userId (turns ++ rest) a t' := by
  obtain ⟨⟨write, writes, rfl⟩, unwritten, wrote⟩ := recording.of_ok takesOver
  rw [hasImap, hasSmtp]
  obtain ⟨call, answer⟩ := write
  cases call with
  | service | encrypt => cases writes
  | table statement =>
    refine ⟨⟨imap, smtp, supplied.append ?_ ?_, ?_⟩, ?_⟩
    · refine List.forall_mem_cons.2 ⟨nofun, List.forall_mem_cons.2 ⟨nofun, ?_⟩⟩
      exact List.forall_mem_singleton.2 nofun
    · simp [Call.isReset]
    · rw [List.filter_append, filter_eq_nil silent]
      rfl
    · obtain ⟨id, rfl, member⟩ := Table.of_write_eq_ok wrote
      exact ⟨id, rfl, member⟩

end Recording

/-- A mailbox that was issued what it lacks has the passwords that were supplied. -/
theorem Issue.supplied (issue : Issue userId mailbox rest (.ok issued))
    (unreset : ∀ turn ∈ turns, turn.call.isReset = false)
    (shown : ∃ turn ∈ turns, turn.Shows mailbox)
    (only : ∀ turn ∈ turns, ∀ other, turn.Shows other → other = mailbox) :
    ∃ imap smtp, issued.imap.password = some imap ∧ issued.smtp.password = some smtp ∧
      Supplied userId (turns ++ rest) imap smtp := by
  have nothing : turns.filter (·.call.isReset) = [] := filter_eq_nil unreset
  cases issue with
  | whole has =>
    obtain ⟨imap, smtp, hasImap, hasSmtp⟩ := passwords_of_hasCredentials has
    rw [List.append_nil]
    exact ⟨imap, smtp, hasImap, hasSmtp, .own shown only hasImap hasSmtp nothing⟩
  | issued lacks password =>
    refine ⟨password, password, rfl, rfl, .issued ?_ ?_⟩
    · refine List.forall_mem_append.2 ⟨?_, List.forall_mem_singleton.2 nofun⟩
      intro turn member other shows
      rw [only turn member other shows]
      exact lacks
    · rw [List.filter_append, nothing]
      rfl

theorem Issue.isEncryption_eq_false {result : Except Fault Mailbox}
    (issue : Issue userId mailbox turns result) :
    ∀ turn ∈ turns, turn.call.isEncryption = false := by
  cases issue with
  | whole | issued | refused => simp [Call.isEncryption]

theorem Approach.isEncryption_eq_false
    (approach : Approach domain userId localPart found turns mailbox) :
    ∀ turn ∈ turns, turn.call.isEncryption = false := by
  cases approach with
  | found | made | recovered => simp [Call.isEncryption]

theorem Approach.shows (approach : Approach domain userId localPart found turns mailbox) :
    (∃ turn ∈ turns, turn.Shows mailbox) ∧
      ∀ turn ∈ turns, ∀ other, turn.Shows other → other = mailbox := by
  cases approach with
  | found account same =>
    refine ⟨⟨_, List.mem_singleton_self _, .found _ _⟩, List.forall_mem_singleton.2 ?_⟩
    rintro _ ⟨⟩
    rfl
  | made =>
    refine ⟨⟨_, List.mem_singleton_self _, .made _ _ _⟩, List.forall_mem_singleton.2 ?_⟩
    rintro _ ⟨⟩
    rfl
  | recovered refusal same =>
    refine ⟨⟨_, List.mem_cons_of_mem _ (List.mem_singleton_self _), .found _ _⟩,
      List.forall_mem_cons.2 ⟨nofun, List.forall_mem_singleton.2 ?_⟩⟩
    rintro _ ⟨⟩
    rfl

theorem Creation.stores
    (creation : Creation domain userId localPart displayName t turns (.ok a) t') :
    Stores userId turns a t' := by
  cases creation with
  | @approached found first _ mailbox _ _ lookup approach persistence =>
    have owner : (found.getD (.new userId mailbox.email)).userId = userId :=
      (record_of_lookup mailbox.email lookup).1
    cases persistence with
    | @recorded second third _ _ _ issue recording =>
      rw [owner] at issue
      obtain ⟨⟨turn, member, shows⟩, only⟩ := approach.shows
      have unreset : ∀ turn ∈ ⟨.table (.findByAddress userId (Address.ofParts localPart domain)),
          .ok found⟩ :: first, turn.call.isReset = false :=
        List.forall_mem_cons.2 ⟨rfl, approach.opening.unreset⟩
      obtain ⟨imap, smtp, hasImap, hasSmtp, supplied⟩ := issue.supplied unreset
        ⟨turn, List.mem_cons_of_mem _ member, shows⟩ (List.forall_mem_cons.2 ⟨nofun, only⟩)
      have silent := List.forall_mem_append.2
        ⟨approach.isEncryption_eq_false, issue.isEncryption_eq_false⟩
      rw [← List.append_assoc, ← List.cons_append]
      exact recording.stores (fun _ _ => ⟨rfl, rfl⟩) hasImap hasSmtp
        (List.forall_mem_cons.2 ⟨rfl, silent⟩) supplied

theorem PasswordReset.stores (reset : PasswordReset domain userId id t turns (.ok a) t') :
    Stores userId turns a t' := by
  cases reset with
  | @issued account lookup inside password _ _ _ recording =>
    have supplied : Supplied userId [⟨.table (.findById userId id), .ok (some account)⟩,
        ⟨.service (.resetPassword userId), .ok password⟩] password password :=
      .issued (List.forall_mem_cons.2 ⟨nofun, List.forall_mem_singleton.2 nofun⟩) rfl
    have stores := recording.stores (fun _ _ => ⟨rfl, rfl⟩) rfl rfl
      (by simp [Call.isEncryption]) supplied
    exact stores

end Course

/-! ## The password columns -/

/-- The two endpoints of a row. -/
inductive Direction where
  | inbound
  | outbound
  deriving DecidableEq, Repr

namespace Direction

/-- The password column of a row for an endpoint. -/
def password (e : Entry) : Direction → String
  | inbound => e.inbound.password
  | outbound => e.outbound.password

/-- Which of the encryptions of a request is for an endpoint. -/
def place : Direction → Nat
  | inbound => 0
  | outbound => 1

theorem place_injective {d d' : Direction} (same : d.place = d'.place) : d = d' := by
  cases d <;> cases d' <;> first | rfl | cases same

end Direction

/-- The turn at a place is an encryption that was answered by a text. -/
def Yields (turns : List Turn) (place : Nat) (ciphertext : String) : Prop :=
  ∃ plaintext, turns[place]? = some ⟨.encrypt plaintext, .ok ciphertext⟩

theorem Yields.lt {place : Nat} {ciphertext : String} (yields : Yields turns place ciphertext) :
    place < turns.length := by
  obtain ⟨plaintext, answer⟩ := yields
  exact (List.getElem?_eq_some_iff.1 answer).1

theorem Yields.append {place : Nat} {ciphertext : String} (yields : Yields turns place ciphertext)
    (rest : List Turn) : Yields (turns ++ rest) place ciphertext := by
  obtain ⟨plaintext, answer⟩ := id yields
  exact ⟨plaintext, (List.getElem?_append_left yields.lt).trans answer⟩

theorem Yields.after {place : Nat} {ciphertext : String} (yields : Yields rest place ciphertext)
    (turns : List Turn) : Yields (turns ++ rest) (turns.length + place) ciphertext := by
  obtain ⟨plaintext, answer⟩ := yields
  refine ⟨plaintext, ?_⟩
  rw [List.getElem?_append_right (Nat.le_add_right ..), Nat.add_sub_cancel_left]
  exact answer

/-- Every password column holds what the encryption has answered to some call, and no two columns
go back to the same call. -/
def Sourced (t : Table) (turns : List Turn) : Prop :=
  ∃ source : AccountId → Direction → Nat,
    (∀ r ∈ t.rows, ∀ d : Direction, Yields turns (source r.id d) (d.password r.entry)) ∧
    ∀ r ∈ t.rows, ∀ r' ∈ t.rows, ∀ d d', source r.id d = source r'.id d' → r = r' ∧ d = d'

namespace Sourced

theorem empty (turns : List Turn) : Sourced .empty turns := ⟨fun _ => Direction.place, nofun, nofun⟩

theorem append (sourced : Sourced t turns) (rest : List Turn) : Sourced t (turns ++ rest) := by
  obtain ⟨source, yields, distinct⟩ := sourced
  exact ⟨source, fun r member d => (yields r member d).append rest, distinct⟩

theorem subset (sourced : Sourced t turns) (fewer : ∀ r ∈ t'.rows, r ∈ t.rows) :
    Sourced t' turns := by
  obtain ⟨source, yields, distinct⟩ := sourced
  exact ⟨source, fun r member => yields r (fewer r member),
    fun r member r' member' => distinct r (fewer r member) r' (fewer r' member')⟩

/-- A row that is written goes back to new calls, and the others to old ones as before. -/
theorem write (sound : t.Sound) (sourced : Sourced t turns) (wrote : t.write a = .ok (b, t'))
    (new : ∀ d : Direction, Yields rest d.place (d.password (.ofAccount b))) :
    Sourced t' (turns ++ rest) := by
  obtain ⟨-, id, -, rows⟩ := sound.of_write_eq_ok wrote
  obtain ⟨source, yields, distinct⟩ := sourced
  have written (d : Direction) :
      (if id = id then turns.length + d.place else source id d) = turns.length + d.place :=
    if_pos rfl
  have kept {r : Row} (apart : r.id ≠ id) (d : Direction) :
      (if r.id = id then turns.length + d.place else source r.id d) = source r.id d :=
    if_neg apart
  refine ⟨fun other d => if other = id then turns.length + d.place else source other d, ?_, ?_⟩
  · intro r member d
    dsimp only
    rcases (rows r).1 member with rfl | ⟨old, apart⟩
    · rw [written]
      exact (new d).after turns
    · rw [kept apart]
      exact (yields r old d).append rest
  · intro r member r' member' d d' same
    dsimp only at same
    rcases (rows r).1 member with rfl | ⟨old, apart⟩ <;>
      rcases (rows r').1 member' with rfl | ⟨old', apart'⟩
    · rw [written, written] at same
      exact ⟨rfl, Direction.place_injective (Nat.add_left_cancel same)⟩
    · rw [written, kept apart'] at same
      have before := (yields r' old' d').lt
      omega
    · rw [written, kept apart] at same
      have before := (yields r old d).lt
      omega
    · rw [kept apart, kept apart'] at same
      exact distinct r old r' old' d d' same

end Sourced

namespace Course

theorem Recording.sourced {imapServer smtpServer : MailServer}
    {renewed : Endpoint → Endpoint → Account} {result : Except Fault Account}
    (recording : Recording imapServer smtpServer renewed t rest result t')
    (takesOver : TakesOver renewed) (sound : t.Sound) (sourced : Sourced t turns) :
    Sourced t' (turns ++ rest) := by
  cases result with
  | error fault =>
    rw [recording.eq_of_error]
    exact sourced.append rest
  | ok a =>
    obtain ⟨⟨write, -, rfl⟩, unwritten, wrote⟩ := recording.of_ok takesOver
    refine sourced.write sound wrote fun d => ?_
    cases d with
    | inbound => exact ⟨_, rfl⟩
    | outbound => exact ⟨_, rfl⟩

theorem Persistence.sourced {result : Except Fault Account}
    (persistence : Persistence account mailbox displayName t rest result t') (sound : t.Sound)
    (sourced : Sourced t turns) : Sourced t' (turns ++ rest) := by
  cases persistence with
  | unissued => exact sourced.append rest
  | @recorded first second _ _ _ issue recording =>
    rw [← List.append_assoc]
    exact recording.sourced (fun _ _ => ⟨rfl, rfl⟩) sound (sourced.append first)

theorem Creation.sourced {result : Except Fault Account}
    (creation : Creation domain userId localPart displayName t rest result t') (sound : t.Sound)
    (sourced : Sourced t turns) : Sourced t' (turns ++ rest) := by
  cases creation with
  | unread | retreated => exact sourced.append _
  | @approached found first second _ _ _ lookup approach persistence =>
    rw [← List.cons_append, ← List.append_assoc]
    exact persistence.sourced sound (sourced.append _)

theorem PasswordReset.sourced {result : Except Fault Account}
    (reset : PasswordReset domain userId id t rest result t') (sound : t.Sound)
    (sourced : Sourced t turns) : Sourced t' (turns ++ rest) := by
  cases reset with
  | unread | unknown | foreign | refused => exact sourced.append _
  | issued lookup inside password recording =>
    rw [List.append_cons, List.append_cons]
    exact recording.sourced (fun _ _ => ⟨rfl, rfl⟩) sound ((sourced.append _).append _)

theorem Deletion.sourced {result : Except Fault DeletionOutcome}
    (deletion : Deletion domain userId id t rest result t') (sourced : Sourced t turns) :
    Sourced t' (turns ++ rest) := by
  cases deletion with
  | unread | unknown | refused => exact sourced.append _
  | deleted =>
    exact (sourced.subset fun r member => (Table.mem_delete.1 member).1).append _

end Course

/-- Whatever a request comes to, the columns keep their sources. -/
theorem Request.sourced (q : Request) {result : Except Fault q.Result}
    (takes : Takes (q.operation domain) t rest result t') (sound : t.Sound)
    (sourced : Sourced t turns) : Sourced t' (turns ++ rest) := by
  cases q with
  | create userId localPart displayName =>
    by_cases valid : violations userId localPart displayName = []
    · exact (creation_of_takes valid takes).sourced sound sourced
    · obtain ⟨rfl, rfl, -⟩ := of_takes_of_violations valid takes
      exact sourced.append []
  | resolve userId localPart =>
    rw [Takes.of_resolveChecked takes]
    exact sourced.append rest
  | resetPassword userId id => exact (passwordReset_of_takes takes).sourced sound sourced
  | delete userId id => exact (deletion_of_takes takes).sourced sourced

variable {σ : Type}

theorem Collaborators.sourced_after (k : Collaborators σ) (domain : String)
    (requests : List Request) (others : σ) :
    (k.after domain requests ⟨.empty, others, []⟩).table.Sound ∧
      Sourced (k.after domain requests ⟨.empty, others, []⟩).table
        (k.after domain requests ⟨.empty, others, []⟩).transcript := by
  refine Collaborators.after_induction (motive := fun s => s.table.Sound ∧
    Sourced s.table s.transcript) ⟨.empty, .empty []⟩ ?_
  rintro q - s ⟨sound, sourced⟩
  obtain ⟨turns, more, takes⟩ := k.takes (q.operation domain) s
  rw [more]
  exact ⟨takes.keeps (fun _ statement sound => sound.execute statement) sound,
    q.sourced takes sound sourced⟩

/-! ## Missing passwords -/

/-- The endpoint of a server with its password encrypted, and `missing` in its place if the server
has none. -/
def encryptEndpointOr (missing : Operation String) (server : MailServer) : Operation Endpoint := do
  let password ← match server.password with
    | some password => Operation.encrypt password
    | none => missing
  return ⟨server.host, server.port, server.security, server.username, password⟩

/-- Writes a mailbox into the local record of an account, with `missing` for missing passwords. -/
def persistOr (missing : Operation String) (account : Account) (mailbox : Mailbox)
    (displayName : String) : Operation Account := do
  let mailbox ← withIssuedPassword account.userId mailbox
  let inbound ← encryptEndpointOr missing mailbox.imap
  let outbound ← encryptEndpointOr missing mailbox.smtp
  Operation.write (renewed account displayName inbound outbound)

/-- Issues a new password for an account, with `missing` for missing passwords. -/
def resetAccountPasswordOr (missing : Operation String) (domain userId : String) (id : AccountId) :
    Operation Account := do
  let account ← Operation.requireAccount userId id
  if Address.inDomain account.email domain then
    let password ← Operation.service (.resetPassword userId)
    let inbound ← encryptEndpointOr missing (serverOf account.inbound password)
    let outbound ← encryptEndpointOr missing (serverOf account.outbound password)
    Operation.table (.update { account with inbound, outbound })
  else .fail (Fault.notManaged account.email)

theorem encryptEndpointOr_eq {server : MailServer} {password : String}
    (has : server.password = some password) (missing : Operation String) :
    encryptEndpointOr missing server = Operation.encryptEndpoint server := by
  rw [encryptEndpointOr, Operation.encryptEndpoint, has]
  rfl

/-- No password is missing when a mailbox is recorded. -/
theorem persistOr_eq (missing : Operation String) (account : Account) (mailbox : Mailbox)
    (displayName : String) :
    persistOr missing account mailbox displayName = persist account mailbox displayName := by
  have whole : ∀ issued : Mailbox, issued.hasCredentials = true →
      (encryptEndpointOr missing issued.imap >>= fun inbound =>
          encryptEndpointOr missing issued.smtp >>= fun outbound =>
            Operation.write (renewed account displayName inbound outbound))
        = (Operation.encryptEndpoint issued.imap >>= fun inbound =>
          Operation.encryptEndpoint issued.smtp >>= fun outbound =>
            Operation.write (renewed account displayName inbound outbound)) := by
    intro issued has
    obtain ⟨imap, smtp, hasImap, hasSmtp⟩ := passwords_of_hasCredentials has
    rw [encryptEndpointOr_eq hasImap, encryptEndpointOr_eq hasSmtp]
  unfold persistOr persist withIssuedPassword
  split
  · rename_i has
    exact whole mailbox has
  · rw [bind_assoc, bind_assoc]
    exact bind_congr fun password => whole _ (mailbox.hasCredentials_withPassword password)

/-- No password is missing when one was just issued. -/
theorem resetAccountPasswordOr_eq (missing : Operation String) (domain userId : String)
    (id : AccountId) :
    resetAccountPasswordOr missing domain userId id = resetAccountPassword domain userId id := by
  refine bind_congr fun account => ?_
  split
  · refine bind_congr fun password => ?_
    rw [encryptEndpointOr_eq rfl, encryptEndpointOr_eq rfl]
  · rfl

/-- The passwords that are stored. Whatever the collaborators answer: a request that stores
passwords encrypts two, those of the mailbox at hand or one that it was issued, and stores the
answers in that order; none is ever missing; and after any requests every password column holds the
answer to a call of its own. -/
theorem stored_passwords (k : Collaborators σ) (domain : String) :
    (∀ userId localPart displayName s,
      (createOrUpdate domain userId localPart displayName).Ends k.answer s fun result s' =>
        ∀ a, result = .ok a → ∃ turns, s'.transcript = s.transcript ++ turns ∧
          Stores userId turns a s'.table) ∧
      (∀ userId id s, (resetAccountPassword domain userId id).Ends k.answer s fun result s' =>
        ∀ a, result = .ok a → ∃ turns, s'.transcript = s.transcript ++ turns ∧
          Stores userId turns a s'.table) ∧
      (∀ missing account mailbox displayName,
        persistOr missing account mailbox displayName = persist account mailbox displayName) ∧
      (∀ missing userId id,
        resetAccountPasswordOr missing domain userId id = resetAccountPassword domain userId id) ∧
      ∀ requests others, Sourced (k.after domain requests ⟨.empty, others, []⟩).table
        (k.after domain requests ⟨.empty, others, []⟩).transcript := by
  refine ⟨?_, ?_, persistOr_eq, fun missing => resetAccountPasswordOr_eq missing domain, ?_⟩
  · intro userId localPart displayName s
    refine ends_of_takes fun turns result s' said takes => ?_
    rintro a rfl
    by_cases valid : violations userId localPart displayName = []
    · exact ⟨turns, said, (creation_of_takes valid takes).stores⟩
    · cases (of_takes_of_violations valid takes).2.2
  · intro userId id s
    refine ends_of_takes fun turns result s' said takes => ?_
    rintro a rfl
    exact ⟨turns, said, (passwordReset_of_takes takes).stores⟩
  · exact fun requests others => (k.sourced_after domain requests others).2

/-- The table and the turns after an account was created. -/
def afterJane : Scene Holdings :=
  (calm "example.com").after "example.com" [.create "u1" "jane" "Jane"] ⟨.empty, fun _ => none, []⟩

/-- The second request is shown the mailbox without its passwords, so that a new one is issued. -/
theorem stored_passwords_again :
    ∃ a, ((calm "example.com").perform (createOrUpdate "example.com" "u1" "jane" "Jane")
        afterJane).1 = .ok a ∧ ∃ turns,
      ((calm "example.com").perform (createOrUpdate "example.com" "u1" "jane" "Jane")
        afterJane).2.transcript = afterJane.transcript ++ turns ∧
      Stores "u1" turns a ((calm "example.com").perform
        (createOrUpdate "example.com" "u1" "jane" "Jane") afterJane).2.table := by
  have ends := (stored_passwords (calm "example.com") "example.com").1 "u1" "jane" "Jane" afterJane
  refine ⟨_, rfl, ?_⟩
  exact ends _ rfl

end MailboxKeeper.Engine
