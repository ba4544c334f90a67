import MailboxKeeper.Proofs.Engine.Turns

/-!
# The courses of requests

Each part of a request is told here by all ways it can go: the turns it takes over a table, what it
ends with and the table it leaves. `Course.Creation`, `Course.PasswordReset` and `Course.Deletion`
put the parts together; `creation_of_takes`, `passwordReset_of_takes` and `deletion_of_takes` say
that the operations go no other way.
-/

namespace MailboxKeeper.Engine

open AccountRequest Store

variable {t t' : Table} {turns : List Turn} {domain userId localPart displayName : String}
variable {account : Account} {mailbox : Mailbox} {id : AccountId}

/-! ## Recording -/

/-- The endpoint of a server, with the encrypted form of its password. -/
def endpointOf (server : MailServer) (ciphertext : String) : Endpoint :=
  ⟨server.host, server.port, server.security, server.username, ciphertext⟩

/-- A call to write an account, and its answer. -/
inductive Writes (a : Account) (answer : Except Error Account) : Turn → Prop where
  | update (saved : a.isSaved = true) : Writes a answer ⟨.table (.update a), answer⟩
  | save (unsaved : a.isSaved = false) : Writes a answer ⟨.table (.save a), answer⟩

namespace Course

/-- The passwords of two servers are encrypted, and the account that has them is written. -/
inductive Recording (imap smtp : MailServer) (renewed : Endpoint → Endpoint → Account) (t : Table) :
    List Turn → Except Fault Account → Table → Prop where
  | inboundFailed (e : Credential.Error) :
      Recording imap smtp renewed t [⟨.encrypt (imap.password.getD ""), .error e⟩]
        (.error e.toFault) t
  | outboundFailed (inbound : String) (e : Credential.Error) :
      Recording imap smtp renewed t
        [⟨.encrypt (imap.password.getD ""), .ok inbound⟩,
          ⟨.encrypt (smtp.password.getD ""), .error e⟩]
        (.error e.toFault) t
  | refused (inbound outbound : String) (e : Error) {turn : Turn}
      (writes : Writes (renewed (endpointOf imap inbound) (endpointOf smtp outbound)) (.error e)
        turn) :
      Recording imap smtp renewed t
        [⟨.encrypt (imap.password.getD ""), .ok inbound⟩,
          ⟨.encrypt (smtp.password.getD ""), .ok outbound⟩, turn]
        (.error e.toFault) t
  | written (inbound outbound : String) {written : Account} {turn : Turn} {t' : Table}
      (writes : Writes (renewed (endpointOf imap inbound) (endpointOf smtp outbound)) (.ok written)
        turn)
      (wrote : t.write (renewed (endpointOf imap inbound) (endpointOf smtp outbound))
        = .ok (written, t')) :
      Recording imap smtp renewed t
        [⟨.encrypt (imap.password.getD ""), .ok inbound⟩,
          ⟨.encrypt (smtp.password.getD ""), .ok outbound⟩, turn]
        (.ok written) t'

end Course

theorem Takes.of_encryptEndpoint_bind {server : MailServer} {f : Endpoint → Operation Account}
    {result : Except Fault Account}
    (takes : Takes (Operation.encryptEndpoint server >>= f) t turns result t') :
    (∃ e : Credential.Error, turns = [⟨.encrypt (server.password.getD ""), .error e⟩] ∧
        result = .error e.toFault ∧ t' = t) ∨
      ∃ ciphertext rest, turns = ⟨.encrypt (server.password.getD ""), .ok ciphertext⟩ :: rest ∧
        Takes (f (endpointOf server ciphertext)) t rest result t' := by
  unfold Operation.encryptEndpoint at takes
  rw [bind_assoc] at takes
  exact takes.of_encrypt_bind

/-- An account is written to its row if it has one and to a new one otherwise, unless the table
fails or refuses. -/
theorem Takes.of_write {a : Account} {result : Except Fault Account}
    (takes : Takes (Operation.write a) t turns result t') :
    (∃ (e : Error) (turn : Turn), turns = [turn] ∧ Writes a (.error e) turn ∧
        result = .error e.toFault ∧ t' = t) ∨
      ∃ (b : Account) (turn : Turn), turns = [turn] ∧ Writes a (.ok b) turn ∧
        result = .ok b ∧ t.write a = .ok (b, t') := by
  cases saved : a.isSaved with
  | true =>
    have writes : t.write a = t.update a := if_pos saved
    rw [write_of_saved saved] at takes
    rw [writes]
    rcases takes.of_table with ⟨e, rfl, rfl, rfl⟩ | ⟨rfl, rfl, rfl⟩
    · exact .inl ⟨e, _, rfl, .update saved, rfl, rfl⟩
    · simp only [Table.execute]
      cases t.update a with
      | error e => exact .inl ⟨e, _, rfl, .update saved, rfl, rfl⟩
      | ok after => exact .inr ⟨after.1, _, rfl, .update saved, rfl, rfl⟩
  | false =>
    have writes : t.write a = t.save a := if_neg (by rw [saved]; exact Bool.false_ne_true)
    rw [write_of_unsaved saved] at takes
    rw [writes]
    rcases takes.of_table with ⟨e, rfl, rfl, rfl⟩ | ⟨rfl, rfl, rfl⟩
    · exact .inl ⟨e, _, rfl, .save saved, rfl, rfl⟩
    · simp only [Table.execute]
      cases t.save a with
      | error e => exact .inl ⟨e, _, rfl, .save saved, rfl, rfl⟩
      | ok after => exact .inr ⟨after.1, _, rfl, .save saved, rfl, rfl⟩

theorem recording_of_takes {imap smtp : MailServer} {renewed : Endpoint → Endpoint → Account}
    {result : Except Fault Account}
    (takes : Takes (Operation.encryptEndpoint imap >>= fun inbound =>
      Operation.encryptEndpoint smtp >>= fun outbound =>
        Operation.write (renewed inbound outbound)) t turns result t') :
    Course.Recording imap smtp renewed t turns result t' := by
  rcases takes.of_encryptEndpoint_bind with ⟨e, rfl, rfl, rfl⟩ | ⟨inbound, _, rfl, next⟩
  · exact .inboundFailed e
  · rcases next.of_encryptEndpoint_bind with ⟨e, rfl, rfl, rfl⟩ | ⟨outbound, _, rfl, last⟩
    · exact .outboundFailed inbound e
    · rcases last.of_write with
        ⟨e, turn, rfl, writes, rfl, rfl⟩ | ⟨b, turn, rfl, writes, rfl, wrote⟩
      · exact .refused inbound outbound e writes
      · exact .written inbound outbound writes wrote

/-! ## A mailbox and its passwords -/

/-- The account as it is written when a mailbox is at hand. -/
def renewed (account : Account) (displayName : String) (inbound outbound : Endpoint) : Account :=
  { account with
    displayName := Text.trim displayName, authMethod := .password, inbound, outbound }

namespace Course

/-- A mailbox that lacks a password gets one for both servers. -/
inductive Issue (userId : String) (mailbox : Mailbox) :
    List Turn → Except Fault Mailbox → Prop where
  | whole (has : mailbox.hasCredentials = true) : Issue userId mailbox [] (.ok mailbox)
  | issued (lacks : mailbox.hasCredentials = false) (password : String) :
      Issue userId mailbox [⟨.service (.resetPassword userId), .ok password⟩]
        (.ok (mailbox.withPassword password))
  | refused (lacks : mailbox.hasCredentials = false) (failure : Provisioning.Failure) :
      Issue userId mailbox [⟨.service (.resetPassword userId), .error failure⟩]
        (.error failure.toFault)

/-- A mailbox that is at hand is recorded in an account. -/
inductive Persistence (account : Account) (mailbox : Mailbox) (displayName : String) (t : Table) :
    List Turn → Except Fault Account → Table → Prop where
  | unissued {turns : List Turn} {fault : Fault}
      (issue : Issue account.userId mailbox turns (.error fault)) :
      Persistence account mailbox displayName t turns (.error fault) t
  | recorded {first second : List Turn} {issued : Mailbox} {result : Except Fault Account}
      {t' : Table} (issue : Issue account.userId mailbox first (.ok issued))
      (recording : Recording issued.imap issued.smtp (renewed account displayName) t second result
        t') :
      Persistence account mailbox displayName t (first ++ second) result t'

end Course

theorem issue_of_takes {result : Except Fault Mailbox}
    (takes : Takes (withIssuedPassword userId mailbox) t turns result t') :
    t' = t ∧ Course.Issue userId mailbox turns result := by
  unfold withIssuedPassword at takes
  split at takes
  · rename_i has
    obtain ⟨rfl, rfl, rfl⟩ := Takes.of_done takes
    exact ⟨rfl, .whole has⟩
  · rename_i lacks
    rw [Bool.not_eq_true] at lacks
    rcases takes.of_service_bind with ⟨failure, rfl, rfl, rfl⟩ | ⟨password, _, rfl, rest⟩
    · exact ⟨rfl, .refused lacks failure⟩
    · obtain ⟨rfl, rfl, rfl⟩ := Takes.of_done rest
      exact ⟨rfl, .issued lacks password⟩

theorem persistence_of_takes {result : Except Fault Account}
    (takes : Takes (persist account mailbox displayName) t turns result t') :
    Course.Persistence account mailbox displayName t turns result t' := by
  rcases takes.of_bind with ⟨fault, rfl, failed⟩ | ⟨issued, middle, first, second, rfl, left, right⟩
  · obtain ⟨rfl, issue⟩ := issue_of_takes failed
    exact .unissued issue
  · obtain ⟨rfl, issue⟩ := issue_of_takes left
    exact .recorded issue (recording_of_takes right)

/-! ## Creation -/

namespace Course

/-- The calls by which a mailbox is had, for a user whose record the table has found or not. -/
inductive Approach (domain userId localPart : String) :
    Option Account → List Turn → Mailbox → Prop where
  | found (account : Account) {mailbox : Mailbox}
      (same : Address.same mailbox.email (Address.ofParts localPart domain) = true) :
      Approach domain userId localPart (some account)
        [⟨.service (.get userId), .ok (some mailbox)⟩] mailbox
  | made (mailbox : Mailbox) :
      Approach domain userId localPart none
        [⟨.service (.create userId localPart), .ok mailbox⟩] mailbox
  | recovered (refusal : Provisioning.Failure) {mailbox : Mailbox}
      (same : Address.same mailbox.email (Address.ofParts localPart domain) = true) :
      Approach domain userId localPart none
        [⟨.service (.create userId localPart), .error refusal⟩,
          ⟨.service (.get userId), .ok (some mailbox)⟩] mailbox

/-- The calls after which there is no mailbox to go on with, and the fault of it. -/
inductive Retreat (domain userId localPart : String) :
    Option Account → List Turn → Fault → Prop where
  | lookupFailed (account : Account) (failure : Provisioning.Failure) :
      Retreat domain userId localPart (some account)
        [⟨.service (.get userId), .error failure⟩] failure.toFault
  | elsewhere (account : Account) {mailbox : Mailbox}
      (apart : Address.same mailbox.email (Address.ofParts localPart domain) = false) :
      Retreat domain userId localPart (some account)
        [⟨.service (.get userId), .ok (some mailbox)⟩]
        (Fault.emailMismatch (Address.ofParts localPart domain) mailbox.email)
  | missing (account : Account) :
      Retreat domain userId localPart (some account) [⟨.service (.get userId), .ok none⟩]
        (Fault.missingMailbox account.email)
  | refusedLookupFailed (refusal failure : Provisioning.Failure) :
      Retreat domain userId localPart none
        [⟨.service (.create userId localPart), .error refusal⟩,
          ⟨.service (.get userId), .error failure⟩]
        (failure.toFault.withCause refusal.toFault)
  | refusedElsewhere (refusal : Provisioning.Failure) {mailbox : Mailbox}
      (apart : Address.same mailbox.email (Address.ofParts localPart domain) = false) :
      Retreat domain userId localPart none
        [⟨.service (.create userId localPart), .error refusal⟩,
          ⟨.service (.get userId), .ok (some mailbox)⟩]
        ((Fault.emailMismatch (Address.ofParts localPart domain) mailbox.email).withCause
          refusal.toFault)
  | refusedMissing (refusal : Provisioning.Failure) :
      Retreat domain userId localPart none
        [⟨.service (.create userId localPart), .error refusal⟩,
          ⟨.service (.get userId), .ok none⟩]
        refusal.toFault

/-- A valid request for an account. -/
inductive Creation (domain userId localPart displayName : String) (t : Table) :
    List Turn → Except Fault Account → Table → Prop where
  | unread (e : Error) :
      Creation domain userId localPart displayName t
        [⟨.table (.findByAddress userId (Address.ofParts localPart domain)), .error e⟩]
        (.error e.toFault) t
  | retreated {found : Option Account} {turns : List Turn} {fault : Fault}
      (lookup : t.findByAddress userId (Address.ofParts localPart domain) = found)
      (retreat : Retreat domain userId localPart found turns fault) :
      Creation domain userId localPart displayName t
        (⟨.table (.findByAddress userId (Address.ofParts localPart domain)), .ok found⟩ :: turns)
        (.error fault) t
  | approached {found : Option Account} {first second : List Turn} {mailbox : Mailbox}
      {result : Except Fault Account} {t' : Table}
      (lookup : t.findByAddress userId (Address.ofParts localPart domain) = found)
      (approach : Approach domain userId localPart found first mailbox)
      (persistence : Persistence (found.getD (.new userId mailbox.email)) mailbox displayName t
        second result t') :
      Creation domain userId localPart displayName t
        (⟨.table (.findByAddress userId (Address.ofParts localPart domain)), .ok found⟩
          :: (first ++ second)) result t'

end Course

/-- The record that a request writes to is the user's, and it has a row if it was found. -/
theorem record_of_lookup {address : String} {found : Option Account} (email : String)
    (lookup : t.findByAddress userId address = found) :
    (found.getD (.new userId email)).userId = userId ∧
      (found.getD (.new userId email)).isSaved = found.isSome := by
  cases found with
  | none => exact ⟨rfl, rfl⟩
  | some account =>
    obtain ⟨r, -, at_, rfl⟩ := Table.of_findByAddress_eq_some lookup
    exact ⟨(Entry.isAt_iff.1 at_).1, rfl⟩

/-- A lookup is a single call; what it finds is compared with the expected address. -/
theorem Takes.of_resolve {result : Except Fault Resolution}
    (takes : Takes (resolve domain userId localPart) t turns result t') :
    t' = t ∧
      ((∃ failure : Provisioning.Failure, turns = [⟨.service (.get userId), .error failure⟩] ∧
          result = .error failure.toFault) ∨
        ∃ found : Option Mailbox, turns = [⟨.service (.get userId), .ok found⟩] ∧
          result = .ok (.ofMailbox (Address.ofParts localPart domain) found)) := by
  rcases takes.of_service_bind with ⟨failure, rfl, rfl, rfl⟩ | ⟨found, _, rfl, rest⟩
  · exact ⟨rfl, .inl ⟨failure, rfl, rfl⟩⟩
  · obtain ⟨rfl, rfl, rfl⟩ := Takes.of_done rest
    exact ⟨rfl, .inr ⟨found, rfl, rfl⟩⟩

/-- A lookup on its own leaves the table as it is. -/
theorem Takes.of_resolveChecked {result : Except Fault Resolution}
    (takes : Takes (resolveChecked domain userId localPart) t turns result t') : t' = t := by
  unfold resolveChecked at takes
  split at takes
  · exact takes.of_resolve.1
  · exact takes.of_fail.2.2

/-- A mailbox that was found is at the expected address or at another. -/
theorem ofMailbox_some_cases (expected : String) (mailbox : Mailbox) :
    (Address.same mailbox.email expected = true ∧
        Resolution.ofMailbox expected (some mailbox) = .retry mailbox) ∨
      Address.same mailbox.email expected = false ∧
        Resolution.ofMailbox expected (some mailbox) = .emailMismatch expected mailbox.email := by
  cases same : Address.same mailbox.email expected with
  | true => exact .inl ⟨rfl, if_pos same⟩
  | false => exact .inr ⟨rfl, if_neg (by rw [same]; exact Bool.false_ne_true)⟩

section Creation

variable {result : Except Fault Account}

theorem creation_of_takes_repair
    (lookup : t.findByAddress userId (Address.ofParts localPart domain) = some account)
    (takes : Takes (repair domain localPart displayName account) t turns result t') :
    Course.Creation domain userId localPart displayName t
      (⟨.table (.findByAddress userId (Address.ofParts localPart domain)), .ok (some account)⟩
        :: turns) result t' := by
  obtain ⟨r, -, at_, rfl⟩ := Table.of_findByAddress_eq_some lookup
  -- The service is asked about the owner of the record, who is the user of the request.
  have owner : r.toAccount.userId = userId := (Entry.isAt_iff.1 at_).1
  unfold repair at takes
  rw [owner] at takes
  rcases takes.of_bind with
    ⟨fault, rfl, failed⟩ | ⟨resolution, middle, first, second, rfl, left, right⟩
  · obtain ⟨rfl, ⟨failure, rfl, same⟩ | ⟨found, -, same⟩⟩ := failed.of_resolve
    · cases same
      exact .retreated lookup (.lookupFailed _ failure)
    · cases same
  · obtain ⟨rfl, ⟨failure, -, same⟩ | ⟨found, rfl, same⟩⟩ := left.of_resolve
    · cases same
    · cases same
      cases found with
      | none =>
        obtain ⟨rfl, rfl, rfl⟩ := Takes.of_fail right
        exact .retreated lookup (.missing _)
      | some mailbox =>
        rcases ofMailbox_some_cases (Address.ofParts localPart domain) mailbox with
          ⟨same, retry⟩ | ⟨apart, mismatch⟩
        · rw [retry] at right
          exact .approached lookup (.found _ same) (persistence_of_takes right)
        · rw [mismatch] at right
          obtain ⟨rfl, rfl, rfl⟩ := Takes.of_fail right
          exact .retreated lookup (.elsewhere _ apart)

theorem creation_of_takes_recover {refusal : Provisioning.Failure}
    (lookup : t.findByAddress userId (Address.ofParts localPart domain) = none)
    (takes : Takes (recover domain userId localPart displayName refusal.toFault) t turns result
      t') :
    Course.Creation domain userId localPart displayName t
      (⟨.table (.findByAddress userId (Address.ofParts localPart domain)), .ok none⟩
        :: ⟨.service (.create userId localPart), .error refusal⟩ :: turns) result t' := by
  rcases takes.of_bind with
    ⟨fault, rfl, failed⟩ | ⟨resolution, middle, first, second, rfl, left, right⟩
  · obtain ⟨inner, same, failed⟩ := failed.of_mapError
    obtain ⟨rfl, ⟨failure, rfl, rfl⟩ | ⟨found, -, rfl⟩⟩ := failed.of_resolve
    · cases same
      exact .retreated lookup (.refusedLookupFailed refusal failure)
    · cases same
  · obtain ⟨inner, same, left⟩ := left.of_mapError
    obtain ⟨rfl, ⟨failure, -, rfl⟩ | ⟨found, rfl, rfl⟩⟩ := left.of_resolve
    · cases same
    · cases same
      cases found with
      | none =>
        obtain ⟨rfl, rfl, rfl⟩ := Takes.of_fail right
        exact .retreated lookup (.refusedMissing refusal)
      | some mailbox =>
        rcases ofMailbox_some_cases (Address.ofParts localPart domain) mailbox with
          ⟨same, retry⟩ | ⟨apart, mismatch⟩
        · rw [retry] at right
          exact .approached lookup (.recovered refusal same) (persistence_of_takes right)
        · rw [mismatch] at right
          obtain ⟨rfl, rfl, rfl⟩ := Takes.of_fail right
          exact .retreated lookup (.refusedElsewhere refusal apart)

theorem creation_of_takes_provision
    (lookup : t.findByAddress userId (Address.ofParts localPart domain) = none)
    (takes : Takes (provision domain userId localPart displayName) t turns result t') :
    Course.Creation domain userId localPart displayName t
      (⟨.table (.findByAddress userId (Address.ofParts localPart domain)), .ok none⟩ :: turns)
      result t' := by
  obtain ⟨answer, _, rfl, next⟩ := takes.of_tryService_bind
  cases answer with
  | ok mailbox => exact .approached lookup (.made mailbox) (persistence_of_takes next)
  | error refusal => exact creation_of_takes_recover lookup next

/-- How a valid request for an account goes. -/
theorem creation_of_takes (valid : violations userId localPart displayName = [])
    (takes : Takes (createOrUpdate domain userId localPart displayName) t turns result t') :
    Course.Creation domain userId localPart displayName t turns result t' := by
  unfold createOrUpdate at takes
  rw [valid] at takes
  rcases takes.of_table_bind rfl with ⟨e, rfl, rfl, rfl⟩ | ⟨_, rfl, next⟩
  · exact .unread e
  · cases lookup : t.findByAddress userId (Address.ofParts localPart domain) with
    | some account =>
      rw [lookup] at next
      exact creation_of_takes_repair lookup next
    | none =>
      rw [lookup] at next
      exact creation_of_takes_provision lookup next

/-- An invalid request for an account ends before it has begun. -/
theorem of_takes_of_violations (invalid : violations userId localPart displayName ≠ [])
    (takes : Takes (createOrUpdate domain userId localPart displayName) t turns result t') :
    turns = [] ∧ t' = t ∧
      result = .error (Fault.ofViolations (violations userId localPart displayName)) := by
  unfold createOrUpdate at takes
  split at takes
  · rename_i valid
    exact absurd valid invalid
  · obtain ⟨rfl, rfl, rfl⟩ := Takes.of_fail takes
    exact ⟨rfl, rfl, rfl⟩

end Creation

/-! ## Password reset -/

/-- The first call has found the record. -/
def Finds (userId : String) (id : AccountId) (account : Account) (turns : List Turn) : Prop :=
  turns.head? = some ⟨.table (.findById userId id), .ok (some account)⟩

/-- An account is required under an id: the call may fail or find nothing. -/
theorem Takes.of_requireAccount_bind {β : Type} {f : Account → Operation β}
    {result : Except Fault β}
    (takes : Takes (Operation.requireAccount userId id >>= f) t turns result t') :
    (∃ e : Error, turns = [⟨.table (.findById userId id), .error e⟩] ∧
        result = .error e.toFault ∧ t' = t) ∨
      (t.findById userId id = none ∧ turns = [⟨.table (.findById userId id), .ok none⟩] ∧
        result = .error (Fault.accountNotFound id.text) ∧ t' = t) ∨
      ∃ account rest, t.findById userId id = some account ∧
        turns = ⟨.table (.findById userId id), .ok (some account)⟩ :: rest ∧
        Takes (f account) t rest result t' := by
  unfold Operation.requireAccount at takes
  rw [bind_assoc] at takes
  rcases takes.of_table_bind rfl with ⟨e, rfl, rfl, rfl⟩ | ⟨rest, rfl, next⟩
  · exact .inl ⟨e, rfl, rfl, rfl⟩
  · cases lookup : t.findById userId id with
    | none =>
      rw [lookup] at next
      obtain ⟨rfl, rfl, rfl⟩ := Takes.of_fail next
      exact .inr (.inl ⟨rfl, rfl, rfl, rfl⟩)
    | some account =>
      rw [lookup] at next
      exact .inr (.inr ⟨account, rest, rfl, rfl, next⟩)

namespace Course

/-- A request for a new password. -/
inductive PasswordReset (domain userId : String) (id : AccountId) (t : Table) :
    List Turn → Except Fault Account → Table → Prop where
  | unread (e : Error) :
      PasswordReset domain userId id t [⟨.table (.findById userId id), .error e⟩]
        (.error e.toFault) t
  | unknown (lookup : t.findById userId id = none) :
      PasswordReset domain userId id t [⟨.table (.findById userId id), .ok none⟩]
        (.error (Fault.accountNotFound id.text)) t
  | foreign {account : Account} (lookup : t.findById userId id = some account)
      (outside : Address.inDomain account.email domain = false) :
      PasswordReset domain userId id t [⟨.table (.findById userId id), .ok (some account)⟩]
        (.error (Fault.notManaged account.email)) t
  | refused {account : Account} (lookup : t.findById userId id = some account)
      (inside : Address.inDomain account.email domain = true) (failure : Provisioning.Failure) :
      PasswordReset domain userId id t
        [⟨.table (.findById userId id), .ok (some account)⟩,
          ⟨.service (.resetPassword userId), .error failure⟩]
        (.error failure.toFault) t
  | issued {account : Account} (lookup : t.findById userId id = some account)
      (inside : Address.inDomain account.email domain = true) (password : String)
      {turns : List Turn} {result : Except Fault Account} {t' : Table}
      (recording : Recording (serverOf account.inbound password)
        (serverOf account.outbound password)
        (fun inbound outbound => { account with inbound, outbound }) t turns result t') :
      PasswordReset domain userId id t
        (⟨.table (.findById userId id), .ok (some account)⟩
          :: ⟨.service (.resetPassword userId), .ok password⟩ :: turns) result t'

end Course

/-- How a request for a new password goes. -/
theorem passwordReset_of_takes {result : Except Fault Account}
    (takes : Takes (resetAccountPassword domain userId id) t turns result t') :
    Course.PasswordReset domain userId id t turns result t' := by
  rcases takes.of_requireAccount_bind with
    ⟨e, rfl, rfl, rfl⟩ | ⟨lookup, rfl, rfl, rfl⟩ | ⟨account, _, lookup, rfl, next⟩
  · exact .unread e
  · exact .unknown lookup
  · split at next
    · rename_i inside
      rcases next.of_service_bind with ⟨failure, rfl, rfl, rfl⟩ | ⟨password, _, rfl, last⟩
      · exact .refused lookup inside failure
      · obtain ⟨r, -, -, -, rfl⟩ := Table.of_findById_eq_some lookup
        exact .issued lookup inside password (recording_of_takes last)
    · rename_i outside
      rw [Bool.not_eq_true] at outside
      obtain ⟨rfl, rfl, rfl⟩ := Takes.of_fail next
      exact .foreign lookup outside

/-! ## Deletion -/

namespace Course

/-- What becomes of the remote mailbox when an account is deleted. -/
inductive Cleanup (domain userId : String) (account : Account) :
    List Turn → DeletionOutcome → Prop where
  | foreign (outside : Address.inDomain account.email domain = false) :
      Cleanup domain userId account [] .foreignDomain
  | lookupFailed (inside : Address.inDomain account.email domain = true)
      (failure : Provisioning.Failure) :
      Cleanup domain userId account [⟨.service (.get userId), .error failure⟩] .failed
  | absent (inside : Address.inDomain account.email domain = true) :
      Cleanup domain userId account [⟨.service (.get userId), .ok none⟩] .noRemoteMailbox
  | elsewhere (inside : Address.inDomain account.email domain = true) {mailbox : Mailbox}
      (apart : Address.same mailbox.email account.email = false) :
      Cleanup domain userId account [⟨.service (.get userId), .ok (some mailbox)⟩]
        .addressMismatch
  | removed (inside : Address.inDomain account.email domain = true) {mailbox : Mailbox}
      (same : Address.same mailbox.email account.email = true) :
      Cleanup domain userId account
        [⟨.service (.get userId), .ok (some mailbox)⟩, ⟨.service (.delete userId), .ok true⟩]
        .deleted
  | left (inside : Address.inDomain account.email domain = true) {mailbox : Mailbox}
      (same : Address.same mailbox.email account.email = true)
      {answer : Except Provisioning.Failure Bool} (unremoved : answer ≠ .ok true) :
      Cleanup domain userId account
        [⟨.service (.get userId), .ok (some mailbox)⟩, ⟨.service (.delete userId), answer⟩]
        .failed

/-- A request to delete an account. -/
inductive Deletion (domain userId : String) (id : AccountId) (t : Table) :
    List Turn → Except Fault DeletionOutcome → Table → Prop where
  | unread (e : Error) :
      Deletion domain userId id t [⟨.table (.findById userId id), .error e⟩] (.error e.toFault) t
  | unknown (lookup : t.findById userId id = none) :
      Deletion domain userId id t [⟨.table (.findById userId id), .ok none⟩]
        (.error (Fault.accountNotFound id.text)) t
  | refused {account : Account} (lookup : t.findById userId id = some account)
      {turns : List Turn} {outcome : DeletionOutcome}
      (cleanup : Cleanup domain userId account turns outcome) (e : Error) :
      Deletion domain userId id t
        (⟨.table (.findById userId id), .ok (some account)⟩
          :: (turns ++ [⟨.table (.delete userId id), .error e⟩])) (.error e.toFault) t
  | deleted {account : Account} (lookup : t.findById userId id = some account)
      {turns : List Turn} {outcome : DeletionOutcome}
      (cleanup : Cleanup domain userId account turns outcome) :
      Deletion domain userId id t
        (⟨.table (.findById userId id), .ok (some account)⟩
          :: (turns ++ [⟨.table (.delete userId id), .ok ()⟩])) (.ok outcome) (t.delete userId id)

end Course

theorem cleanup_of_takes_deleteMailboxAt {found : Option Mailbox}
    {result : Except Fault DeletionOutcome}
    (inside : Address.inDomain account.email domain = true)
    (takes : Takes (deleteMailboxAt userId account.email found) t turns result t') :
    t' = t ∧ ∃ outcome, result = .ok outcome ∧
      Course.Cleanup domain userId account (⟨.service (.get userId), .ok found⟩ :: turns)
        outcome := by
  cases found with
  | none =>
    obtain ⟨rfl, rfl, rfl⟩ := Takes.of_done takes
    exact ⟨rfl, _, rfl, .absent inside⟩
  | some mailbox =>
    rw [deleteMailboxAt] at takes
    split at takes
    · rename_i same
      obtain ⟨answer, _, rfl, last⟩ := takes.of_tryService_bind
      cases answer with
      | error failure =>
        obtain ⟨rfl, rfl, rfl⟩ := Takes.of_done last
        exact ⟨rfl, _, rfl, .left inside same nofun⟩
      | ok removed =>
        cases removed with
        | false =>
          obtain ⟨rfl, rfl, rfl⟩ := Takes.of_done last
          exact ⟨rfl, _, rfl, .left inside same nofun⟩
        | true =>
          obtain ⟨rfl, rfl, rfl⟩ := Takes.of_done last
          exact ⟨rfl, _, rfl, .removed inside same⟩
    · rename_i apart
      rw [Bool.not_eq_true] at apart
      obtain ⟨rfl, rfl, rfl⟩ := Takes.of_done takes
      exact ⟨rfl, _, rfl, .elsewhere inside apart⟩

theorem cleanup_of_takes {result : Except Fault DeletionOutcome}
    (takes : Takes (reconcileDeletion domain userId account) t turns result t') :
    t' = t ∧ ∃ outcome, result = .ok outcome ∧
      Course.Cleanup domain userId account turns outcome := by
  unfold reconcileDeletion at takes
  split at takes
  · rename_i inside
    obtain ⟨answer, _, rfl, next⟩ := takes.of_tryService_bind
    cases answer with
    | error failure =>
      obtain ⟨rfl, rfl, rfl⟩ := Takes.of_done next
      exact ⟨rfl, _, rfl, .lookupFailed inside failure⟩
    | ok found => exact cleanup_of_takes_deleteMailboxAt inside next
  · rename_i outside
    rw [Bool.not_eq_true] at outside
    obtain ⟨rfl, rfl, rfl⟩ := Takes.of_done takes
    exact ⟨rfl, _, rfl, .foreign outside⟩

/-- How a request to delete an account goes. -/
theorem deletion_of_takes {result : Except Fault DeletionOutcome}
    (takes : Takes (deleteAccount domain userId id) t turns result t') :
    Course.Deletion domain userId id t turns result t' := by
  rcases takes.of_requireAccount_bind with
    ⟨e, rfl, rfl, rfl⟩ | ⟨lookup, rfl, rfl, rfl⟩ | ⟨account, _, lookup, rfl, next⟩
  · exact .unread e
  · exact .unknown lookup
  · rcases next.of_bind with ⟨fault, -, failed⟩ | ⟨outcome, middle, first, second, rfl, left, last⟩
    · obtain ⟨-, outcome, never, -⟩ := cleanup_of_takes failed
      cases never
    · obtain ⟨rfl, outcome, same, cleanup⟩ := cleanup_of_takes left
      cases same
      rcases last.of_table_bind rfl with ⟨e, rfl, rfl, rfl⟩ | ⟨_, rfl, ended⟩
      · exact .refused lookup cleanup e
      · obtain ⟨rfl, rfl, rfl⟩ := Takes.of_done ended
        exact .deleted lookup cleanup

end MailboxKeeper.Engine
