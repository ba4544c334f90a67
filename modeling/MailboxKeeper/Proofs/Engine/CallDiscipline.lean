import MailboxKeeper.Proofs.Engine.Course

/-!
# The discipline of calls

Whatever the collaborators answer, a request that changes something goes in order: one look at the
table, then calls to the service about the user, then encryptions, and at most one write, which is
the last call (`InOrder`). A failure is the last that is heard, but for two: a creation that was
refused is followed by one lookup, and a deletion that the service fails is followed by the
deletion of the row. `CreationCalls`, `DeletionCalls` and `ResetCalls` say so for each request.
-/

namespace MailboxKeeper.Engine

open AccountRequest Store

/-! ## Kinds of calls -/

namespace Call

/-- Does the call look into the table? -/
def isLook : Call → Bool
  | .table statement => statement.isRead
  | _ => false

/-- Does the call write to the table? -/
def isWrite : Call → Bool
  | .table statement => !statement.isRead
  | _ => false

def isEncryption : Call → Bool
  | .encrypt _ => true
  | _ => false

/-- Does the call go to the service, about that user? -/
def isAbout (userId : String) : Call → Bool
  | .service c => c.userId == userId
  | _ => false

def isCreation : Call → Bool
  | .service (.create ..) => true
  | _ => false

def isLookup : Call → Bool
  | .service (.get _) => true
  | _ => false

def isReset : Call → Bool
  | .service (.resetPassword _) => true
  | _ => false

end Call

/-- Was the call answered by a failure? -/
def Turn.failed : Turn → Bool
  | ⟨.table _, .error _⟩ => true
  | ⟨.service _, .error _⟩ => true
  | ⟨.encrypt _, .error _⟩ => true
  | _ => false

/-- The service has shown a mailbox. -/
inductive Turn.Shows : Turn → Mailbox → Prop where
  | made (userId localPart : String) (mailbox : Mailbox) :
      Shows ⟨.service (.create userId localPart), .ok mailbox⟩ mailbox
  | found (userId : String) (mailbox : Mailbox) :
      Shows ⟨.service (.get userId), .ok (some mailbox)⟩ mailbox

/-! ## The order of calls -/

/-- Encryptions, and at most one write after them. -/
inductive Closing : List Turn → Prop where
  | nil : Closing []
  | write {turn : Turn} (writes : turn.call.isWrite = true) : Closing [turn]
  | encryption {turn : Turn} {turns : List Turn} (encrypts : turn.call.isEncryption = true)
      (rest : Closing turns) : Closing (turn :: turns)

/-- One look at the table, then calls to the service about the user, then encryptions, and at most
one write at the end. -/
inductive InOrder (userId : String) : List Turn → Prop where
  | intro (look : Turn) (service closing : List Turn) (looks : look.call.isLook = true)
      (asks : ∀ turn ∈ service, turn.call.isAbout userId = true) (closes : Closing closing) :
      InOrder userId (look :: (service ++ closing))

/-- What follows each call that has failed. -/
def AfterFailure (follows : Turn → List Turn → Prop) (turns : List Turn) : Prop :=
  ∀ before turn after, turns = before ++ turn :: after → turn.failed = true → follows turn after

/-- The look at the table has found that under the requested address. -/
def Looked (userId : String) (turns : List Turn) (found : Option Account) : Prop :=
  ∃ email, turns.head? = some ⟨.table (.findByAddress userId email), .ok found⟩

/-- A reset comes right after the service has shown a mailbox that lacks a password. -/
def IssuesAfter (shown turn : Turn) : Prop :=
  turn.call.isReset = true →
    ∃ mailbox, shown.Shows mailbox ∧ (mailbox.imap.password = none ∨ mailbox.smtp.password = none)

/-- A creation that was refused is followed by one lookup, and any other failure by nothing. -/
def FollowedUp (userId : String) (turn : Turn) (after : List Turn) : Prop :=
  (turn.call.isCreation = false ∧ after = []) ∨
    turn.call.isCreation = true ∧ ∃ answer rest,
      after = ⟨.service (.get userId), answer⟩ :: rest ∧
        ∀ later ∈ rest, later.call.isLookup = false

/-- A failure of the service is followed by the deletion of the row, and any other by nothing. -/
def ClearedUp (userId : String) (id : AccountId) (turn : Turn) (after : List Turn) : Prop :=
  (turn.call.isAbout userId = false ∧ after = []) ∨
    turn.call.isAbout userId = true ∧ ∃ answer, after = [⟨.table (.delete userId id), answer⟩]

/-- The calls of a request for an account. -/
structure CreationCalls (userId : String) (turns : List Turn) : Prop where
  inOrder : InOrder userId turns
  creations : turns.countP (fun turn => turn.call.isCreation) ≤ 1
  lookups : turns.countP (fun turn => turn.call.isLookup) ≤ 1
  resets : turns.countP (fun turn => turn.call.isReset) ≤ 1
  /-- A mailbox is made for a user without a record only. -/
  created : ∀ turn ∈ turns, turn.call.isCreation = true → Looked userId turns none
  reset : turns.IsChain IssuesAfter
  /-- A record that was found is updated, and a new one is saved. -/
  written : ∀ turn ∈ turns, turn.call.isWrite = true →
    ((∃ a, turn.call = .table (.update a)) ↔ ∃ account, Looked userId turns (some account)) ∧
      ((∃ a, turn.call = .table (.save a)) ↔ Looked userId turns none)
  failed : AfterFailure (FollowedUp userId) turns

/-- The calls of a request to delete an account. -/
structure DeletionCalls (userId : String) (id : AccountId) (turns : List Turn) : Prop where
  inOrder : InOrder userId turns
  failed : AfterFailure (ClearedUp userId id) turns

/-- The calls of a request for a new password. -/
structure ResetCalls (userId : String) (turns : List Turn) : Prop where
  inOrder : InOrder userId turns
  failed : AfterFailure (fun _ after => after = []) turns

/-! ## Failures -/

namespace AfterFailure

variable {follows : Turn → List Turn → Prop} {turn : Turn} {turns first second : List Turn}

theorem nil : AfterFailure follows [] := by
  intro before turn after split
  exact absurd split (by simp)

theorem cons (followed : turn.failed = true → follows turn turns)
    (rest : AfterFailure follows turns) : AfterFailure follows (turn :: turns) := by
  intro before other after split
  cases before with
  | nil =>
    cases split
    exact followed
  | cons _ before =>
    cases split
    exact rest before other after rfl

theorem pass (succeeded : turn.failed = false) (rest : AfterFailure follows turns) :
    AfterFailure follows (turn :: turns) := by
  refine cons ?_ rest
  intro failed
  rw [succeeded] at failed
  cases failed

/-- Nothing follows the last call, be it a failure or not. -/
theorem last : AfterFailure (fun _ after => after = []) [turn] := cons (fun _ => rfl) nil

theorem mono {looser : Turn → List Turn → Prop} (calls : AfterFailure follows turns)
    (weaker : ∀ turn ∈ turns, ∀ after, follows turn after → looser turn after) :
    AfterFailure looser turns := by
  intro before turn after split failed
  refine weaker turn ?_ after (calls before turn after split failed)
  rw [split]
  exact List.mem_append_right _ List.mem_cons_self

end AfterFailure

/-! ## Recording -/

section

variable {t t' : Table} {turns first second : List Turn} {domain userId localPart : String}
variable {displayName : String} {account : Account} {mailbox : Mailbox} {found : Option Account}
variable {result : Except Fault Account}

theorem countP_eq_zero {kind : Call → Bool} (others : ∀ turn ∈ turns, kind turn.call = false) :
    turns.countP (fun turn => kind turn.call) = 0 := by
  rw [List.countP_eq_zero]
  intro turn member
  rw [others turn member]
  exact Bool.false_ne_true

/-- Nothing is asked of the service once encryption has begun. -/
theorem Closing.eq_false (closing : Closing turns) (kind : Call → Bool)
    (table : ∀ statement, kind (.table statement) = false)
    (encrypt : ∀ plaintext, kind (.encrypt plaintext) = false) :
    ∀ turn ∈ turns, kind turn.call = false := by
  induction closing with
  | nil => simp
  | @write turn writes =>
    rw [List.forall_mem_singleton]
    revert writes
    cases turn.call with
    | table statement => exact fun _ => table statement
    | encrypt | service => simp [Call.isWrite]
  | @encryption turn turns encrypts rest ih =>
    refine List.forall_mem_cons.2 ⟨?_, ih⟩
    revert encrypts
    cases turn.call with
    | encrypt plaintext => exact fun _ => encrypt plaintext
    | table | service => simp [Call.isEncryption]

theorem Writes.call_eq {a : Account} {answer : Except Error Account} {turn : Turn}
    (writes : Writes a answer turn) :
    turn.call = .table (if a.isSaved then .update a else .save a) := by
  cases writes with
  | update saved => rw [saved]; rfl
  | save unsaved => rw [unsaved]; rfl

theorem Writes.isWrite {a : Account} {answer : Except Error Account} {turn : Turn}
    (writes : Writes a answer turn) : turn.call.isWrite = true := by
  cases writes with
  | update | save => rfl

namespace Course.Recording

variable {imap smtp : MailServer} {renewed : Endpoint → Endpoint → Account}

theorem closing (recording : Recording imap smtp renewed t turns result t') : Closing turns := by
  cases recording with
  | inboundFailed e => exact .encryption rfl .nil
  | outboundFailed inbound e => exact .encryption rfl (.encryption rfl .nil)
  | refused inbound outbound e writes =>
    exact .encryption rfl (.encryption rfl (.write writes.isWrite))
  | written inbound outbound writes wrote =>
    exact .encryption rfl (.encryption rfl (.write writes.isWrite))

theorem failed (recording : Recording imap smtp renewed t turns result t') :
    AfterFailure (fun _ after => after = []) turns := by
  cases recording with
  | inboundFailed e => exact .last
  | outboundFailed inbound e => exact .pass rfl .last
  | refused inbound outbound e writes => exact .pass rfl (.pass rfl .last)
  | written inbound outbound writes wrote => exact .pass rfl (.pass rfl .last)

/-- What is written is the renewed account. -/
theorem call_eq (recording : Recording imap smtp renewed t turns result t') :
    ∀ turn ∈ turns, turn.call.isWrite = true → ∃ inbound outbound,
      turn.call = .table (if (renewed inbound outbound).isSaved then
        .update (renewed inbound outbound) else .save (renewed inbound outbound)) := by
  cases recording with
  | inboundFailed e => simp [Call.isWrite]
  | outboundFailed inbound e => simp [Call.isWrite]
  | refused inbound outbound e writes =>
    refine List.forall_mem_cons.2 ⟨nofun, List.forall_mem_cons.2 ⟨nofun, ?_⟩⟩
    exact List.forall_mem_singleton.2 fun _ => ⟨_, _, writes.call_eq⟩
  | written inbound outbound writes wrote =>
    refine List.forall_mem_cons.2 ⟨nofun, List.forall_mem_cons.2 ⟨nofun, ?_⟩⟩
    exact List.forall_mem_singleton.2 fun _ => ⟨_, _, writes.call_eq⟩

end Course.Recording

/-! ## A request for an account -/

theorem isChain_issuesAfter {shown : Turn} (unreset : ∀ turn ∈ turns, turn.call.isReset = false) :
    (shown :: turns).IsChain IssuesAfter := by
  induction turns generalizing shown with
  | nil => exact .singleton shown
  | cons turn turns ih =>
    refine .cons_cons ?_ (ih fun other member => unreset other (List.mem_cons_of_mem _ member))
    intro resets
    rw [unreset turn List.mem_cons_self] at resets
    cases resets

theorem lacks_of_hasCredentials (lacks : mailbox.hasCredentials = false) :
    mailbox.imap.password = none ∨ mailbox.smtp.password = none := by
  rw [Mailbox.hasCredentials, Bool.and_eq_false_iff] at lacks
  simpa using lacks

/-- The calls to the service by which a request for an account comes to a mailbox or to none. -/
structure Opening (userId : String) (found : Option Account) (turns : List Turn) : Prop where
  about : ∀ turn ∈ turns, turn.call.isAbout userId = true
  creations : turns.countP (fun turn => turn.call.isCreation) ≤ 1
  lookups : turns.countP (fun turn => turn.call.isLookup) ≤ 1
  unreset : ∀ turn ∈ turns, turn.call.isReset = false
  created : ∀ turn ∈ turns, turn.call.isCreation = true → found = none

theorem Course.Approach.opening
    (approach : Approach domain userId localPart found turns mailbox) :
    Opening userId found turns := by
  cases approach with
  | found | made | recovered =>
    constructor <;>
      simp [Call.isAbout, Call.isCreation, Call.isLookup, Call.isReset, Provisioning.Call.userId]

theorem Course.Retreat.opening {fault : Fault}
    (retreat : Retreat domain userId localPart found turns fault) :
    Opening userId found turns := by
  cases retreat with
  | lookupFailed | elsewhere | missing | refusedLookupFailed | refusedElsewhere | refusedMissing =>
    constructor <;>
      simp [Call.isAbout, Call.isCreation, Call.isLookup, Call.isReset, Provisioning.Call.userId]

/-- The calls by which a mailbox that is at hand is recorded: at most one reset, if it lacks a
password, the encryptions and the write. -/
structure Ending (account : Account) (turns : List Turn) : Prop where
  parts : ∃ issue closing, turns = issue ++ closing ∧ Closing closing ∧
    (issue = [] ∨ ∃ answer, issue = [⟨.service (.resetPassword account.userId), answer⟩])
  written : ∀ turn ∈ turns, turn.call.isWrite = true →
    ∃ a, turn.call = .table (if account.isSaved then .update a else .save a)
  failed : AfterFailure (fun _ after => after = []) turns

theorem Course.Persistence.ending
    (persistence : Persistence account mailbox displayName t turns result t') :
    Ending account turns := by
  cases persistence with
  | unissued issue =>
    cases issue with
    | refused lacks failure =>
      exact ⟨⟨[_], [], rfl, .nil, .inr ⟨_, rfl⟩⟩, by simp [Call.isWrite], .last⟩
  | @recorded _ second _ _ _ issue recording =>
    have kept : ∀ turn ∈ second, turn.call.isWrite = true →
        ∃ a, turn.call = .table (if account.isSaved then .update a else .save a) := by
      intro turn member writes
      obtain ⟨inbound, outbound, same⟩ := recording.call_eq turn member writes
      exact ⟨_, same⟩
    cases issue with
    | whole has => exact ⟨⟨[], _, rfl, recording.closing, .inl rfl⟩, kept, recording.failed⟩
    | issued lacks password =>
      refine ⟨⟨[_], _, rfl, recording.closing, .inr ⟨_, rfl⟩⟩, ?_, .pass rfl recording.failed⟩
      exact List.forall_mem_cons.2 ⟨nofun, kept⟩

/-- A reset is for the mailbox that was just shown. -/
theorem Course.Persistence.isChain {shown : Turn} (shows : shown.Shows mailbox)
    (persistence : Persistence account mailbox displayName t turns result t') :
    (shown :: turns).IsChain IssuesAfter := by
  cases persistence with
  | unissued issue =>
    cases issue with
    | refused lacks failure =>
      exact .cons_cons (fun _ => ⟨mailbox, shows, lacks_of_hasCredentials lacks⟩) (.singleton _)
  | recorded issue recording =>
    have unreset := recording.closing.eq_false Call.isReset (fun _ => rfl) fun _ => rfl
    cases issue with
    | whole has => exact isChain_issuesAfter unreset
    | issued lacks password =>
      exact .cons_cons (fun _ => ⟨mailbox, shows, lacks_of_hasCredentials lacks⟩)
        (isChain_issuesAfter unreset)

namespace Ending

theorem nil (account : Account) : Ending account [] :=
  ⟨⟨[], [], rfl, .nil, .inl rfl⟩, List.forall_mem_nil _, .nil⟩

theorem eq_false (ending : Ending account turns) (kind : Call → Bool)
    (table : ∀ statement, kind (.table statement) = false)
    (encrypt : ∀ plaintext, kind (.encrypt plaintext) = false)
    (reset : ∀ userId, kind (.service (.resetPassword userId)) = false) :
    ∀ turn ∈ turns, kind turn.call = false := by
  obtain ⟨_, closing, rfl, closes, rfl | ⟨answer, rfl⟩⟩ := ending.parts
  · exact closes.eq_false kind table encrypt
  · exact List.forall_mem_cons.2 ⟨reset _, closes.eq_false kind table encrypt⟩

theorem isCreation_eq_false (ending : Ending account turns) :
    ∀ turn ∈ turns, turn.call.isCreation = false :=
  ending.eq_false Call.isCreation (fun _ => rfl) (fun _ => rfl) fun _ => rfl

theorem isLookup_eq_false (ending : Ending account turns) :
    ∀ turn ∈ turns, turn.call.isLookup = false :=
  ending.eq_false Call.isLookup (fun _ => rfl) (fun _ => rfl) fun _ => rfl

theorem countP_isReset (ending : Ending account turns) :
    turns.countP (fun turn => turn.call.isReset) ≤ 1 := by
  obtain ⟨_, closing, rfl, closes, issue⟩ := ending.parts
  rw [List.countP_append,
    countP_eq_zero (closes.eq_false Call.isReset (fun _ => rfl) fun _ => rfl)]
  rcases issue with rfl | ⟨answer, rfl⟩
  · exact Nat.zero_le 1
  · exact Nat.le_refl 1

theorem followedUp (ending : Ending account turns) : AfterFailure (FollowedUp userId) turns := by
  refine ending.failed.mono ?_
  intro turn member after nothing
  exact .inl ⟨ending.isCreation_eq_false turn member, nothing⟩

theorem inOrder {look : Turn} (ending : Ending account second) (looks : look.call.isLook = true)
    (about : ∀ turn ∈ first, turn.call.isAbout account.userId = true) :
    InOrder account.userId (look :: (first ++ second)) := by
  obtain ⟨issue, closing, rfl, closes, issues⟩ := ending.parts
  rw [← List.append_assoc]
  refine .intro look _ closing looks ?_ closes
  refine List.forall_mem_append.2 ⟨about, ?_⟩
  rcases issues with rfl | ⟨answer, rfl⟩
  · exact List.forall_mem_nil _
  · simp [Call.isAbout, Provisioning.Call.userId]

end Ending

theorem Course.Approach.followedUp
    (approach : Approach domain userId localPart found first mailbox)
    (ending : Ending account second) : AfterFailure (FollowedUp userId) (first ++ second) := by
  cases approach with
  | found | made => exact .pass rfl ending.followedUp
  | recovered refusal same =>
    refine .cons ?_ (.pass rfl ending.followedUp)
    intro _
    exact .inr ⟨rfl, _, _, rfl, ending.isLookup_eq_false⟩

theorem Course.Retreat.followedUp {fault : Fault}
    (retreat : Retreat domain userId localPart found turns fault) :
    AfterFailure (FollowedUp userId) turns := by
  cases retreat with
  | lookupFailed => exact .cons (fun _ => .inl ⟨rfl, rfl⟩) .nil
  | elsewhere | missing => exact .pass rfl .nil
  | refusedLookupFailed =>
    exact .cons (fun _ => .inr ⟨rfl, _, _, rfl, List.forall_mem_nil _⟩)
      (.cons (fun _ => .inl ⟨rfl, rfl⟩) .nil)
  | refusedElsewhere | refusedMissing =>
    exact .cons (fun _ => .inr ⟨rfl, _, _, rfl, List.forall_mem_nil _⟩) (.pass rfl .nil)

theorem Course.Approach.isChain {look : Turn}
    (approach : Approach domain userId localPart found first mailbox)
    (persistence : Persistence account mailbox displayName t second result t') :
    (look :: (first ++ second)).IsChain IssuesAfter := by
  cases approach with
  | found => exact .cons_cons nofun (persistence.isChain (.found userId mailbox))
  | made => exact .cons_cons nofun (persistence.isChain (.made userId localPart mailbox))
  | recovered refusal same =>
    exact .cons_cons nofun (.cons_cons nofun (persistence.isChain (.found userId mailbox)))

theorem looked_iff {email : String} {looked : Option Account} :
    Looked userId (⟨.table (.findByAddress userId email), .ok found⟩ :: turns) looked
      ↔ found = looked := by
  constructor
  · rintro ⟨_, same⟩
    cases same
    rfl
  · rintro rfl
    exact ⟨email, rfl⟩

theorem mem_of_mem_table_cons {statement : Statement} {said : statement.Answer}
    {c : Provisioning.Call} {answer : c.Answer}
    (member : (⟨.service c, answer⟩ : Turn) ∈ ⟨.table statement, said⟩ :: turns) :
    (⟨.service c, answer⟩ : Turn) ∈ turns := by
  rcases List.mem_cons.1 member with same | member
  · cases same
  · exact member

/-- Of the one creation that is asked for, one answer is heard. -/
theorem eq_of_refused {answer : Except Provisioning.Failure Mailbox}
    {refusal : Provisioning.Failure} (later : ∀ turn ∈ turns, turn.call.isCreation = false)
    (refused : (⟨.service (.create userId localPart), .error refusal⟩ : Turn)
      ∈ ⟨.service (.create userId localPart), answer⟩ :: turns) :
    answer = .error refusal := by
  rcases List.mem_cons.1 refused with same | member
  · cases same
    rfl
  · cases later _ member

/-- The calls of a request are put together from its parts. -/
theorem CreationCalls.of_parts {email : String} (opening : Opening userId found first)
    (ending : Ending account second) (owner : account.userId = userId)
    (saved : account.isSaved = found.isSome)
    (reset : (⟨.table (.findByAddress userId email), .ok found⟩ :: (first ++ second)).IsChain
      IssuesAfter)
    (failed : AfterFailure (FollowedUp userId) (first ++ second)) :
    CreationCalls userId
      (⟨.table (.findByAddress userId email), .ok found⟩ :: (first ++ second)) where
  inOrder := by
    subst owner
    exact ending.inOrder rfl opening.about
  creations := by
    rw [List.countP_cons, List.countP_append, countP_eq_zero ending.isCreation_eq_false]
    exact opening.creations
  lookups := by
    rw [List.countP_cons, List.countP_append, countP_eq_zero ending.isLookup_eq_false]
    exact opening.lookups
  resets := by
    rw [List.countP_cons, List.countP_append, countP_eq_zero opening.unreset, Nat.zero_add]
    exact ending.countP_isReset
  created := by
    simp only [looked_iff]
    refine List.forall_mem_cons.2 ⟨nofun, List.forall_mem_append.2 ⟨opening.created, ?_⟩⟩
    intro turn member creates
    rw [ending.isCreation_eq_false turn member] at creates
    cases creates
  reset := reset
  written := by
    simp only [looked_iff]
    refine List.forall_mem_cons.2 ⟨nofun, List.forall_mem_append.2 ⟨?_, ?_⟩⟩
    · intro turn member writes
      -- What is about the user is a call to the service, and no such call writes.
      have about := opening.about turn member
      revert writes about
      cases turn.call <;> simp [Call.isWrite, Call.isAbout]
    · intro turn member writes
      obtain ⟨a, same⟩ := ending.written turn member writes
      rw [same, saved]
      cases found with
      | none => simp
      | some record => simp
  failed := .pass rfl failed

/-- The calls of a valid request for an account. -/
theorem Course.Creation.calls
    (creation : Creation domain userId localPart displayName t turns result t') :
    CreationCalls userId turns := by
  cases creation with
  | unread e =>
    constructor
    · exact .intro _ [] [] rfl (List.forall_mem_nil _) .nil
    · exact Nat.zero_le 1
    · exact Nat.zero_le 1
    · exact Nat.zero_le 1
    · simp [Call.isCreation]
    · exact .singleton _
    · simp [Call.isWrite, Statement.isRead]
    · exact .cons (fun _ => .inl ⟨rfl, rfl⟩) .nil
  | @retreated _ turns _ lookup retreat =>
    -- Nothing is recorded after a retreat, so any address will do for the record.
    obtain ⟨owner, saved⟩ := record_of_lookup "" lookup
    rw [← List.append_nil turns]
    refine .of_parts retreat.opening (.nil _) owner saved ?_ ?_
    · rw [List.append_nil]
      exact isChain_issuesAfter retreat.opening.unreset
    · rw [List.append_nil]
      exact retreat.followedUp
  | @approached found first second mailbox _ _ lookup approach persistence =>
    obtain ⟨owner, saved⟩ := record_of_lookup mailbox.email lookup
    exact .of_parts approach.opening persistence.ending owner saved
      (approach.isChain persistence) (approach.followedUp persistence.ending)

/-! ## Deletion and new passwords -/

variable {id : AccountId} {outcome : DeletionOutcome}

theorem Course.Cleanup.isAbout (cleanup : Cleanup domain userId account turns outcome) :
    ∀ turn ∈ turns, turn.call.isAbout userId = true := by
  cases cleanup with
  | foreign | lookupFailed | absent | elsewhere | removed | left =>
    simp [Call.isAbout, Provisioning.Call.userId]

/-- Whatever the service answers, the row is deleted next. -/
theorem Course.Cleanup.clearedUp {answer : Except Error Unit}
    (cleanup : Cleanup domain userId account turns outcome) :
    AfterFailure (ClearedUp userId id) (turns ++ [⟨.table (.delete userId id), answer⟩]) := by
  have deletion : AfterFailure (ClearedUp userId id) [⟨.table (.delete userId id), answer⟩] :=
    .cons (fun _ => .inl ⟨rfl, rfl⟩) .nil
  have remote : Call.isAbout userId (.service (.get userId)) = true := beq_self_eq_true userId
  have removal : Call.isAbout userId (.service (.delete userId)) = true := beq_self_eq_true userId
  cases cleanup with
  | foreign outside => exact deletion
  | lookupFailed inside failure => exact .cons (fun _ => .inr ⟨remote, _, rfl⟩) deletion
  | absent inside => exact .pass rfl deletion
  | elsewhere inside apart => exact .pass rfl deletion
  | removed inside same => exact .pass rfl (.pass rfl deletion)
  | left inside same unremoved =>
    exact .pass rfl (.cons (fun _ => .inr ⟨removal, _, rfl⟩) deletion)

theorem Course.Deletion.calls {result : Except Fault DeletionOutcome}
    (deletion : Deletion domain userId id t turns result t') :
    DeletionCalls userId id turns := by
  cases deletion with
  | unread e =>
    exact ⟨.intro _ [] [] rfl (List.forall_mem_nil _) .nil,
      .cons (fun _ => .inl ⟨rfl, rfl⟩) .nil⟩
  | unknown lookup =>
    exact ⟨.intro _ [] [] rfl (List.forall_mem_nil _) .nil, .pass rfl .nil⟩
  | refused lookup cleanup e =>
    exact ⟨.intro _ _ _ rfl cleanup.isAbout (.write rfl), .pass rfl cleanup.clearedUp⟩
  | deleted lookup cleanup =>
    exact ⟨.intro _ _ _ rfl cleanup.isAbout (.write rfl), .pass rfl cleanup.clearedUp⟩

theorem Course.PasswordReset.calls
    (reset : PasswordReset domain userId id t turns result t') : ResetCalls userId turns := by
  have about {answer} : ∀ turn ∈ [Turn.mk (.service (.resetPassword userId)) answer],
      turn.call.isAbout userId = true :=
    List.forall_mem_singleton.2 (beq_self_eq_true userId)
  cases reset with
  | unread e =>
    exact ⟨.intro _ [] [] rfl (List.forall_mem_nil _) .nil, .last⟩
  | unknown lookup => exact ⟨.intro _ [] [] rfl (List.forall_mem_nil _) .nil, .last⟩
  | foreign lookup outside => exact ⟨.intro _ [] [] rfl (List.forall_mem_nil _) .nil, .last⟩
  | refused lookup inside failure =>
    exact ⟨.intro _ [_] [] rfl about .nil, .pass rfl .last⟩
  | issued lookup inside password recording =>
    exact ⟨.intro _ [_] _ rfl about recording.closing, .pass rfl (.pass rfl recording.failed)⟩

end

/-! ## Among collaborators -/

variable {σ : Type}

/-- Whatever the table holds and whatever the collaborators answer, a request keeps to the
discipline of its calls, and an invalid request for an account calls nobody. -/
theorem calls_disciplined (k : Collaborators σ) (domain userId : String) (table : Table)
    (others : σ) :
    (∀ localPart displayName,
      (createOrUpdate domain userId localPart displayName).Ends k.answer ⟨table, others, []⟩
        fun _ s' =>
          if violations userId localPart displayName = [] then CreationCalls userId s'.transcript
          else s'.transcript = []) ∧
      (∀ id, (deleteAccount domain userId id).Ends k.answer ⟨table, others, []⟩ fun _ s' =>
        DeletionCalls userId id s'.transcript) ∧
      ∀ id, (resetAccountPassword domain userId id).Ends k.answer ⟨table, others, []⟩ fun _ s' =>
        ResetCalls userId s'.transcript := by
  refine ⟨?_, ?_, ?_⟩
  · intro localPart displayName
    refine ends_of_takes_start ?_
    intro result s' takes
    split
    · rename_i valid
      exact (creation_of_takes valid takes).calls
    · rename_i invalid
      exact (of_takes_of_violations invalid takes).1
  · intro id
    exact ends_of_takes_start fun result s' takes => (deletion_of_takes takes).calls
  · intro id
    exact ends_of_takes_start fun result s' takes => (passwordReset_of_takes takes).calls

end MailboxKeeper.Engine
