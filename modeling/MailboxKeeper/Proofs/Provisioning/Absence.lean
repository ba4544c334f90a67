import MailboxKeeper.Proofs.Engine.Faults
import MailboxKeeper.Proofs.Engine.Forecast
import MailboxKeeper.Proofs.Provisioning.Wire

/-!
# A mailbox is absent when the service says so

A mailbox that is taken for absent is lost to its user: the engine reports that there is none, or
removes the account that points at it. So a lookup finds nothing only where the service has
answered 404, and whatever else comes back that does not show a mailbox counts as a failure
(`absence_only_by_404`). The courses of requests say what becomes of the answer to their lookup;
what went over the wire says which reply was behind it.
-/

namespace MailboxKeeper.Engine

open AccountRequest Provisioning Store

variable {t t' : Table} {turns : List Turn} {domain userId localPart displayName other : String}
variable {fault : Fault} {id : AccountId} {mailbox : Mailbox}
variable {answer : Except Failure (Option Mailbox)}

/-! ## What becomes of a lookup -/

/-- How a request for an account ends that has found no mailbox: the record has none to it, or the
service has refused to make one for a reason of its own. -/
inductive EndsMissing (userId localPart : String) (turns : List Turn) : Fault → Prop where
  | recorded {address : String} {account : Account}
      (found : ⟨.table (.findByAddress userId address), .ok (some account)⟩ ∈ turns) :
      EndsMissing userId localPart turns (Fault.missingMailbox account.email)
  | refused {refusal : Failure}
      (refused : ⟨.service (.create userId localPart), .error refusal⟩ ∈ turns) :
      EndsMissing userId localPart turns refusal.toFault

/-- How a request for an account ends whose lookup has failed. -/
inductive EndsUnanswered (userId localPart : String) (turns : List Turn) (failure : Failure) :
    Fault → Prop where
  | recorded : EndsUnanswered userId localPart turns failure failure.toFault
  | refused {refusal : Failure}
      (refused : ⟨.service (.create userId localPart), .error refusal⟩ ∈ turns) :
      EndsUnanswered userId localPart turns failure (failure.toFault.withCause refusal.toFault)

/-- The table that a request leaves and what it ends with, after a lookup with that answer. -/
def HeedsLookup (userId localPart : String) (t : Table) (turns : List Turn)
    (result : Except Fault Account) (t' : Table) : Except Failure (Option Mailbox) → Prop
  | .ok none => t' = t ∧ ∃ fault, result = .error fault ∧ EndsMissing userId localPart turns fault
  | .ok (some _) => True
  | .error failure =>
    t' = t ∧ ∃ fault, result = .error fault ∧ EndsUnanswered userId localPart turns failure fault

/-- The same for a request to delete an account. Its row goes in any case, unless the table
fails. -/
def DeletesAfter (userId : String) (id : AccountId) (turns : List Turn)
    (result : Except Fault DeletionOutcome) (outcome : DeletionOutcome) : Prop :=
  result = .ok outcome ∨
    ∃ e : Store.Error, (⟨.table (.delete userId id), .error e⟩ : Turn) ∈ turns ∧
      result = .error e.toFault

namespace Course

theorem Approach.answer_eq {found : Option Account}
    (approach : Approach domain userId localPart found turns mailbox)
    (heard : (⟨.service (.get other), answer⟩ : Turn) ∈ turns) : answer = .ok (some mailbox) := by
  cases approach with
  | found =>
    cases List.mem_singleton.1 heard
    rfl
  | made => cases List.mem_singleton.1 heard
  | recovered =>
    rcases List.mem_cons.1 heard with same | heard
    · cases same
    · cases List.mem_singleton.1 heard
      rfl

/-- A retreat goes by the answer to its lookup. -/
theorem Retreat.heeds {found : Option Account} {address : String}
    (retreat : Retreat domain userId localPart found turns fault)
    (heard : (⟨.service (.get other), answer⟩ : Turn) ∈ turns) :
    HeedsLookup userId localPart t
      (⟨.table (.findByAddress userId address), .ok found⟩ :: turns) (.error fault) t answer := by
  cases retreat with
  | lookupFailed account failure =>
    cases List.mem_singleton.1 heard
    exact ⟨rfl, _, rfl, .recorded⟩
  | elsewhere =>
    cases List.mem_singleton.1 heard
    trivial
  | missing account =>
    cases List.mem_singleton.1 heard
    exact ⟨rfl, _, rfl, .recorded List.mem_cons_self⟩
  | refusedLookupFailed refusal failure =>
    rcases List.mem_cons.1 heard with same | heard
    · cases same
    · cases List.mem_singleton.1 heard
      exact ⟨rfl, _, rfl, .refused (List.mem_cons_of_mem _ List.mem_cons_self)⟩
  | refusedElsewhere =>
    rcases List.mem_cons.1 heard with same | heard
    · cases same
    · cases List.mem_singleton.1 heard
      trivial
  | refusedMissing refusal =>
    rcases List.mem_cons.1 heard with same | heard
    · cases same
    · cases List.mem_singleton.1 heard
      exact ⟨rfl, _, rfl, .refused (List.mem_cons_of_mem _ List.mem_cons_self)⟩

theorem Creation.heeds {result : Except Fault Account}
    (creation : Creation domain userId localPart displayName t turns result t')
    (heard : (⟨.service (.get other), answer⟩ : Turn) ∈ turns) :
    other = userId ∧ HeedsLookup userId localPart t turns result t' answer := by
  cases creation with
  | unread => cases List.mem_singleton.1 heard
  | retreated lookup retreat =>
    have later := mem_of_mem_table_cons heard
    exact ⟨eq_of_beq (retreat.opening.about _ later), retreat.heeds later⟩
  | approached lookup approach persistence =>
    rcases List.mem_append.1 (mem_of_mem_table_cons heard) with first | second
    · rw [approach.answer_eq first]
      exact ⟨eq_of_beq (approach.opening.about _ first), trivial⟩
    · cases persistence.ending.isLookup_eq_false _ second

end Course

theorem Turn.ReportedAs.kind_ne_inconsistency {turn : Turn} (reported : turn.ReportedAs fault) :
    fault.kind ≠ .inconsistency := by
  cases reported with
  | table statement e => cases e <;> nofun
  | service | encrypt => nofun

/-- Local and remote state are found to disagree only after a lookup that has found nothing. -/
theorem Course.Creation.missing
    (creation : Creation domain userId localPart displayName t turns (.error fault) t')
    (disagree : fault.kind = .inconsistency) :
    (⟨.service (.get userId), .ok none⟩ : Turn) ∈ turns := by
  cases creation with
  | unread e =>
    exact absurd disagree (Turn.ReportedAs.table (.findById userId ⟨0⟩) e).kind_ne_inconsistency
  | retreated lookup retreat =>
    cases retreat with
    | missing => exact List.mem_cons_of_mem _ (List.mem_singleton_self _)
    | refusedMissing refusal => cases disagree
    | lookupFailed | elsewhere | refusedLookupFailed | refusedElsewhere => cases disagree
  | approached lookup approach persistence =>
    obtain ⟨turn, -, reported⟩ := persistence.last_fault
    exact absurd disagree reported.kind_ne_inconsistency

theorem Course.Cleanup.outcome_of_lookup {account : Account} {outcome : DeletionOutcome}
    (cleanup : Cleanup domain userId account turns outcome)
    (heard : (⟨.service (.get other), answer⟩ : Turn) ∈ turns) :
    (answer = .ok none → outcome = .noRemoteMailbox) ∧
      ∀ failure, answer = .error failure → outcome = .failed := by
  cases cleanup with
  | foreign => cases heard
  | lookupFailed inside failure =>
    cases List.mem_singleton.1 heard
    exact ⟨nofun, fun _ _ => rfl⟩
  | absent =>
    cases List.mem_singleton.1 heard
    exact ⟨fun _ => rfl, fun _ => nofun⟩
  | elsewhere =>
    cases List.mem_singleton.1 heard
    exact ⟨nofun, fun _ => nofun⟩
  | removed | left =>
    rcases List.mem_cons.1 heard with same | heard
    · cases same
      exact ⟨nofun, fun _ => nofun⟩
    · cases List.mem_singleton.1 heard

theorem mem_of_mem_append_table {statement : Statement} {said : statement.Answer}
    {c : Provisioning.Call} {answer : c.Answer}
    (member : (⟨.service c, answer⟩ : Turn) ∈ turns ++ [⟨.table statement, said⟩]) :
    (⟨.service c, answer⟩ : Turn) ∈ turns := by
  refine (List.mem_append.1 member).resolve_right fun last => ?_
  cases List.mem_singleton.1 last

theorem Course.Deletion.heeds {result : Except Fault DeletionOutcome}
    (deletion : Deletion domain userId id t turns result t')
    (heard : (⟨.service (.get other), answer⟩ : Turn) ∈ turns) :
    other = userId ∧
      (answer = .ok none → DeletesAfter userId id turns result .noRemoteMailbox) ∧
      ∀ failure, answer = .error failure → DeletesAfter userId id turns result .failed := by
  cases deletion with
  | unread | unknown => cases List.mem_singleton.1 heard
  | @refused account _ first _ cleanup e =>
    -- The row could not be removed, whatever the lookup has found.
    have asked := mem_of_mem_append_table (mem_of_mem_table_cons heard)
    have refused : ∀ outcome, DeletesAfter userId id
        (⟨.table (.findById userId id), .ok (some account)⟩
          :: (first ++ [⟨.table (.delete userId id), .error e⟩])) (.error e.toFault) outcome :=
      fun _ => .inr
        ⟨e, List.mem_cons_of_mem _ (List.mem_append_right _ (List.mem_singleton_self _)), rfl⟩
    exact ⟨eq_of_beq (cleanup.isAbout _ asked), fun _ => refused _, fun _ _ => refused _⟩
  | deleted lookup cleanup =>
    have asked := mem_of_mem_append_table (mem_of_mem_table_cons heard)
    obtain ⟨missing, failed⟩ := cleanup.outcome_of_lookup asked
    exact ⟨eq_of_beq (cleanup.isAbout _ asked), fun nothing => .inl (congrArg _ (missing nothing)),
      fun failure unanswered => .inl (congrArg _ (failed failure unanswered))⟩

theorem Course.Deletion.missing
    (deletion : Deletion domain userId id t turns (.ok .noRemoteMailbox) t') :
    (⟨.service (.get userId), .ok none⟩ : Turn) ∈ turns := by
  cases deletion with
  | deleted lookup cleanup =>
    cases cleanup with
    | absent => exact List.mem_cons_of_mem _ List.mem_cons_self

/-! ## What is behind it -/

section Wire

variable {config : Config} {wire : Wire}

/-- A lookup of the user's mailbox has gone over the wire, and the reply to it is of that kind. -/
def LookedUp (config : Config) (userId : String) (wire : Wire) (kind : Http.Reply → Prop) : Prop :=
  ∃ r reply, (r, reply) ∈ wire ∧ IsLookup config userId r ∧ kind reply

theorem Tells.lookedUp_absent (tells : Tells config turns wire)
    (heard : (⟨.service (.get userId), .ok none⟩ : Turn) ∈ turns) :
    LookedUp config userId wire Absent := by
  rcases tells.told userId (.ok none) heard with ⟨r, reply, sent, looks, reads⟩ | ⟨_, failed⟩
  · exact ⟨r, reply, sent, looks, reads.absent.1 rfl⟩
  · cases failed

theorem Tells.of_absent (tells : Tells config turns wire)
    (missing : LookedUp config userId wire Absent) :
    ∃ other, (⟨.service (.get other), .ok none⟩ : Turn) ∈ turns := by
  obtain ⟨r, reply, sent, ⟨url, -, rfl⟩, absent⟩ := missing
  obtain ⟨other, answer, heard, reads⟩ := tells.heeded _ reply sent rfl
  rw [reads.absent.2 absent] at heard
  exact ⟨other, heard⟩

theorem Tells.of_unusable (tells : Tells config turns wire)
    (garbled : LookedUp config userId wire Unusable) :
    ∃ other failure, (⟨.service (.get other), .error failure⟩ : Turn) ∈ turns := by
  obtain ⟨r, reply, sent, ⟨url, -, rfl⟩, unusable⟩ := garbled
  obtain ⟨other, answer, heard, reads⟩ := tells.heeded _ reply sent rfl
  obtain ⟨failure, failed⟩ := reads.failed.2 unusable
  rw [failed] at heard
  exact ⟨other, failure, heard⟩

end Wire

/-! ## Operations over the wire -/

/-- What a status rests on. -/
structure StatusRests (config : Config) (userId : String) (wire : Wire)
    (result : Except Fault Resolution) : Prop where
  missing : result = .ok .noExistingAccount ↔ LookedUp config userId wire Absent
  failed : LookedUp config userId wire Unusable →
    ∃ failure : Failure, result = .error failure.toFault

/-- What the end of a request for an account rests on. Where the lookup has found nothing, the
request goes on with a branch of its own, and it ends there. -/
structure CreationRests (config : Config) (userId localPart : String) (t : Table)
    (turns : List Turn) (wire : Wire) (result : Except Fault Account) (t' : Table) : Prop where
  branch : (⟨.service (.get userId), .ok none⟩ : Turn) ∈ turns ↔
    LookedUp config userId wire Absent
  missing : LookedUp config userId wire Absent →
    t' = t ∧ ∃ fault, result = .error fault ∧ EndsMissing userId localPart turns fault
  disagree : ∀ fault, result = .error fault → fault.kind = .inconsistency →
    LookedUp config userId wire Absent
  failed : LookedUp config userId wire Unusable → ∃ failure,
    (⟨.service (.get userId), .error failure⟩ : Turn) ∈ turns ∧ t' = t ∧ ∃ fault,
      result = .error fault ∧ EndsUnanswered userId localPart turns failure fault

/-- What the end of a request to delete an account rests on. -/
structure DeletionRests (config : Config) (userId : String) (id : AccountId) (turns : List Turn)
    (wire : Wire) (result : Except Fault DeletionOutcome) : Prop where
  only : result = .ok .noRemoteMailbox → LookedUp config userId wire Absent
  missing : LookedUp config userId wire Absent →
    DeletesAfter userId id turns result .noRemoteMailbox
  failed : LookedUp config userId wire Unusable → DeletesAfter userId id turns result .failed

section Rests

variable {config : Config} {wire : Wire} {expected : String} {found : Option Mailbox}

theorem ofMailbox_eq_noExistingAccount_iff :
    Resolution.ofMailbox expected found = .noExistingAccount ↔ found = none := by
  cases found with
  | none => exact iff_of_true rfl rfl
  | some mailbox =>
    refine iff_of_false ?_ nofun
    rcases ofMailbox_some_cases expected mailbox with ⟨-, same⟩ | ⟨-, same⟩ <;>
      rw [same] <;> exact nofun

theorem statusRests_of_takes {result : Except Fault Resolution}
    (takes : Takes (resolve domain userId localPart) t turns result t')
    (tells : Tells config turns wire) : StatusRests config userId wire result := by
  obtain ⟨-, ⟨failure, rfl, rfl⟩ | ⟨found, rfl, rfl⟩⟩ := takes.of_resolve
  · refine ⟨iff_of_false nofun ?_, fun _ => ⟨failure, rfl⟩⟩
    intro missing
    obtain ⟨other, heard⟩ := tells.of_absent missing
    cases List.mem_singleton.1 heard
  · refine ⟨?_, ?_⟩
    · rw [Except.ok.injEq, ofMailbox_eq_noExistingAccount_iff]
      constructor
      · rintro rfl
        exact tells.lookedUp_absent (List.mem_singleton_self _)
      · intro missing
        obtain ⟨other, heard⟩ := tells.of_absent missing
        cases List.mem_singleton.1 heard
        rfl
    · intro garbled
      obtain ⟨other, failure, heard⟩ := tells.of_unusable garbled
      cases List.mem_singleton.1 heard

theorem statusRests_of_takes_checked {result : Except Fault Resolution}
    (takes : Takes (resolveChecked domain userId localPart) t turns result t')
    (tells : Tells config turns wire) : StatusRests config userId wire result := by
  unfold resolveChecked at takes
  split at takes
  · exact statusRests_of_takes takes tells
  · obtain ⟨rfl, rfl, -⟩ := Takes.of_fail takes
    refine ⟨iff_of_false nofun ?_, ?_⟩
    · intro missing
      obtain ⟨other, heard⟩ := tells.of_absent missing
      cases heard
    · intro garbled
      obtain ⟨other, failure, heard⟩ := tells.of_unusable garbled
      cases heard

theorem creationRests_of_takes {result : Except Fault Account}
    (takes : Takes (createOrUpdate domain userId localPart displayName) t turns result t')
    (tells : Tells config turns wire) :
    CreationRests config userId localPart t turns wire result t' := by
  by_cases valid : violations userId localPart displayName = []
  · have creation := creation_of_takes valid takes
    refine ⟨⟨tells.lookedUp_absent, ?_⟩, ?_, ?_, ?_⟩
    · intro missing
      obtain ⟨other, heard⟩ := tells.of_absent missing
      rw [(creation.heeds heard).1] at heard
      exact heard
    · intro missing
      obtain ⟨other, heard⟩ := tells.of_absent missing
      exact (creation.heeds heard).2
    · rintro fault rfl disagree
      exact tells.lookedUp_absent (creation.missing disagree)
    · intro garbled
      obtain ⟨other, failure, heard⟩ := tells.of_unusable garbled
      obtain ⟨rfl, ends⟩ := creation.heeds heard
      exact ⟨failure, heard, ends⟩
  · -- A request that is not valid says nothing to anybody, so nothing has gone over the wire.
    obtain ⟨rfl, rfl, rfl⟩ := of_takes_of_violations valid takes
    have silent : ¬LookedUp config userId wire Absent := by
      intro missing
      obtain ⟨other, heard⟩ := tells.of_absent missing
      cases heard
    refine ⟨iff_of_false nofun silent, fun missing => absurd missing silent, ?_, ?_⟩
    · rintro fault same disagree
      cases same
      cases disagree
    · intro garbled
      obtain ⟨other, failure, heard⟩ := tells.of_unusable garbled
      cases heard

theorem deletionRests_of_takes {result : Except Fault DeletionOutcome}
    (takes : Takes (deleteAccount domain userId id) t turns result t')
    (tells : Tells config turns wire) : DeletionRests config userId id turns wire result := by
  have deletion := deletion_of_takes takes
  refine ⟨?_, ?_, ?_⟩
  · rintro rfl
    exact tells.lookedUp_absent deletion.missing
  · intro missing
    obtain ⟨other, heard⟩ := tells.of_absent missing
    exact (deletion.heeds heard).2.1 rfl
  · intro garbled
    obtain ⟨other, failure, heard⟩ := tells.of_unusable garbled
    exact (deletion.heeds heard).2.2 failure rfl

end Rests

variable {σ : Type}

/-- The engine takes a mailbox for absent exactly where the service has answered 404. -/
structure AbsenceOnlyBy404 (k : Collaborators (σ × Wire)) (config : Config) (domain : String) :
    Prop where
  /-- The answer to a lookup, for every reply that can come back. -/
  reads : ∀ userId, Reachable config userId [] → ∀ reply,
    Reads reply ((Provisioning.Call.get userId).perform (m := Id) (fun _ => reply) config)
  unusable : Unusable .noConnection ∧ (∀ body, Unusable (.response 204 body)) ∧
    ∀ status body, status ≠ 404 → Http.isSuccess status = false →
      Unusable (.response status body)
  resolved : ∀ userId localPart t x, (resolve domain userId localPart).Ends k.answer
    ⟨t, (x, []), []⟩ fun result s' => StatusRests config userId s'.others.2 result
  checked : ∀ userId localPart t x, (resolveChecked domain userId localPart).Ends k.answer
    ⟨t, (x, []), []⟩ fun result s' => StatusRests config userId s'.others.2 result
  created : ∀ userId localPart displayName t x,
    (createOrUpdate domain userId localPart displayName).Ends k.answer ⟨t, (x, []), []⟩
      fun result s' =>
        CreationRests config userId localPart t s'.transcript s'.others.2 result s'.table
  deleted : ∀ userId id t x, (deleteAccount domain userId id).Ends k.answer ⟨t, (x, []), []⟩
    fun result s' => DeletionRests config userId id s'.transcript s'.others.2 result

theorem perform_get_of_reachable {config : Config} (reachable : Reachable config userId [])
    (reply : Http.Reply) : ∃ url,
      (Provisioning.Call.get userId).perform (m := Id) (fun _ => reply) config
        = outcome foundMailbox ((lookup config url).ofReply reply) := by
  obtain ⟨url, at_, sendable⟩ := reachable
  refine ⟨url, ?_⟩
  show outcome foundMailbox
    (Provisioning.perform (m := Id) (fun _ => reply) (getMailbox config userId)) = _
  rw [getMailbox_of_url at_]
  show outcome foundMailbox
    (Exchange.perform (m := Id) (fun _ => reply) (lookup config url)) = _
  have sendable : Exchange.isSendable (lookup config url).url = true := sendable
  unfold Exchange.perform
  rw [if_pos sendable]
  rfl

/-- Whatever the service replies, wherever the table fails and whatever the encryption answers:
nothing but a 404 is taken for the absence of a mailbox. -/
theorem absence_only_by_404 (config : Config) (send : Http.Request → σ → Http.Reply × σ)
    (tableFailure? : Statement → σ → Option Store.Error × σ)
    (encrypt : String → σ → Except Credential.Error String × σ) (domain : String) :
    AbsenceOnlyBy404 (overWire config send tableFailure? encrypt) config domain := by
  constructor
  · intro userId reachable reply
    obtain ⟨url, answer⟩ := perform_get_of_reachable reachable reply
    rw [answer]
    exact reads_lookup config url reply
  · exact ⟨unusable_noConnection, unusable_noContent, fun _ _ => unusable_of_status⟩
  · exact fun _ _ _ _ => ends_over_wire fun _ _ => statusRests_of_takes
  · exact fun _ _ _ _ => ends_over_wire fun _ _ => statusRests_of_takes_checked
  · exact fun _ _ _ _ _ => ends_over_wire fun _ _ => creationRests_of_takes
  · exact fun _ _ _ _ => ends_over_wire fun _ _ => deletionRests_of_takes

end MailboxKeeper.Engine
