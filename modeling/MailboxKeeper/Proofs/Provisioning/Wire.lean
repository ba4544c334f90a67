import MailboxKeeper.Proofs.Engine.CallDiscipline
import MailboxKeeper.Proofs.Provisioning.OverHttp

/-!
# What goes over the wire

The engine hears of the service by calls, and the service hears of the engine by requests. Here the
requests are written down as they go out, each with what came back (`Wire`), so that what was heard
can be held against it (`Tells`). Of the calls only lookups are followed up: a lookup that was sent
is read off its reply, whatever the reply is (`Reads`), and one that could not be sent has failed.
-/

namespace MailboxKeeper.Provisioning

open Http

/-- The requests that have gone out, each with what came back. -/
abbrev Wire := List (Request × Reply)

/-- A service whose exchanges are written down. -/
def recorded {σ : Type} (send : Request → σ → Reply × σ) (r : Request) (x : σ × Wire) :
    Reply × (σ × Wire) :=
  ((send r x.1).1, (send r x.1).2, x.2 ++ [(r, (send r x.1).1)])

/-! ## Replies to a lookup -/

/-- The reply says that there is no mailbox. -/
def Absent (reply : Reply) : Prop := ∃ body, reply = .response 404 body

/-- The reply reports success, and its body can be read to the end as a document that describes the
mailbox, with a well-formed address. -/
def Shows (reply : Reply) (mailbox : Mailbox) : Prop :=
  ∃ status body bytes json d, reply = .response status body ∧ isSuccess status = true ∧
    bodyBytes? status body = some bytes ∧ Json.ofBytes? bytes = some json ∧
    MailboxDocument.ofJson? json = some d ∧ Address.isWellFormed d.email = true ∧
    mailbox = ⟨Text.trim d.email, .ofDocument d.imap, .ofDocument d.smtp⟩

/-- Every other reply. -/
def Unusable (reply : Reply) : Prop := ¬Absent reply ∧ ∀ mailbox, ¬Shows reply mailbox

/-- What a lookup is to answer for a reply. -/
structure Reads (reply : Reply) (answer : Except Failure (Option Mailbox)) : Prop where
  absent : answer = .ok none ↔ Absent reply
  shown : ∀ mailbox, answer = .ok (some mailbox) ↔ Shows reply mailbox
  failed : (∃ failure, answer = .error failure) ↔ Unusable reply

variable {σ α : Type} {config : Config} {userId : String} {url : Url} {reply : Reply}
variable {answer : Except Failure (Option Mailbox)}

theorem reads_of (absent : answer = .ok none ↔ Absent reply)
    (shown : ∀ mailbox, answer = .ok (some mailbox) ↔ Shows reply mailbox) :
    Reads reply answer := by
  refine ⟨absent, shown, ?_, ?_⟩
  · rintro ⟨failure, rfl⟩
    constructor
    · intro nothing
      cases absent.2 nothing
    · intro mailbox shows
      cases (shown mailbox).2 shows
  · rintro ⟨notAbsent, notShown⟩
    match answer with
    | .error failure => exact ⟨failure, rfl⟩
    | .ok none => exact absurd (absent.1 rfl) notAbsent
    | .ok (some mailbox) => exact absurd ((shown mailbox).1 rfl) (notShown mailbox)

/-- A reply that shows nothing is read as a failure, unless it says that nothing is there. -/
theorem reads_error {failure : Failure} (notAbsent : ¬Absent reply)
    (notShown : ∀ mailbox, ¬Shows reply mailbox) : Reads reply (.error failure) :=
  reads_of (iff_of_false nofun notAbsent) fun mailbox => iff_of_false nofun (notShown mailbox)

theorem not_shows_of_status {status : Nat} {body : Body} (refused : isSuccess status = false) :
    ∀ mailbox, ¬Shows (.response status body) mailbox := by
  rintro mailbox ⟨_, _, _, _, _, ⟨⟩, success, -⟩
  rw [refused] at success
  cases success

theorem absent_response_iff {status : Nat} {body : Body} :
    Absent (.response status body) ↔ status = 404 := by
  constructor
  · intro absent
    obtain ⟨_, same⟩ := absent
    cases same
    rfl
  · rintro rfl
    exact ⟨body, rfl⟩

theorem unusable_noConnection : Unusable .noConnection := by
  constructor
  · rintro ⟨_, same⟩
    cases same
  · rintro mailbox ⟨_, _, _, _, _, ⟨⟩, -⟩

theorem unusable_of_status {status : Nat} {body : Body} (other : status ≠ 404)
    (refused : isSuccess status = false) : Unusable (.response status body) :=
  ⟨mt absent_response_iff.1 other, not_shows_of_status refused⟩

/-- Success without a body is not enough. -/
theorem unusable_noContent (body : Body) : Unusable (.response 204 body) := by
  refine ⟨mt absent_response_iff.1 (by decide), ?_⟩
  rintro mailbox ⟨_, _, bytes, json, _, ⟨⟩, -, whole, read, -⟩
  cases whole
  have empty : Json.ofBytes? [] = none := by decide +kernel
  rw [empty] at read
  cases read

theorem document_eq_ok_iff {ofJson? : Json → Option α} {status : Nat} {body : Body} {a : α} :
    document ofJson? status body = .ok a ↔ ∃ bytes json, bodyBytes? status body = some bytes ∧
      Json.ofBytes? bytes = some json ∧ ofJson? json = some a := by
  unfold document
  cases read : ((bodyBytes? status body).bind Json.ofBytes?).bind ofJson? with
  | none =>
    refine iff_of_false nofun ?_
    rintro ⟨bytes, json, whole, parsed, same⟩
    rw [whole, Option.bind_some, parsed, Option.bind_some, same] at read
    cases read
  | some b =>
    obtain ⟨json, parsed, decoded⟩ := Option.bind_eq_some_iff.1 read
    obtain ⟨bytes, whole, parsed⟩ := Option.bind_eq_some_iff.1 parsed
    constructor
    · rintro ⟨⟩
      exact ⟨bytes, json, whole, parsed, decoded⟩
    · rintro ⟨bytes', json', whole', parsed', same⟩
      rw [whole] at whole'
      cases whole'
      rw [parsed] at parsed'
      cases parsed'
      rw [decoded] at same
      cases same
      rfl

theorem map_some_eq_ok_iff {ε : Type} {found : Except ε α} {a : α} :
    found.map some = .ok (some a) ↔ found = .ok a := by
  cases found <;> simp [Except.map]

theorem ofDocument_eq_ok_iff {d : MailboxDocument} {mailbox : Mailbox} :
    Mailbox.ofDocument d = .ok mailbox ↔ Address.isWellFormed d.email = true ∧
      mailbox = ⟨Text.trim d.email, .ofDocument d.imap, .ofDocument d.smtp⟩ := by
  unfold Mailbox.ofDocument
  split
  · rename_i wellFormed
    rw [Except.ok.injEq]
    exact ⟨fun same => ⟨wellFormed, same.symm⟩, fun same => same.2.symm⟩
  · rename_i malformed
    exact iff_of_false nofun fun wellFormed => malformed wellFormed.1

/-- The exchange for a lookup at a URL. -/
def lookup (config : Config) (url : Url) : Exchange (Option MailboxDocument) :=
  ⟨url, plainRequest config .get url, fun status body =>
    if status = 404 then .ok none
    else if isSuccess status then (document MailboxDocument.ofJson? status body).map some
    else .error (refusal status body)⟩

theorem getMailbox_of_url (at_ : mailboxUrl config userId [] = .ok url) :
    getMailbox config userId = .ok (lookup config url) := exchange_of_url at_ _ _

variable (config url reply) in
/-- A lookup is read off its reply, whatever the reply is. -/
theorem reads_lookup : Reads reply (outcome foundMailbox ((lookup config url).ofReply reply)) := by
  cases reply with
  | noConnection => exact reads_error unusable_noConnection.1 unusable_noConnection.2
  | response status body =>
    show Reads _ (outcome foundMailbox (if status = 404 then _ else _))
    by_cases missing : status = 404
    · rw [if_pos missing]
      refine reads_of (iff_of_true rfl (absent_response_iff.2 missing)) fun mailbox => ?_
      rw [missing]
      exact iff_of_false nofun (not_shows_of_status rfl mailbox)
    · have notAbsent : ¬Absent (.response status body) := mt absent_response_iff.1 missing
      rw [if_neg missing]
      cases success : isSuccess status with
      | false => exact reads_error notAbsent (not_shows_of_status success)
      | true =>
        rw [if_pos rfl]
        cases read : document MailboxDocument.ofJson? status body with
        | error error =>
          refine reads_error notAbsent ?_
          rintro mailbox ⟨_, _, bytes, json, d, ⟨⟩, -, whole, parsed, decoded, -⟩
          rw [document_eq_ok_iff.2 ⟨bytes, json, whole, parsed, decoded⟩] at read
          cases read
        | ok d =>
          show Reads _ ((Mailbox.ofDocument d).map some)
          have shown : ∀ mailbox, (Mailbox.ofDocument d).map some = .ok (some mailbox) ↔
              Shows (.response status body) mailbox := by
            intro mailbox
            rw [map_some_eq_ok_iff, ofDocument_eq_ok_iff]
            constructor
            · rintro ⟨wellFormed, described⟩
              obtain ⟨bytes, json, whole, parsed, decoded⟩ := document_eq_ok_iff.1 read
              exact ⟨status, body, bytes, json, d, rfl, success, whole, parsed, decoded, wellFormed,
                described⟩
            · rintro ⟨_, _, bytes, json, d', ⟨⟩, -, whole, parsed, decoded, described⟩
              rw [document_eq_ok_iff.2 ⟨bytes, json, whole, parsed, decoded⟩] at read
              cases read
              exact described
          refine reads_of (iff_of_false ?_ notAbsent) shown
          cases Mailbox.ofDocument d <;> nofun

/-! ## Sending -/

section Sending

variable {send : Request → σ → Reply × σ} {x : σ × Wire}

variable (send x) in
/-- A request goes out or not; nothing else is written down. -/
theorem run_perform_recorded (made : Except Error (Exchange α)) :
    (∃ error, StateT.run (perform (m := StateM (σ × Wire)) (recorded send) made) x
        = (.error error, x)) ∨
      ∃ e reply rest, made = .ok e ∧
        StateT.run (perform (m := StateM (σ × Wire)) (recorded send) made) x
          = (e.ofReply reply, rest, x.2 ++ [(e.request, reply)]) := by
  cases made with
  | error error => exact .inl ⟨error, rfl⟩
  | ok e =>
    cases sendable : Exchange.isSendable e.url with
    | true => exact .inr ⟨e, _, _, rfl, run_perform sendable⟩
    | false => exact .inl ⟨_, run_perform_unsendable sendable⟩

theorem method_of_exchange {method : Method} {below : List String}
    {read : Nat → Body → Except Error α} {e : Exchange α}
    (made : exchange config method userId below read = .ok e) : e.request.method = method := by
  unfold exchange at made
  cases at_ : mailboxUrl config userId below with
  | error error =>
    rw [at_] at made
    cases made
  | ok url =>
    rw [at_] at made
    cases made
    rfl

theorem method_of_createMailbox {localPart : String} {e : Exchange MailboxDocument}
    (made : createMailbox config userId localPart = .ok e) : e.request.method = .post := by
  cases at_ : mailboxUrl config userId [] with
  | error error =>
    unfold createMailbox exchange at made
    rw [at_] at made
    cases made
  | ok url =>
    rw [createMailbox_of_url localPart at_] at made
    cases made
    rfl

end Sending

/-- The request that looks a user's mailbox up. -/
def IsLookup (config : Config) (userId : String) (r : Request) : Prop :=
  ∃ url, mailboxUrl config userId [] = .ok url ∧ r = plainRequest config .get url

end MailboxKeeper.Provisioning

namespace MailboxKeeper.Engine

open Provisioning Store

variable {σ α : Type} {config : Config} {send : Http.Request → σ → Http.Reply × σ}
variable {tableFailure? : Statement → σ → Option Store.Error × σ}
variable {encrypt : String → σ → Except Credential.Error String × σ}

/-- A service over HTTP whose exchanges are written down, with any table and any encryption. -/
def overWire (config : Config) (send : Http.Request → σ → Http.Reply × σ)
    (tableFailure? : Statement → σ → Option Store.Error × σ)
    (encrypt : String → σ → Except Credential.Error String × σ) : Collaborators (σ × Wire) where
  tableFailure? statement x :=
    ((tableFailure? statement x.1).1, (tableFailure? statement x.1).2, x.2)
  service c := StateT.run (c.perform (m := StateM (σ × Wire)) (recorded send) config)
  encrypt plaintext x := ((encrypt plaintext x.1).1, (encrypt plaintext x.1).2, x.2)

/-! ## Turns and exchanges -/

/-- What was said of lookups is what went over the wire. -/
structure Tells (config : Config) (turns : List Turn) (wire : Wire) : Prop where
  told : ∀ userId answer, (⟨.service (.get userId), answer⟩ : Turn) ∈ turns →
    (∃ r reply, (r, reply) ∈ wire ∧ IsLookup config userId r ∧ Reads reply answer) ∨
      ∃ failure, answer = .error failure
  heeded : ∀ r reply, (r, reply) ∈ wire → r.method = .get →
    ∃ userId answer, (⟨.service (.get userId), answer⟩ : Turn) ∈ turns ∧ Reads reply answer

theorem Tells.append {turns turns' : List Turn} {wire wire' : Wire}
    (first : Tells config turns wire) (second : Tells config turns' wire') :
    Tells config (turns ++ turns') (wire ++ wire') := by
  constructor
  · intro userId answer member
    rcases List.mem_append.1 member with earlier | later
    · refine (first.told userId answer earlier).imp_left ?_
      rintro ⟨r, reply, sent, looks⟩
      exact ⟨r, reply, List.mem_append_left _ sent, looks⟩
    · refine (second.told userId answer later).imp_left ?_
      rintro ⟨r, reply, sent, looks⟩
      exact ⟨r, reply, List.mem_append_right _ sent, looks⟩
  · intro r reply member looks
    rcases List.mem_append.1 member with earlier | later
    · obtain ⟨userId, answer, heard, reads⟩ := first.heeded r reply earlier looks
      exact ⟨userId, answer, List.mem_append_left _ heard, reads⟩
    · obtain ⟨userId, answer, heard, reads⟩ := second.heeded r reply later looks
      exact ⟨userId, answer, List.mem_append_right _ heard, reads⟩

/-- Of other calls there is nothing to tell, if their requests look nothing up. -/
theorem tells_other {turn : Turn} {wire : Wire} (other : turn.call.isLookup = false)
    (silent : ∀ exchange ∈ wire, exchange.1.method ≠ .get) : Tells config [turn] wire := by
  constructor
  · intro userId answer member
    cases List.mem_singleton.1 member
    cases other
  · intro r reply member looks
    exact absurd looks (silent _ member)

theorem tells_lookup {userId : String} {r : Http.Request} {reply : Http.Reply}
    {answer : Except Failure (Option Mailbox)} (looks : IsLookup config userId r)
    (reads : Reads reply answer) :
    Tells config [⟨.service (.get userId), answer⟩] [(r, reply)] := by
  constructor
  · intro other answer' member
    cases List.mem_singleton.1 member
    exact .inl ⟨r, reply, List.mem_singleton_self _, looks, reads⟩
  · intro r' reply' member _
    cases List.mem_singleton.1 member
    exact ⟨userId, answer, List.mem_singleton_self _, reads⟩

theorem tells_unsent {userId : String} (failure : Failure) :
    Tells config [⟨.service (.get userId), .error failure⟩] [] := by
  constructor
  · intro other answer member
    cases List.mem_singleton.1 member
    exact .inr ⟨failure, rfl⟩
  · exact nofun

/-- A call that looks nothing up puts one exchange on the wire, or none. -/
theorem tells_outcome {β γ : Type} (made : Except Provisioning.Error (Exchange β))
    (method : ∀ e, made = .ok e → e.request.method ≠ .get) (f : β → Except Failure γ)
    (asTurn : Except Failure γ → Turn) (other : ∀ answer, (asTurn answer).call.isLookup = false)
    (x : σ × Wire) :
    ∃ wire, (StateT.run (perform (m := StateM (σ × Wire)) (recorded send) made) x).2.2
        = x.2 ++ wire ∧
      Tells config [asTurn (outcome f
        (StateT.run (perform (m := StateM (σ × Wire)) (recorded send) made) x).1)] wire := by
  rcases run_perform_recorded send x made with
    ⟨error, run⟩ | ⟨e, reply, rest, ready, run⟩
  · rw [run]
    exact ⟨[], (List.append_nil _).symm, tells_other (other _) nofun⟩
  · rw [run]
    exact ⟨_, rfl, tells_other (other _) (List.forall_mem_singleton.2 (method e ready))⟩

/-- One call to the service puts one exchange on the wire, or none. -/
theorem tells_service (c : Provisioning.Call) (x : σ × Wire) :
    ∃ wire, ((overWire config send tableFailure? encrypt).service c x).2.2 = x.2 ++ wire ∧
      Tells config
        [⟨.service c, ((overWire config send tableFailure? encrypt).service c x).1⟩] wire := by
  cases c with
  | create userId localPart =>
    refine tells_outcome (createMailbox config userId localPart) ?_ Mailbox.ofDocument
      (fun answer => ⟨.service (.create userId localPart), answer⟩) (fun _ => rfl) x
    intro e made
    rw [method_of_createMailbox made]
    decide
  | delete userId =>
    refine tells_outcome (deleteMailbox config userId) ?_ (fun _ => .ok true)
      (fun answer => ⟨.service (.delete userId), answer⟩) (fun _ => rfl) x
    intro e made
    rw [method_of_exchange made]
    decide
  | resetPassword userId =>
    refine tells_outcome (Provisioning.resetPassword config userId) ?_ .ok
      (fun answer => ⟨.service (.resetPassword userId), answer⟩) (fun _ => rfl) x
    intro e made
    rw [method_of_exchange made]
    decide
  | get userId =>
    have service : (overWire config send tableFailure? encrypt).service (.get userId) x
        = (outcome foundMailbox (StateT.run (perform (m := StateM (σ × Wire)) (recorded send)
            (getMailbox config userId)) x).1,
          (StateT.run (perform (m := StateM (σ × Wire)) (recorded send)
            (getMailbox config userId)) x).2) := rfl
    rw [service]
    by_cases reachable : Reachable config userId []
    · obtain ⟨url, at_, sendable⟩ := reachable
      have sent : StateT.run (perform (m := StateM (σ × Wire)) (recorded send)
          (.ok (lookup config url))) x = _ := run_perform sendable
      rw [getMailbox_of_url at_, sent]
      exact ⟨_, rfl, tells_lookup ⟨url, at_, rfl⟩ (reads_lookup config url _)⟩
    · obtain ⟨error, run⟩ :=
        run_perform_unreachable (recorded send) x reachable map_url_getMailbox
      rw [run]
      exact ⟨[], (List.append_nil _).symm, tells_unsent _⟩

/-- Every call, whoever it is to, tells of the wire. -/
theorem tells_answer (call : Call) (s : Scene (σ × Wire)) :
    ∃ wire, ((overWire config send tableFailure? encrypt).answer call s).2.others.2
        = s.others.2 ++ wire ∧
      Tells config [⟨call, ((overWire config send tableFailure? encrypt).answer call s).1⟩]
        wire := by
  cases call with
  | service c => exact tells_service c s.others
  | encrypt plaintext => exact ⟨[], (List.append_nil _).symm, tells_other rfl nofun⟩
  | table statement =>
    refine ⟨[], ?_, tells_other rfl nofun⟩
    rw [List.append_nil]
    rcases (overWire config send tableFailure? encrypt).answer_table_cases s statement with
      ⟨e, others, fails, said⟩ | ⟨others, works, said⟩
    · rw [said]
      exact congrArg (fun heard : Option Store.Error × (σ × Wire) => heard.2.2) fails.symm
    · rw [said]
      exact congrArg (fun heard : Option Store.Error × (σ × Wire) => heard.2.2) works.symm

/-- Between two scenes, what was said of lookups is what went over the wire. -/
def TellsBetween (config : Config) (s s' : Scene (σ × Wire)) : Prop :=
  ∃ turns wire, s'.transcript = s.transcript ++ turns ∧ s'.others.2 = s.others.2 ++ wire ∧
    Tells config turns wire

theorem TellsBetween.refl (s : Scene (σ × Wire)) : TellsBetween config s s :=
  ⟨[], [], (List.append_nil _).symm, (List.append_nil _).symm, nofun, nofun⟩

theorem TellsBetween.trans {s s' s'' : Scene (σ × Wire)} (before : TellsBetween config s s')
    (after : TellsBetween config s' s'') : TellsBetween config s s'' := by
  obtain ⟨turns, wire, said, sent, tells⟩ := before
  obtain ⟨more, further, saidMore, sentMore, tellsMore⟩ := after
  refine ⟨turns ++ more, wire ++ further, ?_, ?_, tells.append tellsMore⟩
  · rw [saidMore, said, List.append_assoc]
  · rw [sentMore, sent, List.append_assoc]

variable (config send tableFailure? encrypt) in
/-- From a fresh wire on, the transcript of an operation tells of what went over it. -/
theorem tells_perform (op : Operation α) (t : Table) (x : σ) :
    Tells config
      ((overWire config send tableFailure? encrypt).perform op ⟨t, (x, []), []⟩).2.transcript
      ((overWire config send tableFailure? encrypt).perform op ⟨t, (x, []), []⟩).2.others.2 := by
  have run : TellsBetween config ⟨t, (x, []), []⟩
      ((overWire config send tableFailure? encrypt).perform op ⟨t, (x, []), []⟩).2 := by
    refine (Dialogue.asks_any op).runFrom TellsBetween.refl TellsBetween.trans ?_ _
    intro call s _
    obtain ⟨wire, sent, tells⟩ := tells_answer call s
    exact ⟨_, wire, Collaborators.transcript_answer _ call s, sent, tells⟩
  obtain ⟨turns, wire, said, sent, tells⟩ := run
  rw [said, sent]
  exact tells

/-- What is to be shown of an operation from a fresh wire on follows from the turns that it can take
and from what they tell of the wire. -/
theorem ends_over_wire {op : Operation α} {t : Table} {x : σ}
    {post : Except Fault α → Scene (σ × Wire) → Prop}
    (all : ∀ result s', Takes op t s'.transcript result s'.table →
      Tells config s'.transcript s'.others.2 → post result s') :
    op.Ends (overWire config send tableFailure? encrypt).answer ⟨t, (x, []), []⟩ post := by
  have takes : op.Ends (overWire config send tableFailure? encrypt).answer ⟨t, (x, []), []⟩
      fun result s' => Takes op t s'.transcript result s'.table :=
    ends_of_takes_start fun _ _ takes => takes
  exact all _ _ takes (tells_perform config send tableFailure? encrypt op t x)

end MailboxKeeper.Engine
