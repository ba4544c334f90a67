import MailboxKeeper.Proofs.Address.Comparison
import MailboxKeeper.Proofs.Engine.Course
import MailboxKeeper.Proofs.Engine.Interleaving

/-!
# Simultaneous requests for one account

Several requests of one user for one address, up to the case of letters, are worked on at the same
time. What they have in common goes through three stages: there is no mailbox; there is one, but no
record of it; there is a record. No call of theirs leads anywhere else (`Stage.Moves`), whatever
the others do in between, and a request that knows of a stage goes on to an end that suits it
(`Converges`). So all of them come to one record (`Crowd.converge`).
-/

namespace MailboxKeeper.Engine

open AccountRequest Store

/-- The id of the first row of a table. -/
def firstId : AccountId := ⟨1⟩

/-- How far requests for an account have come. -/
inductive Stage where
  | untouched
  | made (address : String)
  | recorded (address : String)

namespace Stage

/-- The address of the mailbox, once there is one. -/
def address? : Stage → Option String
  | untouched => none
  | made address | recorded address => some address

/-- The table holds what there is to hold at a stage. -/
def Lists (userId : String) : Stage → Table → Prop
  | untouched, t | made _, t => t = .empty
  | recorded address, t => ∃ entry : Entry, entry.userId = userId ∧ entry.email = address ∧
      t = Table.empty.append ⟨firstId, entry⟩

/-- The service and the table are at a stage, for a user and the letters of an address. -/
structure Holds (userId : String) (letters : List Char) (stage : Stage) (t : Table)
    (held : Holdings) : Prop where
  mailbox : (held userId).map Holding.address = stage.address?
  letters : ∀ address, stage.address? = some address → Text.fold address.toList = letters
  lists : stage.Lists userId t

/-- A stage or one that comes after it. -/
inductive Leads : Stage → Stage → Prop where
  | refl (stage : Stage) : Leads stage stage
  | making (address : String) : Leads untouched (made address)
  | recording (address : String) : Leads (made address) (recorded address)
  | both (address : String) : Leads untouched (recorded address)

/-- What a turn may do to the stage. -/
inductive Moves : Stage → Turn → Stage → Prop where
  | stays {turn : Turn} (stage : Stage) (quiet : turn.creates = false) : Moves stage turn stage
  | makes {turn : Turn} (address : String) (creates : turn.creates = true) :
      Moves untouched turn (made address)
  | records {turn : Turn} (address : String) (quiet : turn.creates = false)
      (writes : turn.writes = true) : Moves (made address) turn (recorded address)

/-- How many mailboxes were made up to a stage. -/
def creations : Stage → Nat
  | untouched => 0
  | made _ | recorded _ => 1

variable {stage later last : Stage} {address : String} {turn : Turn}

theorem Leads.trans (first : stage.Leads later) (second : later.Leads last) :
    stage.Leads last := by
  cases first with
  | refl => exact second
  | making => cases second with
    | refl => exact .making _
    | recording => exact .both _
  | recording => cases second with
    | refl => exact .recording _
  | both => cases second with
    | refl => exact .both _

theorem Leads.address? (leads : stage.Leads later) (known : stage.address? = some address) :
    later.address? = some address := by
  cases leads with
  | refl => exact known
  | recording => exact known
  | making | both => cases known

theorem Leads.eq_recorded (leads : (recorded address).Leads later) : later = recorded address := by
  cases leads
  rfl

theorem Moves.leads (moves : stage.Moves turn later) : stage.Leads later := by
  cases moves with
  | stays => exact .refl _
  | makes => exact .making _
  | records => exact .recording _

theorem Moves.creations (moves : stage.Moves turn later) :
    later.creations = stage.creations + turn.creates.toNat := by
  cases moves with
  | stays _ quiet => rw [quiet]; rfl
  | makes _ creates => rw [creates]; rfl
  | records _ quiet => rw [quiet]; rfl

theorem cases_of_address? (known : stage.address? = some address) :
    stage = made address ∨ stage = recorded address := by
  cases stage with
  | untouched => cases known
  | made => cases known; exact .inl rfl
  | recorded => cases known; exact .inr rfl

theorem eq_untouched (unknown : stage.address? = none) : stage = untouched := by
  cases stage with
  | untouched => rfl
  | made | recorded => cases unknown

end Stage

variable {domain userId localPart displayName address : String} {letters : List Char}
variable {stage later : Stage} {t t' : Table} {held held' : Holdings}

theorem ofMailbox_of_fold_eq {mailbox : Mailbox} {expected : String}
    (letters : Text.fold mailbox.email.toList = Text.fold expected.toList) :
    Resolution.ofMailbox expected (some mailbox) = .retry mailbox := by
  refine if_pos ?_
  rw [Address.same_iff, ← Text.trimChars_fold, ← Text.trimChars_fold, letters]

/-! ## Answers at a stage -/

theorem answers_encrypt {plaintext : String} {answer : Except Credential.Error String}
    (answers : Answers domain t held (.encrypt plaintext) answer t' held') :
    t' = t ∧ held' = held ∧ ∃ ciphertext, answer = .ok ciphertext := by
  cases answers
  exact ⟨rfl, rfl, _, rfl⟩

/-- Where there is a mailbox, it is found without its passwords. -/
theorem answers_get {answer : Provisioning.Call.Answer (.get userId)}
    (holds : stage.Holds userId letters t held) (known : stage.address? = some address)
    (answers : Answers domain t held (.service (.get userId)) answer t' held') :
    t' = t ∧ held' = held ∧ ∃ mailbox : Mailbox, answer = .ok (some mailbox) ∧
      mailbox.email = address := by
  have there := holds.mailbox
  rw [known, Option.map_eq_some_iff] at there
  obtain ⟨h, taken, at_⟩ := there
  cases answers with
  | service serves =>
    cases serves with
    | shown taken' address' =>
      rw [taken] at taken'
      cases taken'
      exact ⟨rfl, rfl, _, rfl, address'.trans at_⟩
    | absent free => rw [taken] at free; cases free

theorem answers_reset {answer : Provisioning.Call.Answer (.resetPassword userId)}
    (holds : stage.Holds userId letters t held) (known : stage.address? = some address)
    (answers : Answers domain t held (.service (.resetPassword userId)) answer t' held') :
    t' = t ∧ stage.Holds userId letters t held' ∧ ∃ password : String, answer = .ok password := by
  have there := holds.mailbox
  rw [known, Option.map_eq_some_iff] at there
  obtain ⟨h, taken, at_⟩ := there
  cases answers with
  | service serves =>
    cases serves with
    | reset taken' =>
      rw [taken] at taken'
      cases taken'
      refine ⟨rfl, ⟨?_, holds.letters, holds.lists⟩, _, rfl⟩
      rw [Function.update_self, known, Option.map_some, at_]
    | unknown free => rw [taken] at free; cases free

/-- Only the first creation is answered by a mailbox. -/
theorem answers_create {answer : Provisioning.Call.Answer (.create userId localPart)}
    (spelled : Text.fold (Address.ofParts localPart domain).toList = letters)
    (holds : stage.Holds userId letters t held)
    (answers : Answers domain t held (.service (.create userId localPart)) answer t' held') :
    t' = t ∧
      ((∃ mailbox : Mailbox, answer = .ok mailbox ∧ stage = .untouched ∧
          (Stage.made mailbox.email).Holds userId letters t held') ∨
        ∃ failure address, answer = .error failure ∧ stage.address? = some address ∧
          held' = held) := by
  cases answers with
  | service serves =>
    cases serves with
    | created free address disclosed =>
      have untouched : stage = .untouched := by
        refine Stage.eq_untouched ?_
        rw [← holds.mailbox, free, Option.map_none]
      subst untouched
      refine ⟨rfl, .inl ⟨_, rfl, rfl, ?_, ?_, holds.lists⟩⟩
      · rw [Function.update_self, Option.map_some, Stage.address?, address]
      · intro address' same
        cases same
        rw [address]
        exact spelled
    | refused taken conflict =>
      have known := holds.mailbox
      rw [taken, Option.map_some] at known
      exact ⟨rfl, .inr ⟨_, _, rfl, known.symm, rfl⟩⟩

/-- The record is found from the moment on that it is there. -/
theorem answers_findByAddress {answer : Except Error (Option Account)}
    (holds : stage.Holds userId letters t held)
    (answers : Answers domain t held
      (.table (.findByAddress userId (Address.ofParts localPart domain))) answer t' held') :
    t' = t ∧ held' = held ∧
      (answer = .ok none ∨ ∃ a : Account, answer = .ok (some a) ∧ a.id = some firstId ∧
        a.userId = userId ∧ stage = .recorded a.email) := by
  cases answers with
  | table =>
    refine ⟨rfl, rfl, ?_⟩
    cases found : t.findByAddress userId (Address.ofParts localPart domain) with
    | none => exact .inl (congrArg Except.ok found)
    | some a =>
      obtain ⟨r, member, -, rfl⟩ := Table.of_findByAddress_eq_some found
      refine .inr ⟨_, congrArg Except.ok found, ?_⟩
      have lists := holds.lists
      cases stage with
      | untouched | made => rw [lists] at member; cases member
      | recorded address =>
        obtain ⟨entry, owner, rfl, rfl⟩ := lists
        cases List.mem_singleton.1 member
        exact ⟨rfl, owner, rfl⟩

/-! ## Going on -/

/-- The fault of a user who has another record of the address. -/
def duplicateFault : Fault := (Error.database .duplicateAddress).toFault

/-- Whatever others do in between, the rest of a request moves along the stages and ends when there
is a record: with the id of the record, or else with the fault of a second one and without having
written. -/
def Converges (domain userId : String) (letters : List Char) :
    Operation Account → (wrote : Bool) → Stage → Prop
  | .done a, _, stage => a.id = some firstId ∧ ∃ address, stage = .recorded address
  | .fail fault, wrote, stage =>
    fault = duplicateFault ∧ wrote = false ∧ ∃ address, stage = .recorded address
  | .ask call next, wrote, stage =>
    ∀ later, stage.Leads later → ∀ t held answer t' held', later.Holds userId letters t held →
      Answers domain t held call answer t' held' →
      ∃ after : Stage, after.Holds userId letters t' held' ∧ later.Moves ⟨call, answer⟩ after ∧
        Converges domain userId letters (next answer) (wrote || Turn.writes ⟨call, answer⟩) after

/-- An account that can be written at a stage: a new one as soon as there is a mailbox, and a
recorded one as soon as there is a record. -/
structure Due (userId : String) (stage : Stage) (a : Account) : Prop where
  owner : a.userId = userId
  address : stage.address? = some a.email
  row : a.id = none ∨ a.id = some firstId ∧ stage = .recorded a.email

namespace Converges

variable {op : Operation Account} {wrote : Bool}

theorem mono (converges : Converges domain userId letters op wrote stage)
    (leads : stage.Leads later) : Converges domain userId letters op wrote later := by
  cases op with
  | done a =>
    obtain ⟨same, address, rfl⟩ := converges
    exact ⟨same, address, leads.eq_recorded⟩
  | fail fault =>
    obtain ⟨same, unwritten, address, rfl⟩ := converges
    exact ⟨same, unwritten, address, leads.eq_recorded⟩
  | ask call next =>
    intro last further
    exact converges last (leads.trans further)

theorem encrypt_bind {plaintext : String} {f : String → Operation Account}
    (next : ∀ ciphertext, Converges domain userId letters (f ciphertext) wrote stage) :
    Converges domain userId letters (Operation.encrypt plaintext >>= f) wrote stage := by
  intro later leads t held answer t' held' holds answers
  obtain ⟨rfl, rfl, ciphertext, rfl⟩ := answers_encrypt answers
  refine ⟨later, holds, .stays later rfl, ?_⟩
  rw [show Turn.writes ⟨.encrypt plaintext, .ok ciphertext⟩ = false from rfl, Bool.or_false]
  exact (next ciphertext).mono leads

theorem encryptEndpoint_bind {server : MailServer} {f : Endpoint → Operation Account}
    (next : ∀ endpoint, Converges domain userId letters (f endpoint) wrote stage) :
    Converges domain userId letters (Operation.encryptEndpoint server >>= f) wrote stage := by
  unfold Operation.encryptEndpoint
  rw [bind_assoc]
  exact encrypt_bind fun ciphertext => next _

theorem resetPassword_bind {f : String → Operation Account}
    (known : stage.address? = some address)
    (next : ∀ password, Converges domain userId letters (f password) wrote stage) :
    Converges domain userId letters (Operation.service (.resetPassword userId) >>= f) wrote
      stage := by
  intro later leads t held answer t' held' holds answers
  obtain ⟨rfl, holds', password, rfl⟩ := answers_reset holds (leads.address? known) answers
  refine ⟨later, holds', .stays later rfl, ?_⟩
  rw [show Turn.writes ⟨.service (.resetPassword userId), .ok password⟩ = false from rfl,
    Bool.or_false]
  exact (next password).mono leads

/-- A lookup finds the mailbox, at an address of the same letters. -/
theorem get {next : Provisioning.Call.Answer (.get userId) → Operation Account}
    (known : stage.address? = some address)
    (found : ∀ mailbox : Mailbox, mailbox.email = address →
      Text.fold mailbox.email.toList = letters →
      Converges domain userId letters (next (.ok (some mailbox))) wrote stage) :
    Converges domain userId letters (.ask (.service (.get userId)) next) wrote stage := by
  intro later leads t held answer t' held' holds answers
  obtain ⟨rfl, rfl, mailbox, rfl, at_⟩ := answers_get holds (leads.address? known) answers
  refine ⟨later, holds, .stays later rfl, ?_⟩
  rw [show Turn.writes ⟨.service (.get userId), .ok (some mailbox)⟩ = false from rfl,
    Bool.or_false]
  have spelled := holds.letters address (leads.address? known)
  rw [← at_] at spelled
  exact (found mailbox at_ spelled).mono leads

/-- An account is saved if it comes first; otherwise the save is refused. -/
theorem save {a : Account} (owner : a.userId = userId) (known : stage.address? = some a.email) :
    Converges domain userId letters (Operation.table (.save a)) false stage := by
  intro later leads t held answer t' held' holds answers
  cases answers with
  | table =>
    have lists := holds.lists
    rcases Stage.cases_of_address? (leads.address? known) with rfl | rfl
    · subst lists
      have saved : Table.empty.save a = .ok ({ a with id := some firstId },
          Table.empty.append ⟨firstId, .ofAccount a⟩) := Table.Sound.empty.save_of_free rfl nofun
      simp only [Table.execute, saved]
      have holds' : (Stage.recorded a.email).Holds userId letters
          (Table.empty.append ⟨firstId, .ofAccount a⟩) held :=
        ⟨holds.mailbox, holds.letters, _, owner, rfl, rfl⟩
      exact ⟨.recorded a.email, holds', .records _ rfl rfl, rfl, _, rfl⟩
    · obtain ⟨entry, mine, at_, rfl⟩ := lists
      have sound : (Table.empty.append ⟨firstId, entry⟩).Sound :=
        Table.Sound.empty.append (show (0 : Int64) < 1 by decide) nofun
      have taken : entry.isAt a.userId a.email = true :=
        Entry.isAt_iff.2 ⟨mine.trans owner.symm, by rw [at_]; exact sameAddress_self _⟩
      have next : (Table.empty.append ⟨firstId, entry⟩).nextId? = some ⟨2⟩ := rfl
      have refused : (Table.empty.append ⟨firstId, entry⟩).save a
          = .error (.database .duplicateAddress) :=
        sound.save_of_taken next (Table.mem_append.2 (.inr rfl)) taken
      simp only [Table.execute, refused]
      exact ⟨_, holds, .stays _ rfl, rfl, rfl, _, rfl⟩

/-- A record that is there is rewritten. -/
theorem update {a : Account} (owner : a.userId = userId) (named : a.id = some firstId) :
    Converges domain userId letters (Operation.table (.update a)) false (.recorded a.email) := by
  intro later leads t held answer t' held' holds answers
  rw [leads.eq_recorded] at holds ⊢
  cases answers with
  | table =>
    obtain ⟨entry, mine, at_, rfl⟩ := holds.lists
    have updated : (Table.empty.append ⟨firstId, entry⟩).update a
        = .ok (a, (Table.empty.append ⟨firstId, entry⟩).replace firstId (.ofAccount a)) := by
      refine Table.update_of_row (r := ⟨firstId, entry⟩) (Table.mem_append.2 (.inr rfl)) named
        (mine.trans owner.symm) ?_
      intro s member at_
      rw [List.mem_singleton.1 member]
    simp only [Table.execute, updated]
    refine ⟨.recorded a.email, ⟨holds.mailbox, holds.letters, ?_⟩, .stays _ rfl, named, _, rfl⟩
    exact ⟨_, owner, rfl, rfl⟩

theorem write {a : Account} (due : Due userId stage a) :
    Converges domain userId letters (Operation.write a) false stage := by
  rcases due.row with new | ⟨named, rfl⟩
  · rw [write_of_unsaved (by rw [Account.isSaved, new]; rfl)]
    exact save due.owner due.address
  · rw [write_of_saved (by rw [Account.isSaved, named]; rfl)]
    exact update due.owner named

theorem persist {a : Account} {mailbox : Mailbox} (due : Due userId stage a) :
    Converges domain userId letters (persist a mailbox displayName) false stage := by
  obtain rfl := due.owner
  have recording : ∀ mailbox : Mailbox, Converges domain a.userId letters
      (Operation.encryptEndpoint mailbox.imap >>= fun inbound =>
        Operation.encryptEndpoint mailbox.smtp >>= fun outbound =>
          Operation.write (renewed a displayName inbound outbound)) false stage :=
    fun mailbox => encryptEndpoint_bind fun inbound => encryptEndpoint_bind fun outbound =>
      write ⟨rfl, due.address, due.row⟩
  unfold Engine.persist withIssuedPassword
  split
  · exact recording mailbox
  · rw [bind_assoc]
    exact resetPassword_bind due.address fun password => recording _

/-- Resolving leads to the mailbox. -/
theorem resolve_bind {f : Resolution → Operation Account}
    (spelled : Text.fold (Address.ofParts localPart domain).toList = letters)
    (known : stage.address? = some address)
    (next : ∀ mailbox : Mailbox, mailbox.email = address →
      Converges domain userId letters (f (.retry mailbox)) wrote stage) :
    Converges domain userId letters (Engine.resolve domain userId localPart >>= f) wrote stage := by
  refine get known fun mailbox at_ folded => ?_
  show Converges _ _ _
    (f (Resolution.ofMailbox (Address.ofParts localPart domain) (some mailbox))) _ _
  rw [ofMailbox_of_fold_eq (folded.trans spelled.symm)]
  exact next mailbox at_

/-- What would become of a fault does not matter. -/
theorem resolve_mapError_bind {f : Resolution → Operation Account} {g : Fault → Fault}
    (goes : Converges domain userId letters (Engine.resolve domain userId localPart >>= f) wrote
      stage)
    (known : stage.address? = some address) :
    Converges domain userId letters
      ((Engine.resolve domain userId localPart).mapError g >>= f) wrote stage := by
  intro later leads t held answer t' held' holds answers
  obtain ⟨-, -, mailbox, rfl, -⟩ := answers_get holds (leads.address? known) answers
  exact goes later leads t held _ t' held' holds answers

theorem repair {a : Account}
    (spelled : Text.fold (Address.ofParts localPart domain).toList = letters)
    (due : Due userId stage a) :
    Converges domain userId letters (repair domain localPart displayName a) false stage := by
  obtain rfl := due.owner
  unfold Engine.repair
  exact resolve_bind spelled due.address fun mailbox _ => persist due

theorem recover {refusal : Fault}
    (spelled : Text.fold (Address.ofParts localPart domain).toList = letters)
    (known : stage.address? = some address) :
    Converges domain userId letters (recover domain userId localPart displayName refusal) false
      stage := by
  unfold Engine.recover
  refine resolve_mapError_bind (resolve_bind spelled known fun mailbox at_ => ?_) known
  exact persist ⟨rfl, by rw [known, ← at_]; rfl, .inl rfl⟩

theorem provision (spelled : Text.fold (Address.ofParts localPart domain).toList = letters) :
    Converges domain userId letters (provision domain userId localPart displayName) false
      stage := by
  unfold Engine.provision
  intro later leads t held answer t' held' holds answers
  obtain ⟨rfl, ⟨mailbox, rfl, rfl, holds'⟩ | ⟨failure, address, rfl, known, rfl⟩⟩ :=
    answers_create spelled holds answers
  · refine ⟨.made mailbox.email, holds', .makes _ rfl, ?_⟩
    exact persist ⟨rfl, rfl, .inl rfl⟩
  · refine ⟨later, holds, .stays _ rfl, ?_⟩
    exact recover spelled known

/-- A valid request goes on like this from the beginning. -/
theorem createOrUpdate (valid : violations userId localPart displayName = [])
    (spelled : Text.fold (Address.ofParts localPart domain).toList = letters) :
    Converges domain userId letters (createOrUpdate domain userId localPart displayName) false
      stage := by
  unfold Engine.createOrUpdate
  rw [valid]
  intro later leads t held answer t' held' holds answers
  obtain ⟨rfl, rfl, rfl | ⟨a, rfl, named, owner, rfl⟩⟩ := answers_findByAddress holds answers
  · exact ⟨later, holds, .stays _ rfl, provision spelled⟩
  · exact ⟨_, holds, .stays _ rfl, repair spelled ⟨owner, rfl, .inr ⟨named, rfl⟩⟩⟩

end Converges

/-! ## All requests together -/

namespace Crowd

variable {n : Nat} {localPart displayName : Fin n → String} {c c' : Crowd n}

/-- All requests have one stage in common, and each of them goes on from it. -/
structure Converging (domain userId : String) (letters : List Char)
    (localPart displayName : Fin n → String) (c : Crowd n) (stage : Stage) : Prop where
  holds : stage.Holds userId letters c.table c.held
  creations : c.creations = stage.creations
  written : ∀ address, stage = .recorded address → ∃ i, c.wrote i = true
  valid : ∀ i, violations userId (localPart i) (displayName i) = [] →
    Converges domain userId letters (c.rest i) (c.wrote i) stage
  invalid : ∀ i, violations userId (localPart i) (displayName i) ≠ [] →
    c.rest i = .fail (Fault.ofViolations (violations userId (localPart i) (displayName i))) ∧
      c.said i = []

theorem Converging.start (free : held userId = none)
    (spelled : ∀ i, Text.fold (Address.ofParts (localPart i) domain).toList = letters) :
    Converging domain userId letters localPart displayName
      (.start domain userId held localPart displayName) .untouched where
  holds := ⟨congrArg (Option.map Holding.address) free, nofun, rfl⟩
  creations := rfl
  written := nofun
  valid i valid := .createOrUpdate valid (spelled i)
  invalid i invalid := by
    refine ⟨?_, rfl⟩
    unfold Crowd.start createOrUpdate
    dsimp only
    split
    · rename_i valid
      exact absurd valid invalid
    · rfl

/-- Whichever request goes on, and however it is answered, all of them go on like this. -/
theorem Converging.step
    (converging : Converging domain userId letters localPart displayName c stage)
    (step : Step domain c c') :
    ∃ later, Converging domain userId letters localPart displayName c' later := by
  cases step with
  | @turn i call next answer t held asks answers =>
    have valid : violations userId (localPart i) (displayName i) = [] := by
      by_contra invalid
      have ended := (converging.invalid i invalid).1
      rw [asks] at ended
      cases ended
    have goes := converging.valid i valid
    rw [asks] at goes
    obtain ⟨later, holds, moves, goes⟩ := goes stage (.refl _) _ _ _ _ _ converging.holds answers
    refine ⟨later, holds, ?_, ?_, ?_, ?_⟩
    · rw [creations_take, converging.creations, moves.creations]
    · rintro address rfl
      cases moves with
      | stays =>
        obtain ⟨j, wrote⟩ := converging.written address rfl
        refine ⟨j, ?_⟩
        by_cases same : j = i
        · rw [same] at wrote ⊢
          rw [wrote_take_self, wrote, Bool.true_or]
        · rw [wrote_take_of_ne same, wrote]
      | records _ _ writes => exact ⟨i, by rw [wrote_take_self, writes, Bool.or_true]⟩
    · intro j valid
      by_cases same : j = i
      · rw [same, rest_take_self, wrote_take_self]
        exact goes
      · rw [rest_take_of_ne same, wrote_take_of_ne same]
        exact (converging.valid j valid).mono moves.leads
    · intro j invalid
      have other : j ≠ i := by
        rintro rfl
        exact invalid valid
      rw [rest_take_of_ne other, said_take_of_ne other]
      exact converging.invalid j invalid

theorem Converging.reaches
    (converging : Converging domain userId letters localPart displayName c stage)
    (reached : Reaches domain c c') :
    ∃ later, Converging domain userId letters localPart displayName c' later := by
  induction reached with
  | refl => exact ⟨stage, converging⟩
  | tail _ step ih =>
    obtain ⟨later, converging⟩ := ih
    exact converging.step step

/-- One mailbox was made and recorded once, under an id. Of the requests that were heeded some have
got the record, and the others the fault of a second one, without having written. -/
structure Agreed (c : Crowd n) (userId : String) (heeded : Fin n → Prop) (id : AccountId) :
    Prop where
  created : c.creations = 1
  recorded : ∃ entry, c.table.rows = [⟨id, entry⟩] ∧ entry.userId = userId
  heard : ∃ i a, c.outcome? i = some (.ok a)
  ended : ∀ i, heeded i → (∃ a, c.outcome? i = some (.ok a) ∧ a.id = some id) ∨
    c.outcome? i = some (.error duplicateFault) ∧ ∀ turn ∈ c.said i, turn.writes = false

/-- A valid request that has ended is at a record. -/
theorem Converging.of_outcome? {i : Fin n} {result : Except Fault Account}
    (converging : Converging domain userId letters localPart displayName c stage)
    (valid : violations userId (localPart i) (displayName i) = [])
    (ended : c.outcome? i = some result) :
    (∃ address, stage = .recorded address) ∧
      ((∃ a : Account, result = .ok a ∧ a.id = some firstId) ∨
        result = .error duplicateFault ∧ c.wrote i = false) := by
  have goes := converging.valid i valid
  unfold outcome? at ended
  cases rest : c.rest i with
  | done a =>
    rw [rest] at goes ended
    cases ended
    exact ⟨goes.2, .inl ⟨a, rfl, goes.1⟩⟩
  | fail fault =>
    rw [rest] at goes ended
    cases ended
    obtain ⟨rfl, unwritten, recorded⟩ := goes
    exact ⟨recorded, .inr ⟨rfl, unwritten⟩⟩
  | ask call next => rw [rest] at ended; cases ended

theorem Converging.agreed {i : Fin n}
    (converging : Converging domain userId letters localPart displayName c stage)
    (valid : violations userId (localPart i) (displayName i) = []) (finished : c.Finished) :
    c.Agreed userId (fun i => violations userId (localPart i) (displayName i) = []) firstId := by
  obtain ⟨result, ended⟩ := Option.isSome_iff_exists.1 (finished i)
  obtain ⟨⟨address, rfl⟩, -⟩ := converging.of_outcome? valid ended
  obtain ⟨entry, owner, -, table⟩ := converging.holds.lists
  refine ⟨converging.creations, ⟨entry, by rw [table]; rfl, owner⟩, ?_, ?_⟩
  · obtain ⟨j, wrote⟩ := converging.written address rfl
    have valid : violations userId (localPart j) (displayName j) = [] := by
      by_contra invalid
      rw [Crowd.wrote, (converging.invalid j invalid).2] at wrote
      cases wrote
    obtain ⟨result, ended⟩ := Option.isSome_iff_exists.1 (finished j)
    obtain ⟨-, ⟨a, rfl, -⟩ | ⟨-, unwritten⟩⟩ := converging.of_outcome? valid ended
    · exact ⟨j, a, ended⟩
    · rw [unwritten] at wrote
      cases wrote
  · intro j valid
    obtain ⟨result, ended⟩ := Option.isSome_iff_exists.1 (finished j)
    obtain ⟨-, ⟨a, rfl, named⟩ | ⟨rfl, unwritten⟩⟩ := converging.of_outcome? valid ended
    · exact .inl ⟨a, ended, named⟩
    · refine .inr ⟨ended, fun turn member => ?_⟩
      exact Bool.eq_false_iff.2 (List.any_eq_false.1 unwritten turn member)

theorem Converging.count_le_one
    (converging : Converging domain userId letters localPart displayName c stage) :
    c.table.count userId ≤ 1 := by
  have lists := converging.holds.lists
  refine List.countP_le_length.trans ?_
  cases stage with
  | untouched | made => rw [lists]; exact Nat.zero_le 1
  | recorded =>
    obtain ⟨entry, -, -, table⟩ := lists
    rw [table]
    exact Nat.le_refl 1

/-- Requests of one user for addresses that differ in the case of letters alone, over a service that
has no mailbox of the user yet: in whatever order they make their calls, there is never more than
one mailbox made and one record of it, and invalid requests end at once, without a call. If one of
the requests is valid, then by the time that all have ended the valid ones have come to one record
of one mailbox. -/
theorem converge (free : held userId = none)
    (letters : ∀ i j, Text.fold (localPart i).toList = Text.fold (localPart j).toList)
    (reached : Reaches domain (.start domain userId held localPart displayName) c) :
    c.table.count userId ≤ 1 ∧ c.creations ≤ 1 ∧
      (∀ i, violations userId (localPart i) (displayName i) ≠ [] →
        c.outcome? i = some
          (.error (Fault.ofViolations (violations userId (localPart i) (displayName i)))) ∧
        c.said i = []) ∧
      ((∃ i, violations userId (localPart i) (displayName i) = []) → c.Finished →
        ∃ id, c.Agreed userId (fun i => violations userId (localPart i) (displayName i) = [])
          id) := by
  have spelled : ∃ common, ∀ i,
      Text.fold (Address.ofParts (localPart i) domain).toList = common := by
    rcases isEmpty_or_nonempty (Fin n) with nobody | ⟨⟨j⟩⟩
    · exact ⟨[], nobody.elim⟩
    · refine ⟨Text.fold (Address.ofParts (localPart j) domain).toList, fun i => ?_⟩
      rw [Address.toList_ofParts, Address.toList_ofParts, Text.fold_append, Text.fold_append,
        letters i j]
  obtain ⟨common, spelled⟩ := spelled
  obtain ⟨stage, converging⟩ := (Converging.start free spelled).reaches reached
  refine ⟨converging.count_le_one, ?_, ?_, ?_⟩
  · rw [converging.creations]
    cases stage with
    | untouched => exact Nat.zero_le 1
    | made | recorded => exact Nat.le_refl 1
  · intro i invalid
    obtain ⟨failed, quiet⟩ := converging.invalid i invalid
    exact ⟨by rw [outcome?, failed]; rfl, quiet⟩
  · rintro ⟨i, valid⟩ finished
    exact ⟨firstId, converging.agreed valid finished⟩

/-- Three requests of a user, of which the last has no display name. -/
def janes : Crowd 3 :=
  start "example.com" "u1" (fun _ => none) ![ "jane", "JANE", "jane"] ![ "Jane", "Jane D.", ""]

/-- The first two find nothing; the second is refused a mailbox and a record. -/
theorem converge_janes :
    (play "example.com" janes [0, 1, 0, 1, 1, 1, 1, 1, 0, 0, 0, 1]).Finished ∧
      ∃ id, (play "example.com" janes [0, 1, 0, 1, 1, 1, 1, 1, 0, 0, 0, 1]).Agreed "u1"
        (fun i => violations "u1" (![ "jane", "JANE", "jane"] i) (![ "Jane", "Jane D.", ""] i) = [])
        id := by
  have finished : (play "example.com" janes [0, 1, 0, 1, 1, 1, 1, 1, 0, 0, 0, 1]).Finished := by
    decide +kernel
  exact ⟨finished, (converge rfl (by decide) (reaches_play ..)).2.2.2 ⟨0, by decide⟩ finished⟩

/-- A request without a display name, alone. -/
def nameless : Crowd 1 :=
  start "example.com" "u1" (fun _ => none) (fun _ => "jane") fun _ => ""

/-- It has ended before its first call, with neither a record nor the fault of a second one. -/
theorem not_agreed_nameless :
    nameless.Finished ∧ nameless.creations = 0 ∧ nameless.table.rows = [] ∧
      nameless.outcome? 0 = some (.error (Fault.ofViolations [.emptyDisplayName])) ∧
      ¬∃ id, nameless.Agreed "u1" (fun _ => True) id := by
  refine ⟨by decide, rfl, rfl, rfl, ?_⟩
  rintro ⟨id, agreed⟩
  exact absurd agreed.created (by decide)

end Crowd

end MailboxKeeper.Engine
