import MailboxKeeper.Proofs.Engine.Calls
import MailboxKeeper.Proofs.Engine.SideBySide

/-!
# Operations on related data

A request is compared with itself, over data that are related: accounts and mailboxes that agree in
all that decides how the engine goes on, but perhaps not in everything. `Relations` names the
relations, and a likeness `Respects` them if the calls on related data count as alike and are
answered by related data. Then every request goes side by side with itself, to related results
(`Likeness.Respects.request`). A comparison of runs is so reduced to what it says of single calls.
-/

namespace MailboxKeeper.Engine

/-- How the data of two operations are related. -/
structure Relations where
  account : Account → Account → Prop
  mailbox : Mailbox → Mailbox → Prop
  server : MailServer → MailServer → Prop
  endpoint : Endpoint → Endpoint → Prop
  password : String → String → Prop

namespace Relations

variable (R : Relations)

/-- What the service answers with. -/
def served : (c : Provisioning.Call) → c.Result → c.Result → Prop
  | .create .. => R.mailbox
  | .get _ => Option.Rel R.mailbox
  | .delete _ => Eq
  | .resetPassword _ => R.password

/-- Mailboxes that are taken over are related; everything else is the same. -/
inductive Resolutions : Resolution → Resolution → Prop where
  | retry {m n : Mailbox} (related : R.mailbox m n) : Resolutions (.retry m) (.retry n)
  | noExistingAccount : Resolutions .noExistingAccount .noExistingAccount
  | emailMismatch (expected existing : String) :
      Resolutions (.emailMismatch expected existing) (.emailMismatch expected existing)

/-- What requests yield. -/
def results : (q : Request) → q.Result → q.Result → Prop
  | .create .. => R.account
  | .resolve .. => R.Resolutions
  | .resetPassword .. => R.account
  | .delete .. => Eq

/-- Related data agree in what an operation looks at, and so do the data that it makes of them. The
accounts belong to users of whom `own` holds. -/
structure Coherent (own : String → Prop) : Prop where
  new : ∀ {userId}, own userId → ∀ email, R.account (.new userId email) (.new userId email)
  account : ∀ {a b}, R.account a b → a.id = b.id ∧ a.userId = b.userId ∧ own b.userId ∧
    a.email = b.email ∧ R.endpoint a.inbound b.inbound ∧ R.endpoint a.outbound b.outbound
  update : ∀ {a b}, R.account a b → ∀ {inbound inbound' outbound outbound'},
    R.endpoint inbound inbound' → R.endpoint outbound outbound' →
      R.account { a with inbound, outbound }
        { b with inbound := inbound', outbound := outbound' }
  rename : ∀ {a b}, R.account a b → ∀ displayName authMethod,
    R.account { a with displayName, authMethod } { b with displayName, authMethod }
  mailbox : ∀ {m n}, R.mailbox m n → m.email = n.email ∧ m.hasCredentials = n.hasCredentials ∧
    R.server m.imap n.imap ∧ R.server m.smtp n.smtp
  withPassword : ∀ {m n}, R.mailbox m n → ∀ {p q}, R.password p q →
    R.mailbox (m.withPassword p) (n.withPassword q)
  serverOf : ∀ {e f}, R.endpoint e f → ∀ {p q}, R.password p q →
    R.server (serverOf e p) (serverOf f q)

end Relations

/-- Calls on related data count as alike and are answered by related data. -/
structure Likeness.Respects (like : Likeness) (R : Relations) (own : String → Prop) : Prop
    extends R.Coherent own where
  findByAddress : ∀ {userId}, own userId → ∀ email, SideBySide like (Option.Rel R.account)
    (Operation.table (.findByAddress userId email)) (Operation.table (.findByAddress userId email))
  findById : ∀ {userId}, own userId → ∀ id, SideBySide like (Option.Rel R.account)
    (Operation.table (.findById userId id)) (Operation.table (.findById userId id))
  saveRow : ∀ {a b}, R.account a b →
    SideBySide like R.account (Operation.table (.save a)) (Operation.table (.save b))
  updateRow : ∀ {a b}, R.account a b →
    SideBySide like R.account (Operation.table (.update a)) (Operation.table (.update b))
  deleteRow : ∀ {userId}, own userId → ∀ id, SideBySide like (fun _ _ => True)
    (Operation.table (.delete userId id)) (Operation.table (.delete userId id))
  tryService : ∀ c : Provisioning.Call, own c.userId → SideBySide like (Outcomes (R.served c))
    (Operation.tryService c) (Operation.tryService c)
  encryptEndpoint : ∀ {server server'}, R.server server server' → SideBySide like R.endpoint
    (Operation.encryptEndpoint server) (Operation.encryptEndpoint server')

namespace Likeness.Respects

variable {like : Likeness} {R : Relations} {own : String → Prop}
variable (respects : like.Respects R own)
variable {domain userId localPart displayName : String} {a b : Account} {m n : Mailbox}

include respects

/-! ## Parts of operations -/

theorem service (c : Provisioning.Call) (owned : own c.userId) :
    SideBySide like (R.served c) (Operation.service c) (Operation.service c) :=
  (respects.tryService c owned).bind fun _ _ alike => .orFault alike

theorem requireAccount (owned : own userId) (id : AccountId) :
    SideBySide like R.account (Operation.requireAccount userId id)
      (Operation.requireAccount userId id) := by
  refine SideBySide.bind (respects.findById owned id) ?_
  intro found found' alike
  cases alike with
  | none => exact .fail _
  | some related => exact .done related

theorem write (related : R.account a b) :
    SideBySide like R.account (Operation.write a) (Operation.write b) := by
  obtain ⟨sameId, -⟩ := respects.account related
  have saved : a.isSaved = b.isSaved := congrArg Option.isSome sameId
  cases isSaved : b.isSaved with
  | true =>
    rw [write_of_saved (saved.trans isSaved), write_of_saved isSaved]
    exact respects.updateRow related
  | false =>
    rw [write_of_unsaved (saved.trans isSaved), write_of_unsaved isSaved]
    exact respects.saveRow related

theorem withIssuedPassword (owned : own userId) (related : R.mailbox m n) :
    SideBySide like R.mailbox (withIssuedPassword userId m) (withIssuedPassword userId n) := by
  obtain ⟨-, credentials, -⟩ := respects.mailbox related
  unfold Engine.withIssuedPassword
  rw [credentials]
  cases n.hasCredentials with
  | true => exact .done related
  | false =>
    refine SideBySide.bind (respects.service (.resetPassword userId) owned) ?_
    intro password password' issued
    exact .done (respects.withPassword related issued)

theorem persist (related : R.account a b) (mailboxes : R.mailbox m n) (displayName : String) :
    SideBySide like R.account (persist a m displayName) (persist b n displayName) := by
  obtain ⟨-, sameUser, owned, -⟩ := respects.account related
  have issuing : SideBySide like R.mailbox (Engine.withIssuedPassword a.userId m)
      (Engine.withIssuedPassword b.userId n) := by
    rw [sameUser]
    exact respects.withIssuedPassword owned mailboxes
  refine SideBySide.bind issuing ?_
  intro m n issued
  obtain ⟨-, -, imap, smtp⟩ := respects.mailbox issued
  refine SideBySide.bind (respects.encryptEndpoint imap) ?_
  intro inbound inbound' incoming
  refine SideBySide.bind (respects.encryptEndpoint smtp) ?_
  intro outbound outbound' outgoing
  have renamed := respects.rename related (Text.trim displayName) .password
  exact respects.write (respects.update renamed incoming outgoing)

theorem ofMailbox (expected : String) {found found' : Option Mailbox}
    (related : Option.Rel R.mailbox found found') :
    R.Resolutions (.ofMailbox expected found) (.ofMailbox expected found') := by
  cases related with
  | none => exact .noExistingAccount
  | some mailboxes =>
    obtain ⟨email, -⟩ := respects.mailbox mailboxes
    simp only [Resolution.ofMailbox, email]
    split
    · exact .retry mailboxes
    · exact .emailMismatch _ _

theorem resolve (owned : own userId) (domain localPart : String) :
    SideBySide like R.Resolutions (resolve domain userId localPart)
      (resolve domain userId localPart) := by
  refine SideBySide.bind (respects.service (.get userId) owned) ?_
  intro found found' related
  exact .done (respects.ofMailbox _ related)

theorem repair (related : R.account a b) :
    SideBySide like R.account (repair domain localPart displayName a)
      (repair domain localPart displayName b) := by
  obtain ⟨-, sameUser, owned, sameEmail, -⟩ := respects.account related
  unfold Engine.repair
  rw [sameUser, sameEmail]
  refine SideBySide.bind (respects.resolve owned domain localPart) ?_
  intro r r' resolutions
  cases resolutions with
  | retry mailboxes => exact respects.persist related mailboxes displayName
  | noExistingAccount | emailMismatch => exact .fail _

theorem recover (owned : own userId) (refusal : Fault) :
    SideBySide like R.account (recover domain userId localPart displayName refusal)
      (recover domain userId localPart displayName refusal) := by
  refine SideBySide.bind (SideBySide.mapError _ (respects.resolve owned domain localPart)) ?_
  intro r r' resolutions
  cases resolutions with
  | @retry m n mailboxes =>
    obtain ⟨sameEmail, -⟩ := respects.mailbox mailboxes
    have accounts := respects.new owned n.email
    dsimp only
    rw [sameEmail]
    exact respects.persist accounts mailboxes displayName
  | noExistingAccount | emailMismatch => exact .fail _

theorem provision (owned : own userId) :
    SideBySide like R.account (provision domain userId localPart displayName)
      (provision domain userId localPart displayName) := by
  refine SideBySide.bind (respects.tryService (.create userId localPart) owned) ?_
  intro answer answer' alike
  cases alike with
  | error failure => exact respects.recover owned failure.toFault
  | @ok m n mailboxes =>
    obtain ⟨sameEmail, -⟩ := respects.mailbox mailboxes
    have accounts := respects.new owned (Mailbox.email n)
    dsimp only
    rw [sameEmail]
    exact respects.persist accounts mailboxes displayName

/-! ## Requests -/

theorem createOrUpdate (owned : own userId) (domain localPart displayName : String) :
    SideBySide like R.account (createOrUpdate domain userId localPart displayName)
      (createOrUpdate domain userId localPart displayName) := by
  unfold Engine.createOrUpdate
  split
  · refine SideBySide.bind (respects.findByAddress owned _) ?_
    intro found found' related
    cases related with
    | none => exact respects.provision owned
    | some accounts => exact respects.repair accounts
  · exact .fail _

theorem resolveChecked (owned : own userId) (domain localPart : String) :
    SideBySide like R.Resolutions (resolveChecked domain userId localPart)
      (resolveChecked domain userId localPart) := by
  unfold Engine.resolveChecked
  split
  · exact respects.resolve owned domain localPart
  · exact .fail _

theorem resetAccountPassword (owned : own userId) (domain : String) (id : AccountId) :
    SideBySide like R.account (resetAccountPassword domain userId id)
      (resetAccountPassword domain userId id) := by
  refine SideBySide.bind (respects.requireAccount owned id) ?_
  intro a b related
  obtain ⟨-, -, -, sameEmail, incoming, outgoing⟩ := respects.account related
  have sameDomain : Address.inDomain a.email domain = Address.inDomain b.email domain := by
    rw [sameEmail]
  rw [sameDomain]
  cases Address.inDomain b.email domain with
  | false =>
    rw [sameEmail]
    exact .fail _
  | true =>
    refine SideBySide.bind (respects.service (.resetPassword userId) owned) ?_
    intro password password' issued
    refine SideBySide.bind (respects.encryptEndpoint (respects.serverOf incoming issued)) ?_
    intro inbound inbound' incoming
    refine SideBySide.bind (respects.encryptEndpoint (respects.serverOf outgoing issued)) ?_
    intro outbound outbound' outgoing
    exact respects.updateRow (respects.update related incoming outgoing)

theorem deleteMailboxAt (owned : own userId) (email : String) {found found' : Option Mailbox}
    (related : Option.Rel R.mailbox found found') :
    SideBySide like Eq (deleteMailboxAt userId email found)
      (deleteMailboxAt userId email found') := by
  cases related with
  | none => exact .done rfl
  | @some m n mailboxes =>
    obtain ⟨sameEmail, -⟩ := respects.mailbox mailboxes
    simp only [Engine.deleteMailboxAt, sameEmail]
    cases Address.same n.email email with
    | false => exact .done rfl
    | true =>
      refine SideBySide.bind (respects.tryService (.delete userId) owned) ?_
      intro answer answer' alike
      cases alike with
      | error failure => exact .done rfl
      | @ok gone gone' same =>
        cases same
        cases gone with
        | true => exact .done rfl
        | false => exact .done rfl

theorem reconcileDeletion (owned : own userId) (domain : String) (related : R.account a b) :
    SideBySide like Eq (reconcileDeletion domain userId a)
      (reconcileDeletion domain userId b) := by
  obtain ⟨-, -, -, sameEmail, -⟩ := respects.account related
  unfold Engine.reconcileDeletion
  rw [sameEmail]
  cases Address.inDomain b.email domain with
  | false => exact .done rfl
  | true =>
    refine SideBySide.bind (respects.tryService (.get userId) owned) ?_
    intro answer answer' alike
    cases alike with
    | error failure => exact .done rfl
    | ok mailboxes => exact respects.deleteMailboxAt owned b.email mailboxes

theorem deleteAccount (owned : own userId) (domain : String) (id : AccountId) :
    SideBySide like Eq (deleteAccount domain userId id) (deleteAccount domain userId id) := by
  refine SideBySide.bind (respects.requireAccount owned id) ?_
  intro a b related
  refine SideBySide.bind (respects.reconcileDeletion owned domain related) ?_
  intro outcome outcome' same
  refine SideBySide.bind (respects.deleteRow owned id) ?_
  intro gone gone' _
  exact .done same

/-- A request goes side by side with itself, to related results. -/
theorem request (domain : String) (q : Request) (owned : own q.userId) :
    SideBySide like (R.results q) (q.operation domain) (q.operation domain) := by
  cases q with
  | create userId localPart displayName =>
    exact respects.createOrUpdate owned domain localPart displayName
  | resolve userId localPart => exact respects.resolveChecked owned domain localPart
  | resetPassword userId id => exact respects.resetAccountPassword owned domain id
  | delete userId id => exact respects.deleteAccount owned domain id

end Likeness.Respects

end MailboxKeeper.Engine
