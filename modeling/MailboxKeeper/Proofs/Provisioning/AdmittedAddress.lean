import MailboxKeeper.Proofs.Address.Grammar
import MailboxKeeper.Proofs.Provisioning.RepeatedRequest
import MailboxKeeper.Proofs.Provisioning.Wire

/-!
# The addresses that the engine is told of

The documents of the service are let through if their addresses are well-formed, and the engine is
told of an address without the blanks around it. It then goes by the domain of what it is told,
which is the very text that was checked (`Admits`). So it is for every mailbox that the service
over HTTP is heard with (`address_as_checked`).
-/

namespace MailboxKeeper.Engine

open Address Provisioning

variable {σ α β : Type} {config : Config} {send : Http.Request → σ → Http.Reply × σ}
variable {encrypt : String → σ → Except Credential.Error String × σ}
variable {userId localPart shown : String} {x : σ} {mailbox : Mailbox}

/-- The address in a document is well-formed, and the address that is told of is the same without
blanks: still well-formed, and with the domain that was checked. -/
structure Admits (shown told : String) : Prop where
  trimmed : told = Text.trim shown
  wellFormed : isWellFormed told = true
  checked : ∃ front back, splitFirstAt? (Text.trimChars shown.toList) = some (front, back) ∧
    isDottedDomain back = true ∧ domain? told = some (String.ofList back)

/-- The mailbox is that of a document which a reply of the service consists of, and its address is
admitted. -/
def IsAdmitted (send : Http.Request → σ → Http.Reply × σ) (x : σ) (mailbox : Mailbox) : Prop :=
  ∃ r status body d, (send r x).1 = .response status body ∧
    document MailboxDocument.ofJson? status body = .ok d ∧ Admits d.email mailbox.email

theorem admits_trim (wellFormed : isWellFormed shown = true) : Admits shown (Text.trim shown) := by
  obtain ⟨front, back, split, -, checked⟩ := isWellFormed_iff_parts.1 wellFormed
  refine ⟨rfl, (isWellFormed_trim shown).trans wellFormed, front, back, split, checked, ?_⟩
  rw [domain?_trim]
  exact domain?_of_splitFirstAt? split checked

theorem admits_of_ofDocument {d : MailboxDocument} (told : Mailbox.ofDocument d = .ok mailbox) :
    Admits d.email mailbox.email := by
  obtain ⟨wellFormed, email⟩ := isMailboxAt_of_ofDocument told
  rw [email]
  exact admits_trim wellFormed

/-- What is heard of an exchange has been read off a reply to it. -/
theorem read_of_outcome_eq_ok {made : Except Provisioning.Error (Exchange α)}
    {f : α → Except Failure β} {b : β}
    (heard : outcome f (StateT.run (perform (m := StateM σ) send made) x).1 = .ok b) :
    ∃ e status body a, made = .ok e ∧ (send e.request x).1 = .response status body ∧
      e.read status body = .ok a ∧ f a = .ok b := by
  cases made with
  | error error => cases heard
  | ok e =>
    cases sendable : Exchange.isSendable e.url with
    | false =>
      rw [run_perform_unsendable sendable] at heard
      cases heard
    | true =>
      rw [run_perform sendable] at heard
      dsimp only at heard
      cases reply : (send e.request x).1 with
      | noConnection =>
        rw [reply] at heard
        cases heard
      | response status body =>
        rw [reply, Exchange.ofReply] at heard
        cases read : e.read status body with
        | error error =>
          rw [read] at heard
          cases heard
        | ok a =>
          rw [read] at heard
          exact ⟨e, status, body, a, rfl, reply, read, heard⟩

/-- The mailbox that was made. -/
theorem isAdmitted_of_create
    (heard : ((overHttp config send encrypt).service (.create userId localPart) x).1
      = .ok mailbox) : IsAdmitted send x mailbox := by
  rw [service_create] at heard
  obtain ⟨e, status, body, d, made, reply, read, told⟩ := read_of_outcome_eq_ok heard
  have at_ : mailboxUrl config userId [] = .ok e.url :=
    map_url_createMailbox.symm.trans (congrArg (Except.map Exchange.url) made)
  rw [createMailbox_of_url localPart at_, Except.ok.injEq] at made
  rw [← made] at read
  dsimp only at read
  split at read
  · exact ⟨e.request, status, body, d, reply, read, admits_of_ofDocument told⟩
  · cases read

/-- The mailbox that was found. -/
theorem isAdmitted_of_get
    (heard : ((overHttp config send encrypt).service (.get userId) x).1 = .ok (some mailbox)) :
    IsAdmitted send x mailbox := by
  rw [service_get] at heard
  obtain ⟨e, status, body, found, made, reply, read, told⟩ := read_of_outcome_eq_ok heard
  have at_ : mailboxUrl config userId [] = .ok e.url :=
    map_url_getMailbox.symm.trans (congrArg (Except.map Exchange.url) made)
  rw [getMailbox_of_url at_, Except.ok.injEq] at made
  rw [← made, lookup] at read
  dsimp only at read
  cases found with
  | none => cases told
  | some d =>
    have told : Mailbox.ofDocument d = .ok mailbox := map_some_eq_ok_iff.1 told
    split at read
    · cases read
    · split at read
      · exact ⟨e.request, status, body, d, reply, map_some_eq_ok_iff.1 read,
          admits_of_ofDocument told⟩
      · cases read

/-- A well-formed address is one of the grammar, with the domain that is read behind its last `@`.
So every address that the service is heard with has the domain that was checked behind the first,
and is still well-formed without the blanks around it. -/
theorem address_as_checked :
    (∀ address, isWellFormed address = true ↔ InGrammar address) ∧
      (∀ d mailbox, Mailbox.ofDocument d = .ok mailbox → Admits d.email mailbox.email) ∧
      ∀ {σ : Type} (config : Config) (send : Http.Request → σ → Http.Reply × σ)
        (encrypt : String → σ → Except Credential.Error String × σ) (x : σ)
        (userId localPart : String) (mailbox : Mailbox),
        ((overHttp config send encrypt).service (.create userId localPart) x).1 = .ok mailbox ∨
          ((overHttp config send encrypt).service (.get userId) x).1 = .ok (some mailbox) →
            IsAdmitted send x mailbox := by
  refine ⟨fun _ => isWellFormed_iff, fun _ _ => admits_of_ofDocument, ?_⟩
  rintro σ config send encrypt x userId localPart mailbox (made | found)
  · exact isAdmitted_of_create made
  · exact isAdmitted_of_get found

/-- Jane's mailbox as the engine is told of it. -/
def janesMailboxTold : Mailbox :=
  ⟨"jane@example.com", ⟨"imap.mail.test", 993, .tls, "jane", none⟩,
    ⟨"smtp.mail.test", 465, .tls, "jane", none⟩⟩

/-- The service names Jane's address with a blank at its end. -/
theorem address_as_checked_jane :
    InGrammar "jane@example.com " ∧ Admits "jane@example.com " "jane@example.com" ∧
      ((janes "example.com ").service (.get "u1") true).1 = .ok (some janesMailboxTold) ∧
      IsAdmitted (janesServer "example.com ") true janesMailboxTold := by
  obtain ⟨grammar, documents, replies⟩ := address_as_checked
  have wellFormed : isWellFormed "jane@example.com " = true := by decide +kernel
  have described :
      Mailbox.ofDocument (janesDocument "example.com " none) = .ok janesMailboxTold := by
    decide +kernel
  have found : outcome foundMailbox (StateT.run (perform (m := StateM Bool)
      (janesServer "example.com ") (getMailbox (janesConfig "example.com ") "u1")) true).1
        = .ok (some janesMailboxTold) := by decide +kernel
  exact ⟨(grammar _).1 wellFormed, documents _ _ described, found,
    replies (janesConfig "example.com ") _ keepPlain _ "u1" "jane" _ (.inr found)⟩

end MailboxKeeper.Engine
