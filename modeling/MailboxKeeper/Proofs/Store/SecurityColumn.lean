import MailboxKeeper.Proofs.Security
import MailboxKeeper.Proofs.Store.Table

/-!
# From free text to a column and back

The service describes the security of a server in free text, the account table holds its name, and
the name is read as the same security again (`StoredAs`). So a connection that is to be protected
by TLS is never made with less: not because of the letters the word is written in, nor of what
stands around it, nor because it has been stored (`mode_never_downgraded`).
-/

namespace MailboxKeeper.Store

open Security Text

variable {t t' : Table} {a b : Account}

/-- The columns hold the name of a security, and they are read as it. -/
structure StoredAs (stored : StoredEndpoint) (security : Security) : Prop where
  written : stored.security = security.name
  read : stored.toEndpoint.security = security

theorem storedAs_ofEndpoint (e : Endpoint) : StoredAs (.ofEndpoint e) e.security :=
  ⟨rfl, congrArg Endpoint.security (StoredEndpoint.toEndpoint_ofEndpoint e)⟩

/-- Whatever the table, an account that was saved or updated stands in a row under its id. In a
sound table that is the row which is found. -/
theorem exists_row_of_written (written : t.save a = .ok (b, t') ∨ t.update a = .ok (b, t')) :
    ∃ row ∈ t'.rows, b.id = some row.id ∧ row.entry = .ofAccount a ∧
      (t.Sound → t'.findById b.userId row.id = some row.toAccount) := by
  rcases written with saved | updated
  · obtain ⟨id, -, rfl, rfl⟩ := Table.of_save_eq_ok saved
    have member : ⟨id, .ofAccount a⟩ ∈ insertRow ⟨id, .ofAccount a⟩ t.rows :=
      mem_insertRow.2 (.inl rfl)
    refine ⟨_, member, rfl, rfl, fun sound => ?_⟩
    have after := sound.execute (.save a)
    rw [Table.execute, saved] at after
    exact after.findById_of_mem member
  · obtain ⟨id, named, rfl, rfl, ⟨r, there, same, -⟩, -⟩ := Table.of_update_eq_ok updated
    have member : ⟨id, .ofAccount b⟩ ∈ (t.replace id (.ofAccount b)).rows :=
      Table.mem_replace.2 (.inl ⟨rfl, r, there, same⟩)
    refine ⟨_, member, named, rfl, fun sound => ?_⟩
    have after := sound.execute (.update b)
    rw [Table.execute, updated] at after
    exact after.findById_of_mem member

/-- What a free text describes is settled by three letters in a row, in either case. So the case of
the letters does not count, and TLS stays TLS in any longer text; and from the table the endpoints
of an account are read with the security that they were written with. -/
theorem mode_never_downgraded :
    (∀ mode security, ofMode mode = security ↔ Describes mode security) ∧
      (∀ mode other, equalFold mode other = true → ofMode mode = ofMode other) ∧
      (∀ before mode after, ofMode mode = .tls → ofMode (before ++ mode ++ after) = .tls) ∧
      ∀ (t t' : Table) (a b : Account) (imap smtp : String),
        a.inbound.security = ofMode imap → a.outbound.security = ofMode smtp →
          t.save a = .ok (b, t') ∨ t.update a = .ok (b, t') →
            ∃ row ∈ t'.rows, b.id = some row.id ∧ StoredAs row.entry.inbound (ofMode imap) ∧
              StoredAs row.entry.outbound (ofMode smtp) ∧
              (t.Sound → t'.findById b.userId row.id = some row.toAccount) := by
  refine ⟨fun _ _ => ofMode_eq_iff, ?_, ?_, ?_⟩
  · intro mode other letters
    exact ofMode_eq_of_fold_eq (equalFold_iff.1 letters)
  · intro before mode after tls
    exact ofMode_eq_tls_iff.2 ((ofMode_eq_tls_iff.1 tls).append before after)
  · intro t t' a b imap smtp inbound outbound written
    obtain ⟨row, member, named, entry, found⟩ := exists_row_of_written written
    refine ⟨row, member, named, ?_, ?_, found⟩
    · rw [entry, ← inbound]
      exact storedAs_ofEndpoint a.inbound
    · rw [entry, ← outbound]
      exact storedAs_ofEndpoint a.outbound

/-- An account of Jane's, with the security that two free texts describe. -/
def describedAccount (imap smtp : String) : Account :=
  { Account.new "u1" "jane@example.com" with
    inbound := { Endpoint.blank with security := ofMode imap }
    outbound := { Endpoint.blank with security := ofMode smtp } }

/-- Words that count beside capitals with a small form of their own, in an account that is saved. -/
theorem mode_never_downgraded_jane :
    ofMode "Start-Tls" = ofMode "START-TLS" ∧ ofMode ("ΑΣ" ++ "Start-Tls" ++ "İ") = .tls ∧
      ∃ found, (Table.empty.execute (.save (describedAccount "Start-Tls" "SSLv3"))).2.findById
        "u1" ⟨1⟩ = some found ∧ found.inbound.security = .tls ∧ found.outbound.security = .ssl := by
  obtain ⟨-, letters, longer, stored⟩ := mode_never_downgraded
  have tls : ofMode "Start-Tls" = .tls := by decide +kernel
  have ssl : ofMode "SSLv3" = .ssl := by decide +kernel
  have saved := Table.Sound.empty.save_of_free (a := describedAccount "Start-Tls" "SSLv3")
    (show Table.empty.nextId? = some ⟨1⟩ by decide) nofun
  obtain ⟨row, -, named, inbound, outbound, found⟩ := stored .empty _
    (describedAccount "Start-Tls" "SSLv3") _ "Start-Tls" "SSLv3" rfl rfl (.inl saved)
  refine ⟨letters _ _ (by decide +kernel), longer _ _ _ tls, row.toAccount, ?_, ?_, ?_⟩
  · have read := found .empty
    rw [← Option.some.inj named] at read
    rw [Table.execute, saved]
    exact read
  · exact inbound.read.trans tls
  · exact outbound.read.trans ssl

end MailboxKeeper.Store
