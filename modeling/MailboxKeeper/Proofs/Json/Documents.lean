import MailboxKeeper.Proofs.Json.Layout
import MailboxKeeper.Proofs.Store.Concealment
import MailboxKeeper.Provisioning.Document
import MailboxKeeper.Settings

/-!
# Documents read back

Whatever the program writes as JSON it can read: a mailbox and its parts as the service describes
them, the requests for one, an account and its parts, and the settings. Nothing is lost between
the writing and the reading (`ReadsBack`) but what is never written, the encrypted passwords of an
account.
-/

namespace MailboxKeeper

namespace Json

variable {α : Type} {j : Json} {key name : String} {read : Json → Option α} {write : α → Json}
  {default : α}

/-! ## Members of a record -/

theorem record?_object {names : List String} {members : Record}
    (known : (members.all fun m => names.contains m.1) = true)
    (distinct : Record.distinct members = true) :
    record? names (.object members) = some members := by
  have all : (members.filter fun m => names.contains m.1) = members :=
    List.filter_eq_self.2 (List.all_eq_true.1 known)
  rw [record?]
  show (if Record.distinct (members.filter _) then some _ else none) = _
  rw [all, if_pos distinct]

namespace Record

variable {r : Record}

@[simp] theorem required?_cons_self : Record.required? ((name, j) :: r) name read = read j := by
  simp [required?, get?]

@[simp] theorem required?_cons_of_ne (other : key ≠ name) :
    Record.required? ((key, j) :: r) name read = r.required? name read := by
  simp [required?, get?, other]

@[simp] theorem withDefault?_nil : Record.withDefault? [] name read default = some default := rfl

@[simp] theorem withDefault?_cons_self :
    Record.withDefault? ((name, j) :: r) name read default = read j := by
  simp [withDefault?, get?]

@[simp] theorem withDefault?_cons_of_ne (other : key ≠ name) :
    Record.withDefault? ((key, j) :: r) name read default = r.withDefault? name read default := by
  simp [withDefault?, get?, other]

@[simp] theorem optional?_eq :
    r.optional? name read = r.withDefault? name (Json.optional? read) none := rfl

end Record

/-! ## Single values -/

@[simp] theorem text?_string (s : String) : text? (.string s) = some s := rfl

@[simp] theorem bool?_bool (b : Bool) : bool? (.bool b) = some b := rfl

theorem intBetween?_int {lo hi n : Int} (low : lo ≤ n) (high : n ≤ hi) :
    intBetween? lo hi (.int n) = some n := by
  rw [int, intBetween?, Number.toInt?_ofInt, Option.filter_some, decide_eq_true low,
    decide_eq_true high]
  rfl

theorem natUpTo?_nat {hi n : Nat} (high : n ≤ hi) : natUpTo? hi (.nat n) = some n := by
  rw [natUpTo?, nat, intBetween?_int (Int.natCast_nonneg n) (Int.ofNat_le.2 high)]
  rfl

theorem optional?_orNull (written : ∀ a, read (write a) = some a) (solid : ∀ a, write a ≠ null)
    (o : Option α) : optional? read (orNull write o) = some o := by
  cases o with
  | none => rfl
  | some a =>
    rw [orNull, optional?, written]
    · rfl
    · exact solid a

@[simp] theorem optional?_orNull_string (o : Option String) :
    optional? text? (orNull .string o) = some o :=
  optional?_orNull text?_string (fun _ => nofun) o

end Json

@[simp] theorem portOfJson?_portToJson (port : UInt16) :
    portOfJson? (portToJson port) = some port := by
  have small := port.toNat_lt
  rw [portOfJson?, portToJson, Json.natUpTo?_nat (by omega)]
  show some (UInt16.ofNat port.toNat) = _
  rw [UInt16.ofNat_toNat]

/-! ## Accounts -/

@[simp] theorem AccountId.ofJson?_toJson (id : AccountId) : ofJson? id.toJson = some id := by
  have read : id.toJson.intBetween? Int64.minValue.toInt Int64.maxValue.toInt
      = some id.value.toInt := Json.intBetween?_int id.value.minValue_le_toInt id.value.toInt_le
  rw [ofJson?, read]
  show some (AccountId.mk (Int64.ofInt id.value.toInt)) = _
  rw [Int64.ofInt_toInt]

@[simp] theorem Security.ofJson?_toJson (s : Security) : ofJson? s.toJson = some s :=
  ofName?_name s

@[simp] theorem AuthMethod.ofJson?_toJson (m : AuthMethod) : ofJson? m.toJson = some m :=
  ofName?_name m

@[simp] theorem Endpoint.ofJson?_toJson (e : Endpoint) : ofJson? e.toJson = some e.concealed := by
  rw [ofJson?, toJson, Json.record?_object rfl rfl]
  simp [concealed]

theorem Account.ofJson?_toJson (a : Account) : ofJson? a.toJson = some a.concealed := by
  have id : Json.optional? AccountId.ofJson? (.orNull AccountId.toJson a.id) = some a.id :=
    Json.optional?_orNull AccountId.ofJson?_toJson (fun _ => nofun) a.id
  rw [ofJson?, toJson, Json.record?_object rfl rfl]
  simp [id, concealed]

/-! ## Documents of the service -/

namespace Provisioning

@[simp] theorem ServerDocument.ofJson?_toJson (s : ServerDocument) :
    ofJson? s.toJson = some s := by
  obtain ⟨host, port, sslMode, username, password⟩ := s
  cases password with
  | none =>
    rw [ofJson?, toJson, Json.record?_object rfl rfl]
    simp
  | some password =>
    have given : Json.optional? Json.text? (.string password) = some (some password) := rfl
    rw [ofJson?, toJson, Json.record?_object rfl rfl]
    simp [given]

theorem MailboxDocument.ofJson?_toJson (m : MailboxDocument) : ofJson? m.toJson = some m := by
  rw [ofJson?, toJson, Json.record?_object rfl rfl]
  simp

theorem PasswordDocument.ofJson?_toJson (p : PasswordDocument) : ofJson? p.toJson = some p := by
  rw [ofJson?, toJson, Json.record?_object rfl rfl]
  simp

theorem CreationDocument.ofJson?_toJson (c : CreationDocument) : ofJson? c.toJson = some c := by
  rw [ofJson?, toJson, Json.record?_object rfl rfl]
  simp

end Provisioning

/-! ## Settings -/

@[simp] theorem Settings.secondsOfJson?_nat (seconds : UInt64) :
    secondsOfJson? (.nat seconds.toNat) = some seconds := by
  have small := seconds.toNat_lt
  rw [secondsOfJson?, Json.natUpTo?_nat (Nat.le_sub_one_of_lt small)]
  show some (UInt64.ofNat seconds.toNat) = _
  rw [UInt64.ofNat_toNat]

theorem Settings.ofJson?_toJson (s : Settings) : ofJson? s.toJson = some s := by
  rw [ofJson?, toJson, Json.record?_object rfl rfl]
  simp

/-! ## All documents -/

/-- Every value, written as a text on one line or on many, is read from the text and from its bytes
as far as it is `kept`. -/
def Json.ReadsBack {α : Type} (write : α → Json) (read : Json → Option α) (kept : α → α) : Prop :=
  ∀ a, ∀ text ∈ [render (write a), renderPretty (write a)],
    (parse? text).bind read = some (kept a) ∧
      (ofBytes? (Text.bytes text)).bind read = some (kept a)

theorem Json.readsBack_of_read {α : Type} {write : α → Json} {read : Json → Option α}
    {kept : α → α} (same : ∀ a, read (write a) = some (kept a)) : ReadsBack write read kept := by
  intro a text member
  have parsed : parse? text = some (write a) := by
    simp only [List.mem_cons, List.not_mem_nil, or_false] at member
    rcases member with rfl | rfl
    · exact parse?_render (write a)
    · exact parse?_renderPretty (write a)
  rw [ofBytes?_bytes, parsed]
  exact ⟨same a, same a⟩

open Json Provisioning in
/-- All that is written is read back, but for the encrypted passwords. -/
theorem documents_read_back :
    ReadsBack MailboxDocument.toJson MailboxDocument.ofJson? id ∧
      ReadsBack ServerDocument.toJson ServerDocument.ofJson? id ∧
      ReadsBack PasswordDocument.toJson PasswordDocument.ofJson? id ∧
      ReadsBack CreationDocument.toJson CreationDocument.ofJson? id ∧
      ReadsBack Security.toJson Security.ofJson? id ∧
      ReadsBack AuthMethod.toJson AuthMethod.ofJson? id ∧
      ReadsBack AccountId.toJson AccountId.ofJson? id ∧
      ReadsBack Endpoint.toJson Endpoint.ofJson? Endpoint.concealed ∧
      ReadsBack Account.toJson Account.ofJson? Account.concealed ∧
      ReadsBack Settings.toJson Settings.ofJson? id :=
  ⟨readsBack_of_read MailboxDocument.ofJson?_toJson,
    readsBack_of_read ServerDocument.ofJson?_toJson,
    readsBack_of_read PasswordDocument.ofJson?_toJson,
    readsBack_of_read CreationDocument.ofJson?_toJson,
    readsBack_of_read Security.ofJson?_toJson, readsBack_of_read AuthMethod.ofJson?_toJson,
    readsBack_of_read AccountId.ofJson?_toJson, readsBack_of_read Endpoint.ofJson?_toJson,
    readsBack_of_read Account.ofJson?_toJson, readsBack_of_read Settings.ofJson?_toJson⟩

end MailboxKeeper
