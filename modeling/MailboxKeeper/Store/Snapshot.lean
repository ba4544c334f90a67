import MailboxKeeper.Account.Json
import MailboxKeeper.Json.Parser
import MailboxKeeper.Json.Printer
import MailboxKeeper.Store.Table
import MailboxKeeper.Text.Utf8

/-!
# Snapshots of the account table

A table as bytes, for a host that keeps it in a file: a JSON object with the greatest id that was
ever used and the rows. A file without content holds the table before its first row.
-/

namespace MailboxKeeper.Store

open Json (Record)

/-- A number of 64 bits as a value. -/
def wordToJson (n : Int64) : Json := .int n.toInt

/-- The number of 64 bits that a value is. -/
def wordOfJson? (j : Json) : Option Int64 :=
  (j.intBetween? Int64.minValue.toInt Int64.maxValue.toInt).map Int64.ofInt

theorem wordOfJson?_wordToJson (n : Int64) : wordOfJson? (wordToJson n) = some n := by
  have lower : Int64.minValue.toInt ≤ n.toInt := Int64.le_toInt n
  have upper : n.toInt ≤ Int64.maxValue.toInt := Int.le_of_lt_add_one (Int64.toInt_lt n)
  simp only [wordOfJson?, wordToJson, Json.int, Json.intBetween?, Json.Number.toInt?_ofInt,
    Option.filter, lower, upper, decide_true, Bool.and_self, if_true, Option.map_some,
    Int64.ofInt_toInt]

namespace StoredEndpoint

def toJson (s : StoredEndpoint) : Json :=
  .object [("host", .string s.host), ("port", wordToJson s.port), ("security", .string s.security),
    ("user", .string s.user), ("password", .string s.password)]

def ofJson? (j : Json) : Option StoredEndpoint := do
  let r ← j.record? ["host", "port", "security", "user", "password"]
  let host ← r.required? "host" Json.text?
  let port ← r.required? "port" wordOfJson?
  let security ← r.required? "security" Json.text?
  let user ← r.required? "user" Json.text?
  let password ← r.required? "password" Json.text?
  return ⟨host, port, security, user, password⟩

theorem ofJson?_toJson (s : StoredEndpoint) : ofJson? s.toJson = some s := by
  simp [toJson, ofJson?, Json.record?, Record.distinct, Record.required?, Record.get?, Json.text?,
    wordOfJson?_wordToJson]

end StoredEndpoint

namespace Row

def toJson (r : Row) : Json :=
  .object [("id", wordToJson r.id.value), ("user_id", .string r.entry.userId),
    ("display_name", .string r.entry.displayName), ("email", .string r.entry.email),
    ("auth_method", .string r.entry.authMethod), ("inbound", r.entry.inbound.toJson),
    ("outbound", r.entry.outbound.toJson)]

def ofJson? (j : Json) : Option Row := do
  let r ← j.record?
    ["id", "user_id", "display_name", "email", "auth_method", "inbound", "outbound"]
  let id ← r.required? "id" wordOfJson?
  let userId ← r.required? "user_id" Json.text?
  let displayName ← r.required? "display_name" Json.text?
  let email ← r.required? "email" Json.text?
  let authMethod ← r.required? "auth_method" Json.text?
  let inbound ← r.required? "inbound" StoredEndpoint.ofJson?
  let outbound ← r.required? "outbound" StoredEndpoint.ofJson?
  return ⟨⟨id⟩, userId, displayName, email, authMethod, inbound, outbound⟩

theorem ofJson?_toJson (r : Row) : ofJson? r.toJson = some r := by
  simp [toJson, ofJson?, Json.record?, Record.distinct, Record.required?, Record.get?, Json.text?,
    wordOfJson?_wordToJson, StoredEndpoint.ofJson?_toJson]

end Row

namespace Table

def toJson (t : Table) : Json :=
  .object [("last_id", wordToJson t.lastId), ("rows", .array (t.rows.map Row.toJson))]

/-- The rows that a value lists. -/
def rowsOfJson? : Json → Option (List Row)
  | .array items => items.mapM Row.ofJson?
  | _ => none

def ofJson? (j : Json) : Option Table := do
  let r ← j.record? ["last_id", "rows"]
  let lastId ← r.required? "last_id" wordOfJson?
  let rows ← r.required? "rows" rowsOfJson?
  return ⟨rows, lastId⟩

theorem rowsOfJson?_map (rows : List Row) :
    rowsOfJson? (.array (rows.map Row.toJson)) = some rows := by
  induction rows with
  | nil => rfl
  | cons r rs ih =>
    simp only [rowsOfJson?] at ih
    simp [rowsOfJson?, ih, Row.ofJson?_toJson]

theorem ofJson?_toJson (t : Table) : ofJson? t.toJson = some t := by
  simp [toJson, ofJson?, Json.record?, Record.distinct, Record.required?, Record.get?,
    wordOfJson?_wordToJson, rowsOfJson?_map]

/-- The bytes that a table is kept as. -/
def snapshot (t : Table) : List UInt8 := Text.bytes t.toJson.render

/-- The table that is kept as some bytes. -/
def ofSnapshot? (content : List UInt8) : Option Table :=
  if content.isEmpty then some empty
  else (Text.decode? content).bind fun text => (Json.parse? text).bind ofJson?

end Table

end MailboxKeeper.Store
