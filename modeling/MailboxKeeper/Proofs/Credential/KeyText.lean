import MailboxKeeper.Credential.MasterKey
import MailboxKeeper.Proofs.Text.Base64Strict
import MailboxKeeper.Proofs.Text.Run

/-!
# The text of a master key

A key is written in one way only: a text is read as a key exactly if it is, up to blanks at its
ends, the base64 of the key (`ofBase64_eq_ok_iff`). So no text that is damaged or of another
alphabet selects a key, and no two texts select the same one.
-/

namespace MailboxKeeper

namespace Text

variable {cs : List Char} {bs : List UInt8}

theorem trimChars_of_solid (solid : ∀ c ∈ cs, isBlank c = false) : trimChars cs = cs := by
  have front : cs.dropWhile isBlank = cs :=
    dropWhile_of_stop fun c first => solid c (List.mem_of_mem_head? first)
  have back : cs.reverse.dropWhile isBlank = cs.reverse :=
    dropWhile_of_stop fun c last => solid c (List.mem_reverse.1 (List.mem_of_mem_head? last))
  rw [trimChars, front, back, List.reverse_reverse]

namespace Base64

theorem isBlank_symbol (n : Nat) : isBlank (symbol n) = false := by
  by_cases small : n < 64
  · have all : ∀ n : Fin 64, isBlank (symbol n) = false := by decide +kernel
    exact all ⟨n, small⟩
  · have beyond : alphabet[n]? = none := List.getElem?_eq_none (Nat.not_lt.1 small)
    rw [symbol, List.getD_eq_getElem?_getD, beyond]
    rfl

theorem isBlank_of_mem_encodeChars (bs : List UInt8) :
    ∀ c ∈ encodeChars bs, isBlank c = false := by
  have padding : isBlank '=' = false := by decide
  induction bs using encodeChars.induct with
  | case1 a b c rest ih =>
    simp only [encodeChars, List.forall_mem_cons, isBlank_symbol, true_and]
    exact ih
  | case2 | case3 => simp [encodeChars, isBlank_symbol, padding]
  | case4 => exact List.forall_mem_nil _

/-- There are no blanks at the ends of an encoding. -/
theorem trim_encode (bs : List UInt8) : trim (encode bs) = encode bs := by
  rw [trim, encode, String.toList_ofList, trimChars_of_solid (isBlank_of_mem_encodeChars bs)]

end Base64

end Text

namespace Credential.MasterKey

open Text

variable {text : String} {key : MasterKey}

theorem ofBytes_eq_ok_iff {bs : List UInt8} : ofBytes bs = .ok key ↔ bs = key.bytes := by
  obtain ⟨bytes, length⟩ := key
  unfold ofBytes
  split
  · rw [Except.ok.injEq, mk.injEq]
  · rename_i other
    refine iff_of_false ?_ ?_
    · intro read
      cases read
    · rintro rfl
      exact other length

/-- A text is read as a key exactly if it is the text of the key. -/
theorem ofBase64_eq_ok_iff : ofBase64 text = .ok key ↔ trim text = key.toBase64 := by
  have spelled : trim text = key.toBase64 ↔
      utf8 (trimChars text.toList) = utf8 (Base64.encodeChars key.bytes) := by
    rw [utf8_inj, trim, toBase64, Base64.encode, String.ofList_inj]
  rw [spelled, ← Base64.decode_eq_ok_iff, ofBase64]
  cases Base64.decode (utf8 (trimChars text.toList)) with
  | error e =>
    refine iff_of_false ?_ ?_
    · intro read
      cases read
    · intro decoded
      cases decoded
  | ok bs => exact ofBytes_eq_ok_iff.trans (Except.ok.injEq bs key.bytes).symm.to_iff

/-- The text of a key is read as that key. -/
theorem ofBase64_toBase64 (key : MasterKey) : ofBase64 key.toBase64 = .ok key :=
  ofBase64_eq_ok_iff.2 (Base64.trim_encode key.bytes)

/-- A text that no key has is refused as an invalid key. -/
theorem ofBase64_error (unspelled : ∀ bs, bs.length = size → trim text ≠ Base64.encode bs) :
    ∃ e, (ofBase64 text).mapError Error.invalidKey = .error (.invalidKey e) := by
  cases read : ofBase64 text with
  | error e => exact ⟨e, rfl⟩
  | ok key => exact (unspelled key.bytes key.length_bytes (ofBase64_eq_ok_iff.1 read)).elim

/-- A text selects a key if it is the base64 of thirty-two bytes, up to blanks at its ends, and then
the key of these bytes; any other text is refused. A generated key is read back with the bytes that
it was made of, and two texts that select one key differ in blanks only. -/
theorem ofBase64_exact (text other : String) (source : ByteSource) :
    (∀ key, ofBase64 text = .ok key ↔ trim text = Base64.encode key.bytes) ∧
      ((∀ bs, bs.length = 32 → trim text ≠ Base64.encode bs) →
        ∃ e, (ofBase64 text).mapError Error.invalidKey = .error (.invalidKey e)) ∧
      (∃ key, ofBase64 (generate source).1.toBase64 = .ok key ∧ key.bytes = source.peek 32) ∧
      ∀ key, ofBase64 text = .ok key → ofBase64 other = .ok key → trim text = trim other := by
  refine ⟨fun _ => ofBase64_eq_ok_iff, ofBase64_error, ⟨_, ofBase64_toBase64 _, rfl⟩, ?_⟩
  intro key read read'
  rw [ofBase64_eq_ok_iff.1 read, ofBase64_eq_ok_iff.1 read']

end Credential.MasterKey

end MailboxKeeper
