import MailboxKeeper.Proofs.Text.Utf8
import MailboxKeeper.Url.Percent

/-!
# Undoing percent encoding

Where `%` itself is among what is encoded, every text can be read back from its encoded form
(`percentDecode?_percentEncode`), so different texts have different forms. What is encoded does not
occur in the form, the mark and capital digits aside (`notMem_percentEncode`).
-/

namespace MailboxKeeper.Url

open Text

variable {encoded : Char → Bool} {c : Char} {cs ds : List Char}

/-! ## Bytes -/

/-- The byte of a hexadecimal digit. -/
def digitByte (n : Nat) : UInt8 := UInt8.ofNat (hexDigit n).toNat

theorem hexValue?_digitByte {n : Nat} (small : n < 16) : hexValue? (digitByte n) = some n := by
  have all : ∀ n < 16, hexValue? (digitByte n) = some n := by decide
  exact all n small

theorem utf8_hexDigit {n : Nat} (small : n < 16) :
    String.utf8EncodeChar (hexDigit n) = [digitByte n] := by
  have all : ∀ n < 16, String.utf8EncodeChar (hexDigit n) = [digitByte n] := by decide
  exact all n small

theorem utf8_encodeByte (b : UInt8) :
    utf8 (encodeByte b) = [percent, digitByte (b.toNat / 16), digitByte (b.toNat % 16)] := by
  have small := b.toNat_lt
  have mark : String.utf8EncodeChar '%' = [percent] := by decide
  rw [encodeByte, utf8_cons, utf8_cons, utf8_cons, mark, utf8_hexDigit (by omega),
    utf8_hexDigit (by omega)]
  rfl

theorem percentDecodeBytes_cons {a : UInt8} (plain : a ≠ percent) (rest : List UInt8) :
    percentDecodeBytes (a :: rest) = a :: percentDecodeBytes rest := by
  match rest with
  | [] => rfl
  | [_] => rfl
  | _ :: _ :: _ => rw [percentDecodeBytes, if_neg plain]

theorem percentDecodeBytes_append {bs : List UInt8} (plain : percent ∉ bs) (rest : List UInt8) :
    percentDecodeBytes (bs ++ rest) = bs ++ percentDecodeBytes rest := by
  induction bs with
  | nil => rfl
  | cons b bs ih =>
    rw [List.mem_cons, not_or] at plain
    rw [List.cons_append, percentDecodeBytes_cons (Ne.symm plain.1), ih plain.2, List.cons_append]

theorem percentDecodeBytes_encodeByte (b : UInt8) (rest : List UInt8) :
    percentDecodeBytes (utf8 (encodeByte b) ++ rest) = b :: percentDecodeBytes rest := by
  have small := b.toNat_lt
  have value : b.toNat / 16 * 16 + b.toNat % 16 = b.toNat := by omega
  rw [utf8_encodeByte]
  simp only [List.cons_append, List.nil_append, percentDecodeBytes, if_true,
    hexValue?_digitByte (show b.toNat / 16 < 16 by omega),
    hexValue?_digitByte (show b.toNat % 16 < 16 by omega), value, UInt8.ofNat_toNat]

theorem percentDecodeBytes_encodeBytes (bs rest : List UInt8) :
    percentDecodeBytes (utf8 (bs.flatMap encodeByte) ++ rest) = bs ++ percentDecodeBytes rest := by
  induction bs with
  | nil => rfl
  | cons b bs ih =>
    rw [List.flatMap_cons, utf8_append, List.append_assoc, percentDecodeBytes_encodeByte, ih,
      List.cons_append]

/-! ## Characters -/

/-- No other character has the byte of the mark. -/
theorem percent_notMem_utf8EncodeChar (other : c ≠ '%') : percent ∉ String.utf8EncodeChar c := by
  have number : c.val.toNat ≠ 0x25 := fun same =>
    other (Char.ext (UInt32.toNat_inj.1 same))
  have apart : ∀ n, n < 256 → n ≠ 0x25 → percent ≠ UInt8.ofNat n := by
    intro n small different same
    exact different ((byte_eq_iff small percent).1 same.symm)
  unfold String.utf8EncodeChar
  dsimp only
  repeat' split
  all_goals simp only [List.mem_cons, List.not_mem_nil, or_false, not_or]
  · exact apart _ (by omega) number
  · exact ⟨apart _ (by omega) (by omega), apart _ (by omega) (by omega)⟩
  · exact ⟨apart _ (by omega) (by omega), apart _ (by omega) (by omega),
      apart _ (by omega) (by omega)⟩
  · exact ⟨apart _ (by omega) (by omega), apart _ (by omega) (by omega),
      apart _ (by omega) (by omega), apart _ (by omega) (by omega)⟩

/-- A character of the encoded form is one that need not be encoded, the mark, or a digit. -/
theorem mem_percentEncode (member : c ∈ percentEncode encoded cs) :
    c ∈ cs ∧ encoded c = false ∨ c = '%' ∨ ∃ n < 16, c = hexDigit n := by
  obtain ⟨d, inside, written⟩ := List.mem_flatMap.1 member
  unfold encodeChar at written
  split at written
  · obtain ⟨b, -, digit⟩ := List.mem_flatMap.1 written
    have small := b.toNat_lt
    simp only [encodeByte, List.mem_cons, List.not_mem_nil, or_false] at digit
    rcases digit with mark | high | low
    · exact .inr (.inl mark)
    · exact .inr (.inr ⟨_, by omega, high⟩)
    · exact .inr (.inr ⟨_, by omega, low⟩)
  · rename_i plain
    rw [List.mem_singleton] at written
    subst written
    exact .inl ⟨inside, Bool.eq_false_iff.2 plain⟩

/-- What is encoded does not occur in the encoded form, unless it is the mark or a digit. -/
theorem notMem_percentEncode (covered : encoded c = true) (other : c ≠ '%')
    (noDigit : ∀ n < 16, hexDigit n ≠ c) (cs : List Char) : c ∉ percentEncode encoded cs := by
  intro member
  rcases mem_percentEncode member with ⟨-, plain⟩ | mark | ⟨n, small, digit⟩
  · rw [covered] at plain
    cases plain
  · exact other mark
  · exact noDigit n small digit.symm

variable (marks : encoded '%' = true)

include marks

theorem percentDecodeBytes_encodeChar (c : Char) (rest : List UInt8) :
    percentDecodeBytes (utf8 (encodeChar encoded c) ++ rest)
      = String.utf8EncodeChar c ++ percentDecodeBytes rest := by
  unfold encodeChar
  split
  · exact percentDecodeBytes_encodeBytes _ rest
  · rename_i plain
    have other : c ≠ '%' := by
      rintro rfl
      exact plain marks
    have alone : utf8 [c] = String.utf8EncodeChar c := List.append_nil _
    rw [alone, percentDecodeBytes_append (percent_notMem_utf8EncodeChar other)]

theorem percentDecodeBytes_percentEncode (cs : List Char) :
    percentDecodeBytes (utf8 (percentEncode encoded cs)) = utf8 cs := by
  induction cs with
  | nil => rfl
  | cons c cs ih =>
    rw [percentEncode, List.flatMap_cons, utf8_append, percentDecodeBytes_encodeChar marks,
      ← percentEncode, ih, utf8_cons]

/-- Every text can be read back from its encoded form. -/
theorem percentDecode?_percentEncode (cs : List Char) :
    percentDecode? (percentEncode encoded cs) = some cs := by
  rw [percentDecode?, percentDecodeBytes_percentEncode marks, decodeChars?_utf8]

theorem percentEncode_inj (same : percentEncode encoded cs = percentEncode encoded ds) :
    cs = ds := by
  have read := percentDecode?_percentEncode marks cs
  rw [same, percentDecode?_percentEncode marks] at read
  exact (Option.some.inj read).symm

end MailboxKeeper.Url
