import MailboxKeeper.Proofs.Text.Utf8
import MailboxKeeper.Text.Base64

/-!
# Decoding what was encoded

The symbols of a sequence of bytes are decoded to these bytes (`decode_encodeChars`). The decoder
treats the last group apart, since only that one may be padded; every group before it is read by
`decodeGroup`, and the last one symbol by symbol (`readLast`).
-/

namespace MailboxKeeper.Text.Base64

variable {a b c d : UInt8} {x y z w n offset : Nat} {rest : List UInt8} {cs : List Char}

/-! ## Symbols -/

/-- The byte of the symbol of a number. -/
def symbolByte (n : Nat) : UInt8 := UInt8.ofNat (symbol n).toNat

theorem utf8EncodeChar_symbol (small : n < 64) :
    String.utf8EncodeChar (symbol n) = [symbolByte n] := by
  have all : ∀ n : Fin 64, String.utf8EncodeChar (symbol n) = [symbolByte n] := by
    decide +kernel
  exact all ⟨n, small⟩

theorem value?_symbolByte (small : n < 64) : value? (symbolByte n) = some n := by
  have all : ∀ n : Fin 64, value? (symbolByte n) = some n.val := by decide +kernel
  exact all ⟨n, small⟩

theorem utf8_symbol_cons (small : n < 64) : utf8 (symbol n :: cs) = symbolByte n :: utf8 cs := by
  rw [utf8_cons, utf8EncodeChar_symbol small]
  rfl

theorem utf8_pad_cons (cs : List Char) : utf8 ('=' :: cs) = pad :: utf8 cs := rfl

theorem ne_pad_of_value? (value : value? b = some n) : b ≠ pad := by
  rintro rfl
  cases value

/-! ## Groups -/

theorem decodeGroup_of_values (first : value? a = some x) (second : value? b = some y)
    (third : value? c = some z) (fourth : value? d = some w) :
    decodeGroup offset a b c d = .ok
      [UInt8.ofNat ((((x * 64 + y) * 64 + z) * 64 + w) / 65536),
        UInt8.ofNat ((((x * 64 + y) * 64 + z) * 64 + w) / 256 % 256),
        UInt8.ofNat ((((x * 64 + y) * 64 + z) * 64 + w) % 256)] := by
  unfold decodeGroup valueAt
  rw [first, second, third, fourth]
  rfl

theorem readLast_symbol {symbols : List (UInt8 × Nat)} (value : value? b = some n) :
    readLast offset ⟨symbols, 0⟩ (b :: rest) = readLast offset ⟨(b, n) :: symbols, 0⟩ rest := by
  rw [readLast]
  dsimp only
  rw [if_neg (ne_pad_of_value? value), if_neg (Nat.lt_irrefl 0), value]

/-- Padding may follow two symbols. -/
theorem readLast_pad {symbols : List (UInt8 × Nat)} {paddings : Nat}
    (enough : 2 ≤ symbols.length) :
    readLast offset ⟨symbols, paddings⟩ (pad :: rest)
      = readLast offset ⟨symbols, paddings + 1⟩ rest := by
  rw [readLast]
  dsimp only
  rw [if_pos rfl, if_neg (Nat.not_lt.2 (Nat.le_add_right_of_le enough))]

theorem decodeLast_four (first : value? a = some x) (second : value? b = some y)
    (third : value? c = some z) (fourth : value? d = some w) :
    decodeLast offset [a, b, c, d] = .ok
      [UInt8.ofNat ((((x * 64 + y) * 64 + z) * 64 + w) / 65536),
        UInt8.ofNat ((((x * 64 + y) * 64 + z) * 64 + w) / 256 % 256),
        UInt8.ofNat ((((x * 64 + y) * 64 + z) * 64 + w) % 256)] := by
  have read : readLast offset ⟨[], 0⟩ [a, b, c, d]
      = .ok ⟨[(d, w), (c, z), (b, y), (a, x)], 0⟩ := by
    rw [readLast_symbol first, readLast_symbol second, readLast_symbol third,
      readLast_symbol fourth, readLast]
  simp [decodeLast, read, bind, Except.bind, pure, Except.pure]

theorem decodeLast_three (first : value? a = some x) (second : value? b = some y)
    (third : value? c = some z) (clear : ((x * 64 + y) * 64 + z) % 4 = 0) :
    decodeLast offset [a, b, c, pad] = .ok
      [UInt8.ofNat (((x * 64 + y) * 64 + z) / 1024),
        UInt8.ofNat (((x * 64 + y) * 64 + z) / 4 % 256)] := by
  have read : readLast offset ⟨[], 0⟩ [a, b, c, pad] = .ok ⟨[(c, z), (b, y), (a, x)], 1⟩ := by
    have enough : 2 ≤ [(c, z), (b, y), (a, x)].length := Nat.le_add_left 2 1
    rw [readLast_symbol first, readLast_symbol second, readLast_symbol third,
      readLast_pad enough, readLast]
  simp [decodeLast, read, clear, bind, Except.bind, pure, Except.pure]

theorem decodeLast_two (first : value? a = some x) (second : value? b = some y)
    (clear : (x * 64 + y) % 16 = 0) :
    decodeLast offset [a, b, pad, pad] = .ok [UInt8.ofNat ((x * 64 + y) / 16)] := by
  have read : readLast offset ⟨[], 0⟩ [a, b, pad, pad] = .ok ⟨[(b, y), (a, x)], 2⟩ := by
    have enough : 2 ≤ [(b, y), (a, x)].length := Nat.le_refl 2
    rw [readLast_symbol first, readLast_symbol second, readLast_pad enough, readLast_pad enough,
      readLast]
  simp [decodeLast, read, clear, bind, Except.bind, pure, Except.pure]

/-! ## All bytes -/

theorem length_encodeChars_mod (bs : List UInt8) : (encodeChars bs).length % 4 = 0 := by
  induction bs using encodeChars.induct with
  | case1 a b c rest ih =>
    simp only [encodeChars, List.length_cons]
    omega
  | case2 | case3 | case4 => simp [encodeChars]

theorem length_utf8EncodeChar_symbol (n : Nat) :
    (String.utf8EncodeChar (symbol n)).length = 1 := by
  by_cases small : n < 64
  · rw [utf8EncodeChar_symbol small]
    rfl
  · have beyond : alphabet[n]? = none := List.getElem?_eq_none (Nat.not_lt.1 small)
    rw [symbol, List.getD_eq_getElem?_getD, beyond]
    rfl

theorem length_utf8_encodeChars (bs : List UInt8) :
    (utf8 (encodeChars bs)).length = (encodeChars bs).length := by
  induction bs using encodeChars.induct with
  | case1 a b c rest ih =>
    simp only [encodeChars, utf8_cons, List.length_append, length_utf8EncodeChar_symbol,
      List.length_cons, ih]
    omega
  | case2 | case3 =>
    simp only [encodeChars, utf8_cons, List.length_append, length_utf8EncodeChar_symbol]
    rfl
  | case4 => rfl

/-- The decoder takes the groups as the encoder has made them. -/
theorem decodeGroups_encodeChars (bs : List UInt8) (offset : Nat) :
    decodeGroups offset (utf8 (encodeChars bs)) = .ok bs := by
  induction bs using encodeChars.induct generalizing offset with
  | case1 a b c rest ih =>
    obtain ⟨n, value⟩ : ∃ n, n = (a.toNat * 256 + b.toNat) * 256 + c.toNat := ⟨_, rfl⟩
    have one := a.toNat_lt
    have two := b.toNat_lt
    have three := c.toNat_lt
    have encoded : encodeChars (a :: b :: c :: rest) = symbol (n / 262144)
        :: symbol (n / 4096 % 64) :: symbol (n / 64 % 64) :: symbol (n % 64)
        :: encodeChars rest := by
      rw [value, encodeChars]
    have first : n / 262144 < 64 := by omega
    have second : n / 4096 % 64 < 64 := Nat.mod_lt _ (by decide)
    have third : n / 64 % 64 < 64 := Nat.mod_lt _ (by decide)
    have fourth : n % 64 < 64 := Nat.mod_lt _ (by decide)
    have whole : ((n / 262144 * 64 + n / 4096 % 64) * 64 + n / 64 % 64) * 64 + n % 64 = n := by
      omega
    have high : n / 65536 = a.toNat := by omega
    have middle : n / 256 % 256 = b.toNat := by omega
    have low : n % 256 = c.toNat := by omega
    rw [encoded, utf8_symbol_cons first, utf8_symbol_cons second, utf8_symbol_cons third,
      utf8_symbol_cons fourth]
    cases more : utf8 (encodeChars rest) with
    | nil =>
      have last : rest = [] := by
        have ended := ih offset
        rw [more] at ended
        cases ended
        rfl
      rw [decodeGroups, decodeLast_four (value?_symbolByte first) (value?_symbolByte second)
        (value?_symbolByte third) (value?_symbolByte fourth), whole, high, middle, low,
        UInt8.ofNat_toNat, UInt8.ofNat_toNat, UInt8.ofNat_toNat, last]
      nofun
    | cons e others =>
      have next := ih (offset + 4)
      rw [more] at next
      rw [decodeGroups, decodeGroup_of_values (value?_symbolByte first)
        (value?_symbolByte second) (value?_symbolByte third) (value?_symbolByte fourth), whole,
        high, middle, low, UInt8.ofNat_toNat, UInt8.ofNat_toNat, UInt8.ofNat_toNat, next]
      rfl
  | case2 a b =>
    obtain ⟨n, value⟩ : ∃ n, n = (a.toNat * 256 + b.toNat) * 4 := ⟨_, rfl⟩
    have one := a.toNat_lt
    have two := b.toNat_lt
    have encoded : encodeChars [a, b]
        = [symbol (n / 4096), symbol (n / 64 % 64), symbol (n % 64), '='] := by
      rw [value, encodeChars]
    have first : n / 4096 < 64 := by omega
    have second : n / 64 % 64 < 64 := Nat.mod_lt _ (by decide)
    have third : n % 64 < 64 := Nat.mod_lt _ (by decide)
    have whole : (n / 4096 * 64 + n / 64 % 64) * 64 + n % 64 = n := by omega
    have high : n / 1024 = a.toNat := by omega
    have low : n / 4 % 256 = b.toNat := by omega
    rw [encoded, utf8_symbol_cons first, utf8_symbol_cons second, utf8_symbol_cons third,
      utf8_pad_cons]
    show decodeLast offset [_, _, _, pad] = _
    rw [decodeLast_three (value?_symbolByte first) (value?_symbolByte second)
      (value?_symbolByte third) (by omega), whole, high, low, UInt8.ofNat_toNat,
      UInt8.ofNat_toNat]
  | case3 a =>
    obtain ⟨n, value⟩ : ∃ n, n = a.toNat * 16 := ⟨_, rfl⟩
    have one := a.toNat_lt
    have encoded : encodeChars [a] = [symbol (n / 64), symbol (n % 64), '=', '='] := by
      rw [value, encodeChars]
    have first : n / 64 < 64 := by omega
    have second : n % 64 < 64 := Nat.mod_lt _ (by decide)
    have whole : n / 64 * 64 + n % 64 = n := by omega
    have high : n / 16 = a.toNat := by omega
    rw [encoded, utf8_symbol_cons first, utf8_symbol_cons second, utf8_pad_cons, utf8_pad_cons]
    show decodeLast offset [_, _, pad, pad] = _
    rw [decodeLast_two (value?_symbolByte first) (value?_symbolByte second) (by omega), whole,
      high, UInt8.ofNat_toNat]
  | case4 => rfl

/-- What was encoded is decoded. -/
theorem decode_encodeChars (bs : List UInt8) : decode (utf8 (encodeChars bs)) = .ok bs := by
  have length : (utf8 (encodeChars bs)).length % 4 ≠ 1 := by
    rw [length_utf8_encodeChars, length_encodeChars_mod]
    decide
  have none : strayLast? (utf8 (encodeChars bs)) = none := if_neg length
  rw [decode, none]
  exact decodeGroups_encodeChars bs 0

end MailboxKeeper.Text.Base64
