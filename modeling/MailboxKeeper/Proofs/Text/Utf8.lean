import MailboxKeeper.Text.Utf8

/-!
# Reading UTF-8 back

The bytes of a text are read as that text (`decodeChars?_utf8`, `decodeMarked_utf8`), whatever the
text. The first byte of a character tells how many follow it. Of a character of three bytes or four
the second is bounded (`Seconds`): below by what fewer bytes could say, above by the surrogates and
by the last character.
-/

namespace MailboxKeeper.Text

variable {a b c d : Nat} {rest : List UInt8}

/-! ## Bytes and their numbers -/

theorem toNat_byte (small : a < 256) : (UInt8.ofNat a).toNat = a := by
  rw [UInt8.toNat_ofNat']
  exact Nat.mod_eq_of_lt small

theorem byte_eq_iff (small : a < 256) (n : UInt8) : UInt8.ofNat a = n ↔ a = n.toNat := by
  rw [← UInt8.toNat_inj, toNat_byte small]

theorem byte_lt_iff (small : a < 256) (n : UInt8) : UInt8.ofNat a < n ↔ a < n.toNat := by
  rw [UInt8.lt_iff_toNat_lt, toNat_byte small]

theorem isBetween_byte (small : a < 256) (low high : UInt8) :
    (decide (low ≤ UInt8.ofNat a) && decide (UInt8.ofNat a ≤ high)) = true
      ↔ low.toNat ≤ a ∧ a ≤ high.toNat := by
  rw [Bool.and_eq_true, decide_eq_true_eq, decide_eq_true_eq, UInt8.le_iff_toNat_le,
    UInt8.le_iff_toNat_le, toNat_byte small]

theorem isContinuation_byte (next : 0x80 ≤ b ∧ b ≤ 0xBF) :
    isContinuation (UInt8.ofNat b) = true :=
  (isBetween_byte (by omega) 0x80 0xBF).2 next

/-- The second byte that can follow the first. -/
structure Seconds (a b : Nat) : Prop where
  bounds : 0x80 ≤ b ∧ b ≤ 0xBF
  /-- Two bytes are not enough. -/
  three : a = 0xE0 → 0xA0 ≤ b
  noSurrogate : a = 0xED → b ≤ 0x9F
  /-- Three bytes are not enough. -/
  four : a = 0xF0 → 0x90 ≤ b
  inRange : a = 0xF4 → b ≤ 0x8F

theorem isSecond_byte (small : a < 256) (next : Seconds a b) :
    isSecond (UInt8.ofNat a) (UInt8.ofNat b) = true := by
  obtain ⟨⟨low, high⟩, three, noSurrogate, four, inRange⟩ := next
  unfold isSecond
  rw [isBetween_byte (show b < 256 by omega)]
  simp only [secondBounds, byte_eq_iff small, UInt8.reduceToNat]
  split
  · rename_i first
    exact ⟨three first, high⟩
  · split
    · rename_i first
      exact ⟨low, noSurrogate first⟩
    · split
      · rename_i first
        exact ⟨four first, high⟩
      · split
        · rename_i first
          exact ⟨low, inRange first⟩
        · exact ⟨low, high⟩

/-! ## The first character -/

theorem lead_one (ascii : a < 0x80) : lead (UInt8.ofNat a) rest = .char (Char.ofNat a) rest := by
  have small : a < 256 := by omega
  unfold lead
  rw [if_pos ((byte_lt_iff small 0x80).2 ascii), toNat_byte small]

theorem lead_two (first : 0xC2 ≤ a ∧ a ≤ 0xDF) (second : 0x80 ≤ b ∧ b ≤ 0xBF) :
    lead (UInt8.ofNat a) (UInt8.ofNat b :: rest)
      = .char (Char.ofNat ((a - 0xC0) * 64 + (b - 0x80))) rest := by
  have small : a < 256 := by omega
  have above : ¬UInt8.ofNat a < 0x80 := mt (byte_lt_iff small 0x80).1 (by simp; omega)
  unfold lead
  rw [if_neg above, if_pos ((isBetween_byte small 0xC2 0xDF).2 first)]
  simp only [isContinuation_byte second, if_true, toNat_byte small,
    toNat_byte (show b < 256 by omega)]

theorem lead_three (first : 0xE0 ≤ a ∧ a ≤ 0xEF) (second : Seconds a b)
    (third : 0x80 ≤ c ∧ c ≤ 0xBF) :
    lead (UInt8.ofNat a) (UInt8.ofNat b :: UInt8.ofNat c :: rest)
      = .char (Char.ofNat (((a - 0xE0) * 64 + (b - 0x80)) * 64 + (c - 0x80))) rest := by
  have small : a < 256 := by omega
  have bounds := second.bounds
  have above : ¬UInt8.ofNat a < 0x80 := mt (byte_lt_iff small 0x80).1 (by simp; omega)
  unfold lead
  rw [if_neg above, if_neg (mt (isBetween_byte small 0xC2 0xDF).1 (by simp; omega)),
    if_pos ((isBetween_byte small 0xE0 0xEF).2 first)]
  simp only [isSecond_byte small second, isContinuation_byte third, if_true, toNat_byte small,
    toNat_byte (show b < 256 by omega), toNat_byte (show c < 256 by omega)]

theorem lead_four (first : 0xF0 ≤ a ∧ a ≤ 0xF4) (second : Seconds a b)
    (third : 0x80 ≤ c ∧ c ≤ 0xBF) (fourth : 0x80 ≤ d ∧ d ≤ 0xBF) :
    lead (UInt8.ofNat a) (UInt8.ofNat b :: UInt8.ofNat c :: UInt8.ofNat d :: rest)
      = .char (Char.ofNat ((((a - 0xF0) * 64 + (b - 0x80)) * 64 + (c - 0x80)) * 64 + (d - 0x80)))
          rest := by
  have small : a < 256 := by omega
  have bounds := second.bounds
  have above : ¬UInt8.ofNat a < 0x80 := mt (byte_lt_iff small 0x80).1 (by simp; omega)
  unfold lead
  rw [if_neg above, if_neg (mt (isBetween_byte small 0xC2 0xDF).1 (by simp; omega)),
    if_neg (mt (isBetween_byte small 0xE0 0xEF).1 (by simp; omega)),
    if_pos ((isBetween_byte small 0xF0 0xF4).2 first)]
  simp only [isSecond_byte small second, isContinuation_byte third, isContinuation_byte fourth,
    if_true, toNat_byte small, toNat_byte (show b < 256 by omega),
    toNat_byte (show c < 256 by omega), toNat_byte (show d < 256 by omega)]

/-- The bytes of a character are read as that character. -/
theorem lead_utf8EncodeChar (x : Char) (rest : List UInt8) :
    ∃ b bs, String.utf8EncodeChar x = b :: bs ∧ lead b (bs ++ rest) = .char x rest := by
  have valid := x.valid
  unfold UInt32.isValidChar Nat.isValidChar at valid
  have same : ∀ n, n = x.val.toNat → Lead.char (Char.ofNat n) rest = .char x rest := by
    rintro _ rfl
    rw [← Char.toNat, Char.ofNat_toNat]
  unfold String.utf8EncodeChar
  generalize x.val.toNat = v at valid same
  dsimp only
  split
  · exact ⟨_, _, rfl, (lead_one (by omega)).trans (same _ rfl)⟩
  · split
    · refine ⟨_, _, rfl, (lead_two ?_ ?_).trans (same _ ?_)⟩ <;> omega
    · split
      · refine ⟨_, _, rfl, (lead_three ?_ ?_ ?_).trans (same _ ?_)⟩
        · omega
        · constructor <;> omega
        · omega
        · omega
      · refine ⟨_, _, rfl, (lead_four ?_ ?_ ?_ ?_).trans (same _ ?_)⟩
        · omega
        · constructor <;> omega
        · omega
        · omega
        · omega

/-! ## All characters -/

theorem utf8_cons (x : Char) (xs : List Char) :
    utf8 (x :: xs) = String.utf8EncodeChar x ++ utf8 xs := rfl

theorem utf8_append (xs ys : List Char) : utf8 (xs ++ ys) = utf8 xs ++ utf8 ys :=
  List.flatMap_append

theorem decodeChars?_utf8EncodeChar (x : Char) (rest : List UInt8) :
    decodeChars? (String.utf8EncodeChar x ++ rest) = (decodeChars? rest).map (x :: ·) := by
  obtain ⟨b, bs, bytes, first⟩ := lead_utf8EncodeChar x rest
  rw [bytes, List.cons_append, decodeChars?]
  split
  · rename_i same
    rw [first] at same
    cases same
    rfl
  · rename_i same
    rw [first] at same
    cases same

theorem decodeChars?_utf8 (xs : List Char) : decodeChars? (utf8 xs) = some xs := by
  induction xs with
  | nil => rw [utf8, List.flatMap_nil, decodeChars?]
  | cons x xs ih =>
    rw [utf8_cons, decodeChars?_utf8EncodeChar, ih]
    rfl

theorem utf8_inj {xs ys : List Char} : utf8 xs = utf8 ys ↔ xs = ys := by
  refine ⟨fun same => ?_, fun same => by rw [same]⟩
  have decoded := decodeChars?_utf8 xs
  rw [same, decodeChars?_utf8] at decoded
  exact (Option.some.inj decoded).symm

theorem decodeMarked_utf8EncodeChar (mark : List Char) (x : Char) (rest : List UInt8) :
    decodeMarked mark (String.utf8EncodeChar x ++ rest) = x :: decodeMarked mark rest := by
  obtain ⟨b, bs, bytes, first⟩ := lead_utf8EncodeChar x rest
  rw [bytes, List.cons_append, decodeMarked]
  split
  · rename_i same
    rw [first] at same
    cases same
    rfl
  · rename_i same
    rw [first] at same
    cases same

/-- Among the bytes of a text there is none to mark. -/
theorem decodeMarked_utf8 (mark xs : List Char) : decodeMarked mark (utf8 xs) = xs := by
  induction xs with
  | nil => rw [utf8, List.flatMap_nil, decodeMarked]
  | cons x xs ih => rw [utf8_cons, decodeMarked_utf8EncodeChar, ih]

end MailboxKeeper.Text
