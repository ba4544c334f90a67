import MailboxKeeper.Proofs.Text.Base64

/-!
# Only encodings are decoded

What is decoded to a sequence of bytes is the encoding of that sequence and nothing else
(`decode_eq_ok_iff`). Each part of the decoder accepts only what the encoder makes of the bytes it
yields: a full group, and the last group with two, three or four symbols. What the decoder has read
of the last group is still in the `LastGroup` (`readLast_consumed`), so nothing is passed over.
-/

namespace MailboxKeeper.Text.Base64

variable {a b c d : UInt8} {x y z w n offset : Nat} {bs out rest : List UInt8}

/-! ## Symbols -/

/-- A byte with a number is the symbol of that number. -/
theorem of_value?_eq_some (value : value? b = some n) : n < 64 ∧ symbolByte n = b := by
  have all : ∀ k : Fin 256, (value? (UInt8.ofNat k)).all fun n =>
      decide (n < 64) && symbolByte n == UInt8.ofNat k := by
    decide +kernel
  have this := all ⟨b.toNat, b.toNat_lt⟩
  rw [UInt8.ofNat_toNat, value, Option.all_some, Bool.and_eq_true, decide_eq_true_eq,
    beq_iff_eq] at this
  exact this

theorem of_valueAt_eq_ok (read : valueAt offset b = .ok n) : value? b = some n := by
  unfold valueAt at read
  split at read
  · rename_i v value
    cases read
    exact value
  · cases read

/-! ## What the encoder makes of a group -/

theorem utf8_encodeChars_three (first : value? a = some x) (second : value? b = some y)
    (third : value? c = some z) (fourth : value? d = some w) (more : List UInt8) :
    utf8 (encodeChars (UInt8.ofNat ((((x * 64 + y) * 64 + z) * 64 + w) / 65536)
        :: UInt8.ofNat ((((x * 64 + y) * 64 + z) * 64 + w) / 256 % 256)
        :: UInt8.ofNat ((((x * 64 + y) * 64 + z) * 64 + w) % 256) :: more))
      = a :: b :: c :: d :: utf8 (encodeChars more) := by
  obtain ⟨small, rfl⟩ := of_value?_eq_some first
  obtain ⟨small₂, rfl⟩ := of_value?_eq_some second
  obtain ⟨small₃, rfl⟩ := of_value?_eq_some third
  obtain ⟨small₄, rfl⟩ := of_value?_eq_some fourth
  obtain ⟨n, value⟩ : ∃ n, n = ((x * 64 + y) * 64 + z) * 64 + w := ⟨_, rfl⟩
  rw [← value, encodeChars, toNat_byte (by omega), toNat_byte (by omega), toNat_byte (by omega)]
  have whole : (n / 65536 * 256 + n / 256 % 256) * 256 + n % 256 = n := by omega
  have one : n / 262144 = x := by omega
  have two : n / 4096 % 64 = y := by omega
  have three : n / 64 % 64 = z := by omega
  have four : n % 64 = w := by omega
  rw [whole, one, two, three, four, utf8_symbol_cons small, utf8_symbol_cons small₂,
    utf8_symbol_cons small₃, utf8_symbol_cons small₄]

theorem utf8_encodeChars_two (first : value? a = some x) (second : value? b = some y)
    (third : value? c = some z) (clear : ((x * 64 + y) * 64 + z) % 4 = 0) :
    utf8 (encodeChars [UInt8.ofNat (((x * 64 + y) * 64 + z) / 1024),
      UInt8.ofNat (((x * 64 + y) * 64 + z) / 4 % 256)]) = [a, b, c, pad] := by
  obtain ⟨small, rfl⟩ := of_value?_eq_some first
  obtain ⟨small₂, rfl⟩ := of_value?_eq_some second
  obtain ⟨small₃, rfl⟩ := of_value?_eq_some third
  obtain ⟨n, value⟩ : ∃ n, n = (x * 64 + y) * 64 + z := ⟨_, rfl⟩
  rw [← value] at clear ⊢
  rw [encodeChars, toNat_byte (by omega), toNat_byte (by omega)]
  have whole : (n / 1024 * 256 + n / 4 % 256) * 4 = n := by omega
  have one : n / 4096 = x := by omega
  have two : n / 64 % 64 = y := by omega
  have three : n % 64 = z := by omega
  rw [whole, one, two, three, utf8_symbol_cons small, utf8_symbol_cons small₂,
    utf8_symbol_cons small₃]
  rfl

theorem utf8_encodeChars_one (first : value? a = some x) (second : value? b = some y)
    (clear : (x * 64 + y) % 16 = 0) :
    utf8 (encodeChars [UInt8.ofNat ((x * 64 + y) / 16)]) = [a, b, pad, pad] := by
  obtain ⟨small, rfl⟩ := of_value?_eq_some first
  obtain ⟨small₂, rfl⟩ := of_value?_eq_some second
  obtain ⟨n, value⟩ : ∃ n, n = x * 64 + y := ⟨_, rfl⟩
  rw [← value] at clear ⊢
  rw [encodeChars, toNat_byte (by omega)]
  have whole : n / 16 * 16 = n := by omega
  have one : n / 64 = x := by omega
  have two : n % 64 = y := by omega
  rw [whole, one, two, utf8_symbol_cons small, utf8_symbol_cons small₂]
  rfl

/-! ## Groups -/

/-- A computation that succeeds has succeeded in both of its parts. -/
theorem of_bind_eq_ok {ε α β : Type} {first : Except ε α} {next : α → Except ε β} {result : β}
    (done : first >>= next = .ok result) :
    ∃ value, first = .ok value ∧ next value = .ok result := by
  cases first with
  | error e => cases done
  | ok value => exact ⟨value, rfl, done⟩

theorem of_decodeGroup_eq_ok (decoded : decodeGroup offset a b c d = .ok out)
    (more : List UInt8) :
    utf8 (encodeChars (out ++ more)) = a :: b :: c :: d :: utf8 (encodeChars more) := by
  obtain ⟨x, first, decoded⟩ := of_bind_eq_ok decoded
  obtain ⟨y, second, decoded⟩ := of_bind_eq_ok decoded
  obtain ⟨z, third, decoded⟩ := of_bind_eq_ok decoded
  obtain ⟨w, fourth, decoded⟩ := of_bind_eq_ok decoded
  cases decoded
  exact utf8_encodeChars_three (of_valueAt_eq_ok first) (of_valueAt_eq_ok second)
    (of_valueAt_eq_ok third) (of_valueAt_eq_ok fourth) more

/-- The bytes that a last group was read from. -/
def LastGroup.bytes (group : LastGroup) : List UInt8 :=
  (group.symbols.map Prod.fst).reverse ++ List.replicate group.paddings pad

/-- The symbols go by their numbers. -/
def LastGroup.Valued (group : LastGroup) : Prop := ∀ s ∈ group.symbols, value? s.1 = some s.2

/-- Of the last group nothing is lost that was read, and nothing is put in. -/
theorem readLast_consumed (read : LastGroup) {group : LastGroup} (valued : read.Valued)
    (done : readLast offset read bs = .ok group) :
    group.bytes = read.bytes ++ bs ∧ group.Valued := by
  induction bs generalizing read with
  | nil =>
    cases done
    exact ⟨(List.append_nil _).symm, valued⟩
  | cons b rest ih =>
    rw [readLast] at done
    split at done
    · rename_i padding
      split at done
      · cases done
      · obtain ⟨same, valued'⟩ := ih ⟨read.symbols, read.paddings + 1⟩ valued done
        refine ⟨?_, valued'⟩
        rw [same, LastGroup.bytes, LastGroup.bytes, List.replicate_succ', padding]
        simp only [List.append_assoc, List.singleton_append]
    · split at done
      · cases done
      · rename_i unpadded
        split at done
        · rename_i v value
          have none : read.paddings = 0 := Nat.eq_zero_of_not_pos unpadded
          obtain ⟨same, valued'⟩ := ih ⟨(b, v) :: read.symbols, read.paddings⟩
            (List.forall_mem_cons.2 ⟨value, valued⟩) done
          refine ⟨?_, valued'⟩
          rw [same, LastGroup.bytes, LastGroup.bytes, none]
          simp only [List.map_cons, List.reverse_cons, List.replicate_zero, List.append_nil,
            List.append_assoc, List.singleton_append]
        · cases done

/-- A last group of four bytes, of which two at least are symbols. -/
inductive LastGroup.Complete : LastGroup → Prop where
  | two {s₁ s₂ : UInt8} {n₁ n₂ : Nat} (first : value? s₁ = some n₁)
      (second : value? s₂ = some n₂) : Complete ⟨[(s₂, n₂), (s₁, n₁)], 2⟩
  | three {s₁ s₂ s₃ : UInt8} {n₁ n₂ n₃ : Nat} (first : value? s₁ = some n₁)
      (second : value? s₂ = some n₂) (third : value? s₃ = some n₃) :
      Complete ⟨[(s₃, n₃), (s₂, n₂), (s₁, n₁)], 1⟩
  | four {s₁ s₂ s₃ s₄ : UInt8} {n₁ n₂ n₃ n₄ : Nat} (first : value? s₁ = some n₁)
      (second : value? s₂ = some n₂) (third : value? s₃ = some n₃)
      (fourth : value? s₄ = some n₄) :
      Complete ⟨[(s₄, n₄), (s₃, n₃), (s₂, n₂), (s₁, n₁)], 0⟩

theorem LastGroup.complete_of_length {symbols : List (UInt8 × Nat)} {paddings : Nat}
    (valued : Valued ⟨symbols, paddings⟩) (enough : 2 ≤ symbols.length)
    (whole : symbols.length + paddings = 4) : Complete ⟨symbols, paddings⟩ := by
  replace valued : ∀ s ∈ symbols, value? s.1 = some s.2 := valued
  rcases symbols with _ | ⟨p, _ | ⟨q, _ | ⟨r, _ | ⟨s, _ | ⟨t, more⟩⟩⟩⟩⟩
  · exact absurd enough (Nat.not_succ_le_zero 1)
  · exact absurd enough (Nat.not_succ_le_self 1)
  · obtain rfl : paddings = 2 := Nat.add_left_cancel whole
    simp only [List.forall_mem_cons] at valued
    exact .two valued.2.1 valued.1
  · obtain rfl : paddings = 1 := Nat.add_left_cancel whole
    simp only [List.forall_mem_cons] at valued
    exact .three valued.2.2.1 valued.2.1 valued.1
  · obtain rfl : paddings = 0 := Nat.add_left_cancel whole
    simp only [List.forall_mem_cons] at valued
    exact .four valued.2.2.2.1 valued.2.2.1 valued.2.1 valued.1
  · simp only [List.length_cons] at whole
    omega

/-- A last group of four bytes at most is one that the encoder makes. -/
theorem of_decodeLast_eq_ok (short : bs.length ≤ 4) (decoded : decodeLast offset bs = .ok out) :
    bs = utf8 (encodeChars out) := by
  by_cases empty : bs.isEmpty
  · rw [decodeLast, if_pos empty] at decoded
    cases decoded
    exact List.isEmpty_iff.1 empty
  · rw [decodeLast, if_neg empty] at decoded
    obtain ⟨⟨symbols, paddings⟩, done, decoded⟩ := of_bind_eq_ok decoded
    obtain ⟨same, valued⟩ := readLast_consumed ⟨[], 0⟩ (List.forall_mem_nil _) done
    replace same : (symbols.map Prod.fst).reverse ++ List.replicate paddings pad = bs := same
    have length : symbols.length + paddings = bs.length := by
      rw [← same, List.length_append, List.length_reverse, List.length_map, List.length_replicate]
    -- The decoder asks for two symbols, and for groups that are full with their paddings.
    by_cases few : symbols.length < 2
    · rw [if_pos few] at decoded
      cases decoded
    rw [if_neg few] at decoded
    by_cases whole : (paddings + symbols.length) % 4 = 0
    · rw [if_neg (absurd whole)] at decoded
      have four : symbols.length + paddings = 4 := by omega
      rw [← same]
      cases LastGroup.complete_of_length valued (Nat.not_lt.1 few) four with
      | two first second =>
        dsimp only at decoded
        split at decoded
        · cases decoded
        · rename_i clear
          cases decoded
          exact (utf8_encodeChars_one first second (Decidable.not_not.1 clear)).symm
      | three first second third =>
        dsimp only at decoded
        split at decoded
        · cases decoded
        · rename_i clear
          cases decoded
          exact (utf8_encodeChars_two first second third (Decidable.not_not.1 clear)).symm
      | four first second third fourth =>
        cases decoded
        exact (utf8_encodeChars_three first second third fourth []).symm
    · rw [if_pos whole] at decoded
      cases decoded

/-! ## All bytes -/

theorem of_decodeGroups_eq_ok (decoded : decodeGroups offset bs = .ok out) :
    bs = utf8 (encodeChars out) := by
  induction offset, bs using decodeGroups.induct generalizing out with
  | case1 offset a b c d e rest ih =>
    obtain ⟨group, first, decoded⟩ := of_bind_eq_ok decoded
    obtain ⟨others, next, decoded⟩ := of_bind_eq_ok decoded
    cases decoded
    rw [of_decodeGroup_eq_ok first, ← ih next]
  | case2 offset bs last =>
    have short : bs.length ≤ 4 := by
      match bs, last with
      | [], _ | [_], _ | [_, _], _ | [_, _, _], _ | [_, _, _, _], _ => simp
      | a :: b :: c :: d :: e :: rest, last => exact (last a b c d e rest rfl).elim
    rw [decodeGroups] at decoded
    · exact of_decodeLast_eq_ok short decoded
    · exact last

/-- A sequence of bytes is decoded to another exactly if it is the encoding of that. -/
theorem decode_eq_ok_iff : decode bs = .ok out ↔ bs = utf8 (encodeChars out) := by
  constructor
  · intro decoded
    unfold decode at decoded
    split at decoded
    · cases decoded
    · exact of_decodeGroups_eq_ok decoded
  · rintro rfl
    exact decode_encodeChars out

end MailboxKeeper.Text.Base64
