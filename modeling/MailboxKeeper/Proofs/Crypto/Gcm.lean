import MailboxKeeper.Crypto.Gcm

/-!
# Opening what was sealed

Counter mode adds the same key stream to a text and to its ciphertext, so all that a round trip
needs of the block cipher is that it yields enough bytes: every block and every round key has
sixteen (`length_encryptBlock`, `length_of_mem_roundKeys`). Then a sealed text is as long as the
text and a tag (`length_encrypt`), and opening it under the same key and nonce gives the text back
(`decrypt?_encrypt`).
-/

namespace MailboxKeeper.Crypto

namespace Aes

variable {as bs block key : List UInt8} {words : List (List UInt8)} {n : Nat}

theorem length_xor (as bs : List UInt8) : (xor as bs).length = min as.length bs.length :=
  List.length_zipWith

theorem length_xor_of_le (short : as.length ≤ bs.length) : (xor as bs).length = as.length := by
  rw [length_xor, Nat.min_eq_left short]

theorem length_xor_of_eq (left : as.length = n) (right : bs.length = n) :
    (xor as bs).length = n := by
  rw [length_xor, left, right, Nat.min_self]

/-- The same bytes added twice cancel out. -/
theorem xor_xor (short : as.length ≤ bs.length) : xor (xor as bs) bs = as := by
  induction as generalizing bs with
  | nil => rfl
  | cons a as ih =>
    cases bs with
    | nil => cases short
    | cons b bs =>
      have cancelled : a ^^^ b ^^^ b = a := by
        rw [UInt8.xor_assoc, UInt8.xor_self, UInt8.xor_zero]
      have rest := ih (Nat.le_of_succ_le_succ short)
      unfold xor at rest ⊢
      rw [List.zipWith_cons_cons, List.zipWith_cons_cons, cancelled, rest]

/-! ## Round keys -/

/-- A group of words of a key schedule. -/
structure IsGroup (words : List (List UInt8)) : Prop where
  count : words.length = 8
  sizes : ∀ w ∈ words, w.length = 4

theorem length_rotWord (word : List UInt8) : (rotWord word).length = word.length := by
  cases word with
  | nil => rfl
  | cons a rest => exact List.length_append

theorem length_of_mem_pieces (enough : n * count ≤ bs.length) :
    ∀ piece ∈ pieces n count bs, piece.length = n := by
  induction count generalizing bs with
  | zero => exact nofun
  | succ count ih =>
    rw [Nat.mul_succ] at enough
    refine List.forall_mem_cons.2 ⟨List.length_take_of_le (by omega), ih ?_⟩
    rw [List.length_drop]
    omega

theorem length_pieces (n count : Nat) (bs : List UInt8) : (pieces n count bs).length = count := by
  induction count generalizing bs with
  | zero => rfl
  | succ count ih => exact congrArg Nat.succ (ih _)

theorem isGroup_nextWords (constant : UInt8) (group : IsGroup words) :
    IsGroup (nextWords constant words) := by
  obtain ⟨count, sizes⟩ := group
  match words, count with
  | [w0, w1, w2, w3, w4, w5, w6, w7], _ =>
    simp only [List.forall_mem_cons] at sizes
    obtain ⟨h0, h1, h2, h3, h4, h5, h6, h7, -⟩ := sizes
    refine ⟨rfl, ?_⟩
    simp only [nextWords, List.forall_mem_cons, length_xor, List.length_map, length_rotWord,
      List.length_cons, List.length_nil, h0, h1, h2, h3, h4, h5, h6, h7, Nat.min_self, true_and]
    exact nofun

theorem IsGroup.length_flatten (group : IsGroup words) : words.flatten.length = 32 := by
  obtain ⟨count, sizes⟩ := group
  have same : words.map List.length = List.replicate 8 4 := by
    refine List.eq_replicate_iff.2 ⟨by rw [List.length_map, count], ?_⟩
    intro n member
    obtain ⟨word, there, rfl⟩ := List.mem_map.1 member
    exact sizes word there
  rw [List.length_flatten, same]
  rfl

theorem length_flatten_scheduleWords (group : IsGroup words) (constants : List UInt8) :
    (scheduleWords words constants).flatten.length = 32 * (constants.length + 1) := by
  induction constants generalizing words with
  | nil => exact group.length_flatten
  | cons constant constants ih =>
    rw [scheduleWords, List.flatten_append, List.length_append, group.length_flatten,
      ih (isGroup_nextWords constant group), List.length_cons]
    omega

theorem length_of_mem_roundKeys (whole : key.length = 32) :
    ∀ roundKey ∈ roundKeys key, roundKey.length = 16 := by
  have group : IsGroup (pieces 4 8 key) :=
    ⟨length_pieces 4 8 key, length_of_mem_pieces (Nat.le_of_eq whole.symm)⟩
  refine length_of_mem_pieces ?_
  rw [length_flatten_scheduleWords group]
  decide

/-! ## Blocks -/

theorem length_shiftRows (block : List UInt8) : (shiftRows block).length = block.length := by
  unfold shiftRows
  split <;> rfl

theorem length_mixColumns (block : List UInt8) : (mixColumns block).length = block.length := by
  induction block using mixColumns.induct with
  | case1 a b c d rest ih => simp only [mixColumns, List.length_cons, ih]
  | case2 bs other => rw [mixColumns]; exact other

theorem length_rounds {keys : List (List UInt8)} (whole : block.length = 16)
    (sizes : ∀ key ∈ keys, key.length = 16) : (rounds block keys).length = 16 := by
  induction block, keys using rounds.induct with
  | case1 block => exact whole
  | case2 block last =>
    refine length_xor_of_eq ?_ (sizes last (List.mem_singleton_self _))
    rw [length_shiftRows, List.length_map, whole]
  | case3 block key keys _ ih =>
    rw [rounds]
    · obtain ⟨size, sizes⟩ := List.forall_mem_cons.1 sizes
      refine ih (length_xor_of_eq ?_ size) sizes
      rw [length_mixColumns, length_shiftRows, List.length_map, whole]
    · assumption

theorem length_encryptBlock {keys : List (List UInt8)} (whole : block.length = 16)
    (sizes : ∀ key ∈ keys, key.length = 16) : (encryptBlock keys block).length = 16 := by
  unfold encryptBlock
  cases keys with
  | nil => exact whole
  | cons key keys =>
    obtain ⟨size, sizes⟩ := List.forall_mem_cons.1 sizes
    exact length_rounds (length_xor_of_eq whole size) sizes

end Aes

namespace Gcm

open Aes

variable {key nonce text : List UInt8} {keys : List (List UInt8)}

theorem length_bytesOfBlock (x : BitVec 128) : (bytesOfBlock x).length = 16 := by
  simp only [bytesOfBlock, List.length_map, List.length_range]

theorem length_counterBlock (whole : nonce.length = 12) (n : Nat) :
    (counterBlock nonce n).length = 16 := by
  rw [counterBlock, List.length_append, List.length_drop, length_bytesOfBlock, whole]

theorem length_keyStream (whole : nonce.length = 12) (sizes : ∀ key ∈ keys, key.length = 16)
    (count n : Nat) : (keyStream keys nonce count n).length = 16 * count := by
  induction count generalizing n with
  | zero => rfl
  | succ count ih =>
    rw [keyStream, List.length_append, length_encryptBlock (length_counterBlock whole n) sizes, ih]
    omega

/-- There is enough of the key stream for every byte of a text. -/
theorem length_le_keyStream (whole : nonce.length = 12) (sizes : ∀ key ∈ keys, key.length = 16)
    (text : List UInt8) : text.length ≤ (keyStream keys nonce (blockCount text) 2).length := by
  rw [length_keyStream whole sizes, blockCount]
  omega

theorem length_crypt (whole : nonce.length = 12) (sizes : ∀ key ∈ keys, key.length = 16)
    (text : List UInt8) : (crypt keys nonce text).length = text.length :=
  length_xor_of_le (length_le_keyStream whole sizes text)

/-- Counter mode undoes itself. -/
theorem crypt_crypt (whole : nonce.length = 12) (sizes : ∀ key ∈ keys, key.length = 16)
    (text : List UInt8) : crypt keys nonce (crypt keys nonce text) = text := by
  have same : blockCount (crypt keys nonce text) = blockCount text := by
    rw [blockCount, length_crypt whole sizes, blockCount]
  rw [crypt, same]
  exact xor_xor (length_le_keyStream whole sizes text)

theorem length_tag (whole : nonce.length = 12) (sizes : ∀ key ∈ keys, key.length = 16)
    (ciphertext : List UInt8) : (tag keys nonce ciphertext).length = 16 :=
  length_xor_of_eq (length_bytesOfBlock _)
    (length_encryptBlock (length_counterBlock whole 1) sizes)

/-- A sealed text is as long as the text and its tag. -/
theorem length_encrypt (wholeKey : key.length = 32) (whole : nonce.length = 12)
    (text : List UInt8) : (encrypt key nonce text).length = text.length + 16 := by
  have sizes := length_of_mem_roundKeys wholeKey
  rw [encrypt, List.length_append, length_crypt whole sizes, length_tag whole sizes]

/-- Under the key and the nonce that it was sealed with, a text is opened. -/
theorem decrypt?_encrypt (wholeKey : key.length = 32) (whole : nonce.length = 12)
    (text : List UInt8) : decrypt? key nonce (encrypt key nonce text) = some text := by
  have sizes := length_of_mem_roundKeys wholeKey
  have length := length_encrypt wholeKey whole text
  have front : (encrypt key nonce text).length - 16
      = (crypt (roundKeys key) nonce text).length := by
    rw [length, length_crypt whole sizes, Nat.add_sub_cancel]
  have fits : 16 ≤ (encrypt key nonce text).length := by
    rw [length]
    exact Nat.le_add_left _ _
  have ciphertext : (encrypt key nonce text).take ((encrypt key nonce text).length - 16)
      = crypt (roundKeys key) nonce text := by
    rw [front, encrypt, List.take_left]
  have tagged : (encrypt key nonce text).drop ((encrypt key nonce text).length - 16)
      = tag (roundKeys key) nonce (crypt (roundKeys key) nonce text) := by
    rw [front, encrypt, List.drop_left]
  unfold decrypt?
  dsimp only
  rw [ciphertext, if_pos ⟨fits, tagged⟩, crypt_crypt whole sizes]

end Gcm

end MailboxKeeper.Crypto
