import MailboxKeeper.Proofs.Credential.MasterKey
import Mathlib.Data.List.Nodup

/-!
# Texts encrypted one after another

A sequence of texts is encrypted under a key with one block of twelve random bytes after the other
for the nonces (`encryptAll_eq_mapIdx`). An encrypted text shows its nonce in front of the
ciphertext, so no two are the same whose nonces differ, be the texts the same or not
(`encryptWith_inj`).
-/

namespace MailboxKeeper

theorem Text.Base64.encode_inj {as bs : List UInt8} : encode as = encode bs ↔ as = bs := by
  refine ⟨fun same => ?_, fun same => by rw [same]⟩
  have decoded := decode_encodeChars as
  rw [String.ofList_inj.1 same, decode_encodeChars] at decoded
  exact (Except.ok.inj decoded).symm

namespace Credential

namespace ByteSource

variable {size : Nat}

/-- The bytes that are next, cut into blocks: the one with number `i`. -/
def block (s : ByteSource) (size i : Nat) : List UInt8 := (s.skip (size * i)).peek size

theorem block_skip (s : ByteSource) (size i : Nat) :
    (s.skip size).block size i = s.block size (i + 1) := by
  rw [block, block, skip_skip, Nat.mul_succ, Nat.add_comm]

theorem length_block (s : ByteSource) (size i : Nat) : (s.block size i).length = size :=
  length_peek _ size

end ByteSource

namespace MasterKey

open Crypto Text

variable {key : MasterKey} {source : ByteSource} {nonce nonce' : List UInt8}
  {plaintext plaintext' : String}

/-- The encrypted text consists of the format's mark and, in base64, of bytes that begin with the
nonce and are as many as the nonce, the text and a tag of sixteen bytes have together; and the key
gives the text back. -/
structure IsSealed (key : MasterKey) (nonce : List UInt8) (plaintext encrypted : String) :
    Prop where
  framed : ∃ bs, encrypted = "v1:" ++ Base64.encode bs ∧
    bs.length = 12 + (Text.bytes plaintext).length + 16 ∧ bs.take 12 = nonce
  opened : key.decrypt? encrypted = some plaintext

theorem isSealed_encryptWith (whole : nonce.length = nonceSize) :
    key.IsSealed nonce plaintext (key.encryptWith nonce plaintext) where
  framed := by
    refine ⟨nonce ++ Gcm.encrypt key.bytes nonce (Text.bytes plaintext), rfl, ?_,
      List.take_left' whole⟩
    rw [List.length_append, whole, Gcm.length_encrypt key.length_bytes whole, nonceSize,
      Nat.add_assoc]
  opened := decrypt?_encryptWith key whole plaintext

/-- Encrypted texts differ if their nonces do, or the texts. -/
theorem encryptWith_inj (whole : nonce.length = nonceSize) (whole' : nonce'.length = nonceSize) :
    key.encryptWith nonce plaintext = key.encryptWith nonce' plaintext' ↔
      nonce = nonce' ∧ plaintext = plaintext' := by
  constructor
  · intro same
    have opened := decrypt?_encryptWith key whole plaintext
    rw [same, decrypt?_encryptWith key whole' plaintext'] at opened
    have bytes := Base64.encode_inj.1 ((String.append_right_inj formatMark).1 same)
    have front := congrArg (List.take nonceSize) bytes
    rw [List.take_left' whole, List.take_left' whole'] at front
    exact ⟨front, (Option.some.inj opened).symm⟩
  · rintro ⟨rfl, rfl⟩
    rfl

theorem encryptAll_eq_mapIdx (key : MasterKey) (source : ByteSource) (texts : List String) :
    (key.encryptAll source texts).1
      = texts.mapIdx fun i => key.encryptWith (source.block nonceSize i) := by
  induction texts generalizing source with
  | nil => rfl
  | cons text texts ih =>
    have others := ih (source.skip nonceSize)
    simp only [ByteSource.block_skip] at others
    rw [List.mapIdx_cons, ← others]
    rfl

/-- The bytes of a source that texts use up. -/
theorem encryptAll_source (key : MasterKey) (source : ByteSource) (texts : List String) :
    (key.encryptAll source texts).2 = source.skip (nonceSize * texts.length) := by
  induction texts generalizing source with
  | nil => rfl
  | cons text texts ih =>
    show (key.encryptAll (source.skip nonceSize) texts).2 = _
    rw [ih, ByteSource.skip_skip, List.length_cons, Nat.mul_succ, Nat.add_comm]

/-- Each text of a sequence is sealed under the block of random bytes that has its number, and if
these blocks differ, then so do the encrypted texts, even of the same text. -/
theorem encryptAll_sealed (key : MasterKey) (source : ByteSource) (texts : List String) :
    (key.encryptAll source texts).1.length = texts.length ∧
      (key.encryptAll source texts).2 = source.skip (12 * texts.length) ∧
      (∀ i text, texts[i]? = some text → ∃ encrypted,
        (key.encryptAll source texts).1[i]? = some encrypted ∧
          key.IsSealed (source.block 12 i) text encrypted) ∧
      (((List.range texts.length).map (source.block 12)).Nodup →
        (key.encryptAll source texts).1.Nodup) := by
  have whole (i : Nat) : (source.block nonceSize i).length = nonceSize :=
    source.length_block nonceSize i
  refine ⟨?_, key.encryptAll_source source texts, ?_, ?_⟩
  · rw [encryptAll_eq_mapIdx, List.length_mapIdx]
  · intro i text given
    refine ⟨_, ?_, isSealed_encryptWith (whole i)⟩
    rw [encryptAll_eq_mapIdx, List.getElem?_mapIdx, given]
    rfl
  · intro distinct
    rw [encryptAll_eq_mapIdx, List.nodup_iff_getElem?_ne_getElem?]
    intro i j before inside same
    rw [List.length_mapIdx] at inside
    rw [List.getElem?_mapIdx, List.getElem?_mapIdx, List.getElem?_eq_getElem (by omega),
      List.getElem?_eq_getElem inside] at same
    have nonces := ((encryptWith_inj (whole i) (whole j)).1 (Option.some.inj same)).1
    have numbers := List.inj_on_of_nodup_map distinct (List.mem_range.2 (by omega))
      (List.mem_range.2 inside) nonces
    omega

def sevens : MasterKey := ⟨List.replicate 32 7, rfl⟩

/-- A source that counts, of which five bytes are used. -/
def counting : ByteSource := ⟨UInt8.ofNat, 5⟩

/-- The same text is encrypted three times. -/
theorem encryptAll_sealed_same :
    ((List.range 3).map (counting.block 12)).Nodup ∧
      (sevens.encryptAll counting ["same", "same", "same"]).1.Nodup ∧
      ∃ encrypted, (sevens.encryptAll counting ["same", "same", "same"]).1[1]? = some encrypted ∧
        sevens.IsSealed [17, 18, 19, 20, 21, 22, 23, 24, 25, 26, 27, 28] "same" encrypted := by
  have distinct : ((List.range 3).map (counting.block 12)).Nodup := by decide
  obtain ⟨-, -, seals, differ⟩ := sevens.encryptAll_sealed counting ["same", "same", "same"]
  exact ⟨distinct, differ distinct, seals 1 "same" rfl⟩

end MasterKey

end Credential

end MailboxKeeper
