import MailboxKeeper.Crypto.Aes

/-!
# AES-256 in Galois counter mode

`encrypt` encrypts by counter mode and appends a tag of sixteen bytes over the result; `decrypt?`
checks the tag and decrypts. Nonces have twelve bytes and there is no additional data. Blocks are
numbers of 128 bits with the first byte in front.
-/

namespace MailboxKeeper.Crypto.Gcm

open Aes

/-- A block as a number. -/
def blockOfBytes (bs : List UInt8) : BitVec 128 :=
  bs.foldl (fun n b => (n <<< 8) ||| BitVec.ofNat 128 b.toNat) 0

/-- A number as a block. -/
def bytesOfBlock (x : BitVec 128) : List UInt8 :=
  (List.range 16).map fun i => UInt8.ofNat (x >>> (8 * (15 - i))).toNat

/-- The product in the field of 2¹²⁸ elements, by the `count` last bits of `x`: `z` is what the
bits before them have contributed, and `v` the factor for the next one. -/
def multiply (x : BitVec 128) : Nat → BitVec 128 → BitVec 128 → BitVec 128
  | 0, z, _ => z
  | count + 1, z, v =>
    multiply x count (if x.getLsbD count then z ^^^ v else z)
      (if v.getLsbD 0 then (v >>> 1) ^^^ BitVec.ofNat 128 (0xE1 <<< 120) else v >>> 1)

/-- One step of the hash: the next block is added and the sum multiplied by the key. -/
def hashStep (h y : BitVec 128) (block : List UInt8) : BitVec 128 :=
  multiply (y ^^^ blockOfBytes block) 128 0 h

/-- The number of blocks that bytes fill, the last perhaps in part. -/
def blockCount (bs : List UInt8) : Nat := (bs.length + 15) / 16

/-- A block filled up with zeros. -/
def padBlock (bs : List UInt8) : List UInt8 := bs ++ List.replicate (16 - bs.length) 0

/-- The hash of a ciphertext and its length. -/
def hash (h : BitVec 128) (ciphertext : List UInt8) : BitVec 128 :=
  let blocks := (pieces 16 (blockCount ciphertext) ciphertext).map padBlock
  let lengths := bytesOfBlock (BitVec.ofNat 128 (8 * ciphertext.length))
  (blocks ++ [lengths]).foldl (hashStep h) 0

/-- The counter block with a number, for a nonce. -/
def counterBlock (nonce : List UInt8) (n : Nat) : List UInt8 :=
  nonce ++ (bytesOfBlock (BitVec.ofNat 128 (n % 4294967296))).drop 12

/-- The key stream of `count` blocks from the counter block `n` on. -/
def keyStream (keys : List (List UInt8)) (nonce : List UInt8) : Nat → Nat → List UInt8
  | 0, _ => []
  | count + 1, n =>
    encryptBlock keys (counterBlock nonce n) ++ keyStream keys nonce count (n + 1)

/-- Counter mode: the text with the key stream added. It undoes itself. -/
def crypt (keys : List (List UInt8)) (nonce text : List UInt8) : List UInt8 :=
  xor text (keyStream keys nonce (blockCount text) 2)

/-- The tag of a ciphertext. -/
def tag (keys : List (List UInt8)) (nonce ciphertext : List UInt8) : List UInt8 :=
  let h := blockOfBytes (encryptBlock keys (List.replicate 16 0))
  xor (bytesOfBlock (hash h ciphertext)) (encryptBlock keys (counterBlock nonce 1))

/-- The text encrypted under a key and nonce, with its tag. -/
def encrypt (key nonce text : List UInt8) : List UInt8 :=
  let keys := roundKeys key
  let ciphertext := crypt keys nonce text
  ciphertext ++ tag keys nonce ciphertext

/-- The text of which `sealed` is the encryption, if its tag is right. -/
def decrypt? (key nonce sealed : List UInt8) : Option (List UInt8) :=
  let keys := roundKeys key
  let length := sealed.length - 16
  let ciphertext := sealed.take length
  if 16 ≤ sealed.length ∧ sealed.drop length = tag keys nonce ciphertext then
    some (crypt keys nonce ciphertext)
  else none

end MailboxKeeper.Crypto.Gcm
