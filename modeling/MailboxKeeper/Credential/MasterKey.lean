import MailboxKeeper.Credential.ByteSource
import MailboxKeeper.Credential.Error
import MailboxKeeper.Crypto.Gcm
import MailboxKeeper.Text.Blank
import MailboxKeeper.Text.Utf8

/-!
# Master keys

Passwords are stored encrypted under a master key of thirty-two bytes, which is written in base64.
An encrypted text is `v1:` and the base64 of a nonce of twelve bytes, the ciphertext and its tag.
-/

namespace MailboxKeeper.Credential

open Crypto Text

/-- A key for the encryption of passwords. -/
structure MasterKey where
  bytes : List UInt8
  length_bytes : bytes.length = 32
  deriving DecidableEq

namespace MasterKey

/-- The number of bytes of a key. -/
def size : Nat := 32

/-- The number of bytes of a nonce. -/
def nonceSize : Nat := 12

/-- What every encrypted text starts with. -/
def formatMark : String := "v1:"

/-- The key with the given bytes. -/
def ofBytes (bs : List UInt8) : Except KeyError MasterKey :=
  if h : bs.length = 32 then .ok ⟨bs, h⟩ else .error (.wrongLength bs.length)

/-- The key that a text gives in base64; blanks at the ends do not count. -/
def ofBase64 (text : String) : Except KeyError MasterKey :=
  match Base64.decode (utf8 (trimChars text.toList)) with
  | .ok bs => ofBytes bs
  | .error e => .error (.notBase64 e)

/-- The key in base64. -/
def toBase64 (key : MasterKey) : String := Base64.encode key.bytes

/-- A new key, made of the next bytes of a source. -/
def generate (source : ByteSource) : MasterKey × ByteSource :=
  (⟨source.peek 32, source.length_peek 32⟩, source.skip 32)

/-- A text encrypted under a key and a nonce. -/
def encryptWith (key : MasterKey) (nonce : List UInt8) (plaintext : String) : String :=
  formatMark ++ Base64.encode (nonce ++ Gcm.encrypt key.bytes nonce (Text.bytes plaintext))

/-- A text encrypted under a key, with the next bytes of a source for a nonce. -/
def encrypt (key : MasterKey) (source : ByteSource) (plaintext : String) : String × ByteSource :=
  (key.encryptWith (source.peek nonceSize) plaintext, source.skip nonceSize)

/-- Texts encrypted in their order. -/
def encryptAll (key : MasterKey) (source : ByteSource) : List String → List String × ByteSource
  | [] => ([], source)
  | text :: texts =>
    let (first, source) := key.encrypt source text
    let (others, source) := key.encryptAll source texts
    (first :: others, source)

/-- The characters after a leading `v1:`. -/
def afterMark? : List Char → Option (List Char)
  | 'v' :: '1' :: ':' :: rest => some rest
  | _ => none

/-- The text that was encrypted under a key to `encrypted`. -/
def decrypt? (key : MasterKey) (encrypted : String) : Option String := do
  let encoded ← afterMark? encrypted.toList
  let bs ← (Base64.decode (utf8 encoded)).toOption
  let plaintext ← Gcm.decrypt? key.bytes (bs.take nonceSize) (bs.drop nonceSize)
  Text.decode? plaintext

/-- What is shown of the encryption under a key: nothing of the key. -/
def description : String := "AesGcmEncryptor \x7b .. \x7d"

end MasterKey

end MailboxKeeper.Credential
