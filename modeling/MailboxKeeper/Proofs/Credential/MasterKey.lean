import MailboxKeeper.Credential.MasterKey
import MailboxKeeper.Proofs.Crypto.Gcm
import MailboxKeeper.Proofs.Text.Base64

/-!
# Encrypted texts under their key

An encrypted text holds its nonce, so the key is all that it takes to read it: whatever the nonce
of twelve bytes, `decrypt?` gives back the text that was encrypted (`decrypt?_encryptWith`), and so
it does whatever a source of random bytes has given for a nonce (`decrypt?_encrypt`).
-/

namespace MailboxKeeper

theorem Text.decode?_bytes (s : String) : Text.decode? (Text.bytes s) = some s := by
  rw [Text.decode?, Text.bytes, Text.decodeChars?_utf8]
  exact congrArg some String.ofList_toList

namespace Credential.MasterKey

open Crypto Text

variable {nonce : List UInt8}

theorem toList_encryptWith (key : MasterKey) (nonce : List UInt8) (plaintext : String) :
    (key.encryptWith nonce plaintext).toList = 'v' :: '1' :: ':'
      :: Base64.encodeChars (nonce ++ Gcm.encrypt key.bytes nonce (Text.bytes plaintext)) := by
  rw [encryptWith, String.toList_append, Base64.encode, String.toList_ofList]
  rfl

/-- What was encrypted under a key and a nonce is decrypted under that key. -/
theorem decrypt?_encryptWith (key : MasterKey) (whole : nonce.length = nonceSize)
    (plaintext : String) : key.decrypt? (key.encryptWith nonce plaintext) = some plaintext := by
  have opened := Gcm.decrypt?_encrypt key.length_bytes whole (Text.bytes plaintext)
  have front : (nonce ++ Gcm.encrypt key.bytes nonce (Text.bytes plaintext)).take nonceSize
      = nonce := List.take_left' whole
  have rest : (nonce ++ Gcm.encrypt key.bytes nonce (Text.bytes plaintext)).drop nonceSize
      = Gcm.encrypt key.bytes nonce (Text.bytes plaintext) := List.drop_left' whole
  unfold decrypt?
  rw [toList_encryptWith]
  show ((Base64.decode (utf8 (Base64.encodeChars _))).toOption.bind fun bs =>
    (Gcm.decrypt? key.bytes (bs.take nonceSize) (bs.drop nonceSize)).bind Text.decode?) = _
  rw [Base64.decode_encodeChars, Except.toOption, Option.bind_some, front, rest, opened,
    Option.bind_some, Text.decode?_bytes]

/-- Whatever bytes a source gives for the nonce, the text can be read. -/
theorem decrypt?_encrypt (key : MasterKey) (source : ByteSource) (plaintext : String) :
    key.decrypt? (key.encrypt source plaintext).1 = some plaintext :=
  decrypt?_encryptWith key (source.length_peek nonceSize) plaintext

end Credential.MasterKey

end MailboxKeeper
