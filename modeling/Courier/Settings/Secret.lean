import Courier.Cipher.Gcm
import Courier.Digest.Sha256
import Courier.Settings.Error
import Courier.Text.Base64
import Courier.Text.Blank

/-
  Sealed values: the Base64 form of a nonce of twelve octets
  and what the cipher makes of the value.  The key of the
  cipher is the digest of a secret text.

  Key definitions include:
    * `Secret.encrypt`
    * `Secret.decrypt`
-/

------------------------------------------------------------
-- Sealing
------------------------------------------------------------

namespace Courier

namespace Secret

/- The key of the cipher, which takes a secret. -/
def key
    (secret : String) : Except SecretError Bytes :=
  if secret.isEmpty then .error .noKey
  else .ok (Sha256.digest (Bytes.ofText secret))

/- Seal a value with a nonce that was not used before. -/
def encrypt
    (plain secret : String)
    (nonce : Bytes) : Except SecretError String :=
  match key secret with
  | .error e => .error e
  | .ok k =>
      .ok
        (Base64.encode
          (nonce ++ Gcm.encrypt k nonce (Bytes.ofText plain)))

/- Open a sealed value, which may have blanks around it. -/
def decrypt
    (sealedText secret : String) : Except SecretError String :=
  match key secret with
  | .error e => .error e
  | .ok k =>
      match Base64.decode
          (Bytes.ofText (Blank.trimText sealedText)) with
      | .error fault => .error (.notBase64 fault.message)
      | .ok bytes =>
          if bytes.length ≤ Gcm.nonceLength then
            .error .tooShort
          else
            match Gcm.decrypt? k (bytes.take Gcm.nonceLength)
                (bytes.drop Gcm.nonceLength) with
            | none => .error .wrongKey
            | some plain =>
                match Utf8.decode plain with
                | .ok chars => .ok (String.ofList chars)
                | .error _ => .error .notUtf8

end Secret

end Courier
