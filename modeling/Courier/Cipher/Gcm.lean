import Courier.Cipher.Aes

/-
  Authenticated encryption: AES in counter mode with a tag
  over the cipher text, nonces of twelve octets and no
  further data.

  Key definitions include:
    * `Gcm.encrypt`
    * `Gcm.decrypt?`
-/

------------------------------------------------------------
-- The Field of the Tag
------------------------------------------------------------

namespace Courier

namespace Gcm

/- A block as a number, the first octet highest. -/
def toNumber
    (block : Bytes) : Nat :=
  Bytes.toWord block

/- A number as sixteen octets. -/
def ofNumber
    (n : Nat) : Bytes :=
  (List.range 16).map fun i =>
    UInt8.ofNat (n >>> (8 * (15 - i)))

/- Multiply by `x`, with the lowest power in the top bit. -/
def times
    (v : Nat) : Nat :=
  if v % 2 = 1 then
    (v >>> 1) ^^^ (0xe1 <<< 120)
  else
    v >>> 1

/- Multiply two elements of the field. -/
def multiply
    (x y : Nat) : Nat :=
  ((List.range 128).foldl
    (fun (sum, v) i =>
      (if x.testBit (127 - i) then sum ^^^ v else sum,
        times v))
    (0, y)).1

/- The tag sum over the blocks of some bytes. -/
def hashFrom
    (key : Nat)
    (sum : Nat)
    (bytes : Bytes) : Nat :=
  if bytes.isEmpty then
    sum
  else
    let block := bytes.take 16
    let padded :=
      block ++ List.replicate (16 - block.length) 0
    hashFrom key (multiply (sum ^^^ toNumber padded) key)
      (bytes.drop 16)
  termination_by bytes.length
  decreasing_by
    cases bytes with
    | nil => simp_all
    | cons b bs =>
        simp only [List.length_drop, List.length_cons]
        omega

/- The tag sum of a cipher text with its length. -/
def hash
    (key : Nat)
    (cipherText : Bytes) : Nat :=
  multiply
    (hashFrom key 0 cipherText ^^^ (8 * cipherText.length))
    key

end Gcm

end Courier

------------------------------------------------------------
-- Counter Mode
------------------------------------------------------------

namespace Courier

namespace Gcm

/- The counter block of a nonce. -/
def counter
    (nonce : Bytes)
    (n : Nat) : Bytes :=
  nonce ++ Bytes.ofWord n

/- Add the key stream to some bytes, a block at a time. -/
def stream
    (keys : List Bytes)
    (nonce : Bytes)
    (done : List Bytes)
    (n : Nat)
    (bytes : Bytes) : Bytes :=
  if bytes.isEmpty then
    done.reverse.flatten
  else
    let pad := Aes.encryptBlock keys (counter nonce n)
    stream keys nonce (Aes.add (bytes.take 16) pad :: done)
      (n + 1) (bytes.drop 16)
  termination_by bytes.length
  decreasing_by
    cases bytes with
    | nil => simp_all
    | cons b bs =>
        simp only [List.length_drop, List.length_cons]
        omega

/- The tag of a cipher text. -/
def tag
    (keys : List Bytes)
    (nonce cipherText : Bytes) : Bytes :=
  let key :=
    toNumber (Aes.encryptBlock keys (List.replicate 16 0))
  Aes.add (ofNumber (hash key cipherText))
    (Aes.encryptBlock keys (counter nonce 1))

end Gcm

end Courier

------------------------------------------------------------
-- Sealing
------------------------------------------------------------

namespace Courier

namespace Gcm

/- The octets of a tag. -/
def tagLength : Nat := 16

/- The octets of a nonce. -/
def nonceLength : Nat := 12

/- The cipher text of some bytes, followed by its tag. -/
def encrypt
    (key nonce plain : Bytes) : Bytes :=
  let keys := Aes.expand key
  let cipherText := stream keys nonce [] 2 plain
  cipherText ++ tag keys nonce cipherText

/- The plain bytes, if the tag is right. -/
def decrypt?
    (key nonce sealed : Bytes) : Option Bytes :=
  let keys := Aes.expand key
  let length := sealed.length - tagLength
  let cipherText := sealed.take length
  if tagLength ≤ sealed.length ∧
      tag keys nonce cipherText = sealed.drop length then
    some (stream keys nonce [] 2 cipherText)
  else
    none

end Gcm

end Courier
