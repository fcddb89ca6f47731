import Courier.Bytes

/-
  The AES block cipher with keys of thirty-two octets, in
  the direction that counter modes need.

  Bytes are elements of the field of 256 elements modulo
  `x ^ 8 + x ^ 4 + x ^ 3 + x + 1`.

  Key definitions include:
    * `Aes.substitute`
    * `Aes.expand`
    * `Aes.encryptBlock`
-/

------------------------------------------------------------
-- The Field
------------------------------------------------------------

namespace Courier

namespace Aes

/- Multiply by `x`. -/
def double
    (b : UInt8) : UInt8 :=
  (b <<< 1) ^^^ (if b < 128 then 0 else 0x1b)

/- Multiply, taking the bits of the second factor in turn. -/
def multiply
    (a b : UInt8) : UInt8 :=
  ((List.range 8).foldl
    (fun (sum, power) (i : Nat) =>
      (if (b >>> UInt8.ofNat i) &&& 1 = 1 then sum ^^^ power
        else sum,
        double power))
    ((0 : UInt8), a)).1

/- The inverse, which is the power 254; zero stays zero. -/
def invert
    (b : UInt8) : UInt8 :=
  let b2 := multiply b b
  let b4 := multiply b2 b2
  let b8 := multiply b4 b4
  let b16 := multiply b8 b8
  let b32 := multiply b16 b16
  let b64 := multiply b32 b32
  let b128 := multiply b64 b64
  multiply b2
    (multiply b4
      (multiply b8
        (multiply b16 (multiply b32 (multiply b64 b128)))))

/- Turn the bits of an octet to the left. -/
def rotate
    (b : UInt8)
    (n : UInt8) : UInt8 :=
  (b <<< n) ||| (b >>> (8 - n))

/- The substitution of one octet. -/
def substitution
    (b : UInt8) : UInt8 :=
  let x := invert b
  x ^^^ rotate x 1 ^^^ rotate x 2 ^^^ rotate x 3 ^^^
    rotate x 4 ^^^ 0x63

/- The substitution of every octet. -/
def table : Array UInt8 :=
  ((List.range 256).map fun n =>
    substitution (UInt8.ofNat n)).toArray

/- Look up the substitution of an octet. -/
def substitute
    (b : UInt8) : UInt8 :=
  table.getD b.toNat 0

end Aes

end Courier

------------------------------------------------------------
-- Round Keys
------------------------------------------------------------

namespace Courier

namespace Aes

/- The sum of two byte strings in the field. -/
def add
    (a b : Bytes) : Bytes :=
  List.zipWith (· ^^^ ·) a b

/- Turn the octets of a word by one place. -/
def turnWord : Bytes → Bytes
  | [] => []
  | b :: rest => rest ++ [b]

/- The word that is added to the word eight places before. -/
def mixWord
    (i : Nat)
    (word : Bytes)
    (constant : UInt8) : Bytes :=
  if i % 8 = 0 then
    add ((turnWord word).map substitute) [constant, 0, 0, 0]
  else if i % 8 = 4 then
    word.map substitute
  else
    word

/-
  The words of the round keys, the last one first, with the
  constant of the next mixed word.
-/
def expandWords
    (words : List Bytes)
    (constant : UInt8) : (i count : Nat) → List Bytes
  | _, 0 => words
  | i, count + 1 =>
      let word :=
        add (words.getD 7 [])
          (mixWord i (words.headD []) constant)
      expandWords (word :: words)
        (if i % 8 = 0 then double constant else constant)
        (i + 1) count

/- The words of a key, the last one first. -/
def keyWords
    (key : Bytes) : List Bytes :=
  ((List.range 8).map fun i =>
    (key.drop (4 * i)).take 4).reverse

/- Cut a list of words into round keys. -/
def roundKeys
    (words : List Bytes) : (count : Nat) → List Bytes
  | 0 => []
  | count + 1 =>
      (words.take 4).flatten ::
        roundKeys (words.drop 4) count

/- The fifteen round keys of a key. -/
def expand
    (key : Bytes) : List Bytes :=
  roundKeys (expandWords (keyWords key) 1 8 52).reverse 15

end Aes

end Courier

------------------------------------------------------------
-- Blocks
------------------------------------------------------------

namespace Courier

namespace Aes

/- Turn the rows of a block, which is written by columns. -/
def shiftRows
    (block : Bytes) : Bytes :=
  (List.range 16).map fun i =>
    block.getD ((i + 4 * (i % 4)) % 16) 0

/- Mix one column. -/
def mixColumn : Bytes → Bytes
  | [a, b, c, d] =>
      let all := a ^^^ b ^^^ c ^^^ d
      [a ^^^ all ^^^ double (a ^^^ b),
        b ^^^ all ^^^ double (b ^^^ c),
        c ^^^ all ^^^ double (c ^^^ d),
        d ^^^ all ^^^ double (d ^^^ a)]
  | column => column

/- Mix every column. -/
def mixColumns
    (block : Bytes) : Bytes :=
  (List.range 4).flatMap fun i =>
    mixColumn ((block.drop (4 * i)).take 4)

/- The rounds after the first key was added. -/
def rounds
    (block : Bytes) : List Bytes → Bytes
  | [] => block
  | [key] => add (shiftRows (block.map substitute)) key
  | key :: keys =>
      rounds
        (add (mixColumns (shiftRows (block.map substitute)))
          key)
        keys

/- Encrypt one block of sixteen octets. -/
def encryptBlock
    (keys : List Bytes)
    (block : Bytes) : Bytes :=
  match keys with
  | [] => block
  | key :: rest => rounds (add block key) rest

end Aes

end Courier
