import Courier.Bytes

/-
  Messages cut into blocks of one size, padded with one set
  bit, zeros, and the length in bits.

  Key definitions include:
    * `Blocks.pad`
    * `Blocks.foldBlocks`
    * `Blocks.words`
    * `Blocks.rotateLeft`
-/

------------------------------------------------------------
-- Padding
------------------------------------------------------------

namespace Courier

namespace Blocks

/-
  The octets of zeros in a message of some length, between
  the octet of the set bit and those of the length.
-/
def zeroCount
    (size lengthSize length : Nat) : Nat :=
  (2 * size - 1 - lengthSize - length % size) % size

/-
  A message with its padding.  The octets of its length are
  given.
-/
def pad
    (size : Nat)
    (message lengthOctets : Bytes) : Bytes :=
  let zeros :=
    zeroCount size lengthOctets.length message.length
  message ++ (128 :: List.replicate zeros 0) ++ lengthOctets

end Blocks

end Courier

------------------------------------------------------------
-- Blocks
------------------------------------------------------------

namespace Courier

namespace Blocks

/- Fold over a count of blocks. -/
def foldFrom
    {α : Type}
    (size : Nat)
    (step : α → Bytes → α)
    (state : α) : (count : Nat) → Bytes → α
  | 0, _ => state
  | count + 1, bytes =>
      foldFrom size step (step state (bytes.take size)) count
        (bytes.drop size)

/- Fold over the full blocks of a message. -/
def foldBlocks
    {α : Type}
    (size : Nat)
    (step : α → Bytes → α)
    (state : α)
    (bytes : Bytes) : α :=
  foldFrom size step state (bytes.length / size) bytes

/- The numbers in a block, each read from some octets. -/
def numbers
    (width : Nat)
    (read : Bytes → Nat)
    (block : Bytes) : List Nat :=
  (List.range 16).map fun i =>
    read ((block.drop (width * i)).take width)

/- The words of a block, each read from four octets. -/
def words
    (read : Bytes → Nat)
    (block : Bytes) : Array UInt32 :=
  ((numbers 4 read block).map UInt32.ofNat).toArray

/- Turn the bits of a word to the left. -/
def rotateLeft
    (x : UInt32)
    (n : UInt32) : UInt32 :=
  (x <<< n) ||| (x >>> (32 - n))

/- Turn the bits of a word to the right. -/
def rotateRight
    (x : UInt32)
    (n : UInt32) : UInt32 :=
  rotateLeft x (32 - n)

end Blocks

end Courier
