import Courier.Digest.Blocks

/-
  The SHA-256 digest.

  Key definitions include:
    * `Sha256.digest`
-/

------------------------------------------------------------
-- Constants
------------------------------------------------------------

namespace Courier

namespace Sha256

/-
  The first thirty-two bits of the fractions of the cube
  roots of the first sixty-four primes.
-/
def cubeRoots : Array UInt32 :=
  #[0x428a2f98, 0x71374491, 0xb5c0fbcf, 0xe9b5dba5,
    0x3956c25b, 0x59f111f1, 0x923f82a4, 0xab1c5ed5,
    0xd807aa98, 0x12835b01, 0x243185be, 0x550c7dc3,
    0x72be5d74, 0x80deb1fe, 0x9bdc06a7, 0xc19bf174,
    0xe49b69c1, 0xefbe4786, 0x0fc19dc6, 0x240ca1cc,
    0x2de92c6f, 0x4a7484aa, 0x5cb0a9dc, 0x76f988da,
    0x983e5152, 0xa831c66d, 0xb00327c8, 0xbf597fc7,
    0xc6e00bf3, 0xd5a79147, 0x06ca6351, 0x14292967,
    0x27b70a85, 0x2e1b2138, 0x4d2c6dfc, 0x53380d13,
    0x650a7354, 0x766a0abb, 0x81c2c92e, 0x92722c85,
    0xa2bfe8a1, 0xa81a664b, 0xc24b8b70, 0xc76c51a3,
    0xd192e819, 0xd6990624, 0xf40e3585, 0x106aa070,
    0x19a4c116, 0x1e376c08, 0x2748774c, 0x34b0bcb5,
    0x391c0cb3, 0x4ed8aa4a, 0x5b9cca4f, 0x682e6ff3,
    0x748f82ee, 0x78a5636f, 0x84c87814, 0x8cc70208,
    0x90befffa, 0xa4506ceb, 0xbef9a3f7, 0xc67178f2]

/-
  The first thirty-two bits of the fractions of the square
  roots of the first eight primes.
-/
def squareRoots : Array UInt32 :=
  #[0x6a09e667, 0xbb67ae85, 0x3c6ef372, 0xa54ff53a,
    0x510e527f, 0x9b05688c, 0x1f83d9ab, 0x5be0cd19]

end Sha256

end Courier

------------------------------------------------------------
-- Compression
------------------------------------------------------------

namespace Courier

namespace Sha256

/- Stretch the sixteen words of a block to sixty-four. -/
def schedule
    (block : Array UInt32) : Array UInt32 :=
  (List.range 48).foldl
    (fun w i =>
      let x := w.getD (i + 1) 0
      let y := w.getD (i + 14) 0
      let s :=
        Blocks.rotateRight x 7 ^^^ Blocks.rotateRight x 18 ^^^
          (x >>> 3)
      let t :=
        Blocks.rotateRight y 17 ^^^
          Blocks.rotateRight y 19 ^^^ (y >>> 10)
      w.push (w.getD i 0 + s + w.getD (i + 9) 0 + t))
    block

/- The eight words of the running digest. -/
structure State where
  a : UInt32
  b : UInt32
  c : UInt32
  d : UInt32
  e : UInt32
  f : UInt32
  g : UInt32
  h : UInt32
deriving DecidableEq, Repr

/- The digest of nothing yet. -/
def start : State :=
  { a := squareRoots.getD 0 0
    b := squareRoots.getD 1 0
    c := squareRoots.getD 2 0
    d := squareRoots.getD 3 0
    e := squareRoots.getD 4 0
    f := squareRoots.getD 5 0
    g := squareRoots.getD 6 0
    h := squareRoots.getD 7 0 }

/- One round. -/
def round
    (words : Array UInt32)
    (s : State)
    (i : Nat) : State :=
  let big :=
    Blocks.rotateRight s.e 6 ^^^ Blocks.rotateRight s.e 11 ^^^
      Blocks.rotateRight s.e 25
  let chosen := (s.e &&& s.f) ^^^ (~~~s.e &&& s.g)
  let t :=
    s.h + big + chosen + cubeRoots.getD i 0 + words.getD i 0
  let small :=
    Blocks.rotateRight s.a 2 ^^^ Blocks.rotateRight s.a 13 ^^^
      Blocks.rotateRight s.a 22
  let most :=
    (s.a &&& s.b) ^^^ (s.a &&& s.c) ^^^ (s.b &&& s.c)
  { a := t + small + most
    b := s.a
    c := s.b
    d := s.c
    e := s.d + t
    f := s.e
    g := s.f
    h := s.g }

/- Take one block. -/
def compress
    (s : State)
    (block : Bytes) : State :=
  let words := schedule (Blocks.words Bytes.toWord block)
  let t := (List.range 64).foldl (round words) s
  { a := s.a + t.a
    b := s.b + t.b
    c := s.c + t.c
    d := s.d + t.d
    e := s.e + t.e
    f := s.f + t.f
    g := s.g + t.g
    h := s.h + t.h }

end Sha256

end Courier

------------------------------------------------------------
-- Digests
------------------------------------------------------------

namespace Courier

namespace Sha256

/- The thirty-two octets of the digest. -/
def digest
    (message : Bytes) : Bytes :=
  let padded :=
    Blocks.pad 64 message
      (Bytes.ofNumber 8 (8 * message.length))
  let s := Blocks.foldBlocks 64 compress start padded
  [s.a, s.b, s.c, s.d, s.e, s.f, s.g, s.h].flatMap fun w =>
    Bytes.ofWord w.toNat

end Sha256

end Courier
