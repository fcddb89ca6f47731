import Courier.Digest.Blocks

/-
  The SHA-512 digest.

  Key definitions include:
    * `Sha512.digest`
-/

------------------------------------------------------------
-- Constants
------------------------------------------------------------

namespace Courier

namespace Sha512

/-
  The first sixty-four bits of the fractions of the cube
  roots of the first eighty primes.
-/
def cubeRoots : Array UInt64 :=
  #[0x428a2f98d728ae22, 0x7137449123ef65cd,
    0xb5c0fbcfec4d3b2f, 0xe9b5dba58189dbbc,
    0x3956c25bf348b538, 0x59f111f1b605d019,
    0x923f82a4af194f9b, 0xab1c5ed5da6d8118,
    0xd807aa98a3030242, 0x12835b0145706fbe,
    0x243185be4ee4b28c, 0x550c7dc3d5ffb4e2,
    0x72be5d74f27b896f, 0x80deb1fe3b1696b1,
    0x9bdc06a725c71235, 0xc19bf174cf692694,
    0xe49b69c19ef14ad2, 0xefbe4786384f25e3,
    0x0fc19dc68b8cd5b5, 0x240ca1cc77ac9c65,
    0x2de92c6f592b0275, 0x4a7484aa6ea6e483,
    0x5cb0a9dcbd41fbd4, 0x76f988da831153b5,
    0x983e5152ee66dfab, 0xa831c66d2db43210,
    0xb00327c898fb213f, 0xbf597fc7beef0ee4,
    0xc6e00bf33da88fc2, 0xd5a79147930aa725,
    0x06ca6351e003826f, 0x142929670a0e6e70,
    0x27b70a8546d22ffc, 0x2e1b21385c26c926,
    0x4d2c6dfc5ac42aed, 0x53380d139d95b3df,
    0x650a73548baf63de, 0x766a0abb3c77b2a8,
    0x81c2c92e47edaee6, 0x92722c851482353b,
    0xa2bfe8a14cf10364, 0xa81a664bbc423001,
    0xc24b8b70d0f89791, 0xc76c51a30654be30,
    0xd192e819d6ef5218, 0xd69906245565a910,
    0xf40e35855771202a, 0x106aa07032bbd1b8,
    0x19a4c116b8d2d0c8, 0x1e376c085141ab53,
    0x2748774cdf8eeb99, 0x34b0bcb5e19b48a8,
    0x391c0cb3c5c95a63, 0x4ed8aa4ae3418acb,
    0x5b9cca4f7763e373, 0x682e6ff3d6b2b8a3,
    0x748f82ee5defb2fc, 0x78a5636f43172f60,
    0x84c87814a1f0ab72, 0x8cc702081a6439ec,
    0x90befffa23631e28, 0xa4506cebde82bde9,
    0xbef9a3f7b2c67915, 0xc67178f2e372532b,
    0xca273eceea26619c, 0xd186b8c721c0c207,
    0xeada7dd6cde0eb1e, 0xf57d4f7fee6ed178,
    0x06f067aa72176fba, 0x0a637dc5a2c898a6,
    0x113f9804bef90dae, 0x1b710b35131c471b,
    0x28db77f523047d84, 0x32caab7b40c72493,
    0x3c9ebe0a15c9bebc, 0x431d67c49c100d4c,
    0x4cc5d4becb3e42b6, 0x597f299cfc657e2a,
    0x5fcb6fab3ad6faec, 0x6c44198c4a475817]

/-
  The first sixty-four bits of the fractions of the square
  roots of the first eight primes.
-/
def squareRoots : Array UInt64 :=
  #[0x6a09e667f3bcc908, 0xbb67ae8584caa73b,
    0x3c6ef372fe94f82b, 0xa54ff53a5f1d36f1,
    0x510e527fade682d1, 0x9b05688c2b3e6c1f,
    0x1f83d9abfb41bd6b, 0x5be0cd19137e2179]

end Sha512

end Courier

------------------------------------------------------------
-- Compression
------------------------------------------------------------

namespace Courier

namespace Sha512

/- Turn the bits of a word to the right. -/
def rotate
    (x n : UInt64) : UInt64 :=
  (x >>> n) ||| (x <<< (64 - n))

/- Stretch the sixteen words of a block to eighty. -/
def schedule
    (block : Array UInt64) : Array UInt64 :=
  (List.range 64).foldl
    (fun w i =>
      let x := w.getD (i + 1) 0
      let y := w.getD (i + 14) 0
      let s := rotate x 1 ^^^ rotate x 8 ^^^ (x >>> 7)
      let t := rotate y 19 ^^^ rotate y 61 ^^^ (y >>> 6)
      w.push (w.getD i 0 + s + w.getD (i + 9) 0 + t))
    block

/- The eight words of the running digest. -/
structure State where
  a : UInt64
  b : UInt64
  c : UInt64
  d : UInt64
  e : UInt64
  f : UInt64
  g : UInt64
  h : UInt64
deriving DecidableEq, Repr

/- The digest of nothing yet. -/
def start : State :=
  { a := squareRoots.getD 0 0
    b := squareRoots.getD 1 0
    c := squareRoots.getD 2 0
    d := squareRoots.getD 3 0
    e := squareRoots.getD 4 0
    f := squareRoots.getD 5 0
    g := squareRoots.getD 6 0
    h := squareRoots.getD 7 0 }

/- One round. -/
def round
    (words : Array UInt64)
    (s : State)
    (i : Nat) : State :=
  let big := rotate s.e 14 ^^^ rotate s.e 18 ^^^ rotate s.e 41
  let chosen := (s.e &&& s.f) ^^^ (~~~s.e &&& s.g)
  let t :=
    s.h + big + chosen + cubeRoots.getD i 0 + words.getD i 0
  let small :=
    rotate s.a 28 ^^^ rotate s.a 34 ^^^ rotate s.a 39
  let most :=
    (s.a &&& s.b) ^^^ (s.a &&& s.c) ^^^ (s.b &&& s.c)
  { a := t + small + most
    b := s.a
    c := s.b
    d := s.c
    e := s.d + t
    f := s.e
    g := s.f
    h := s.g }

/- Take one block. -/
def compress
    (s : State)
    (block : Bytes) : State :=
  let words :=
    schedule
      ((Blocks.numbers 8 Bytes.toWord block).map
        UInt64.ofNat).toArray
  let t := (List.range 80).foldl (round words) s
  { a := s.a + t.a
    b := s.b + t.b
    c := s.c + t.c
    d := s.d + t.d
    e := s.e + t.e
    f := s.f + t.f
    g := s.g + t.g
    h := s.h + t.h }

end Sha512

end Courier

------------------------------------------------------------
-- Digests
------------------------------------------------------------

namespace Courier

namespace Sha512

/- The sixty-four octets of the digest. -/
def digest
    (message : Bytes) : Bytes :=
  let padded :=
    Blocks.pad 128 message
      (Bytes.ofNumber 16 (8 * message.length))
  let s := Blocks.foldBlocks 128 compress start padded
  [s.a, s.b, s.c, s.d, s.e, s.f, s.g, s.h].flatMap fun w =>
    Bytes.ofNumber 8 w.toNat

end Sha512

end Courier
