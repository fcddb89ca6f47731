import Courier.Text.Split
import Courier.Text.Utf8

/-
  Names and values as they are written into the query of a
  request: pairs between ampersands, a name and a value with
  an equals sign between them.

  A space is written as a plus sign, and an octet that is no
  letter, digit or one of four marks as a percent sign and
  two digits.  Reading keeps a percent sign that has no two
  digits after it.

  Key definitions include:
    * `Form.encode`
    * `Form.decode`
    * `Form.value?`
-/

------------------------------------------------------------
-- Writing
------------------------------------------------------------

namespace Courier

namespace Form

/- The octet stands for itself. -/
def isPlain
    (b : UInt8) : Bool :=
  let c := Char.ofNat b.toNat
  b < 128 && (c.isAlphanum || ['*', '-', '.', '_'].contains c)

/- The digit of a value below sixteen. -/
def digit
    (n : Nat) : Char :=
  Char.ofNat (if n < 10 then 48 + n else 55 + n)

/- What is written for an octet. -/
def escapeByte
    (b : UInt8) : List Char :=
  if b = 32 then ['+']
  else if isPlain b then [Char.ofNat b.toNat]
  else ['%', digit (b.toNat / 16), digit (b.toNat % 16)]

/- What is written for a name or a value. -/
def escape
    (text : String) : List Char :=
  (Utf8.encode text.toList).flatMap escapeByte

/- What is written for a pair. -/
def encodePair
    (pair : String × String) : List Char :=
  escape pair.1 ++ '=' :: escape pair.2

/- What is written for some pairs. -/
def encode
    (pairs : List (String × String)) : String :=
  String.ofList (['&'].intercalate (pairs.map encodePair))

end Form

end Courier

------------------------------------------------------------
-- Reading
------------------------------------------------------------

namespace Courier

namespace Form

/- The octets that are written as some characters. -/
def unescape : List Char → Bytes
  | [] => []
  | '%' :: high :: low :: rest =>
      match Bytes.hexValue? high, Bytes.hexValue? low with
      | some h, some l =>
          UInt8.ofNat (h * 16 + l) :: unescape rest
      | _, _ => 37 :: unescape (high :: low :: rest)
  | c :: rest =>
      (if c = '+' then [32] else String.utf8EncodeChar c) ++
        unescape rest

/- The text that is written as some characters. -/
def decodeText
    (chars : List Char) : String :=
  String.ofList (Utf8.decodeLossy (unescape chars))

/- The pair in a piece, whose value may be missing. -/
def decodePair
    (piece : List Char) : String × String :=
  match Split.cut? '=' piece with
  | some (name, value) => (decodeText name, decodeText value)
  | none => (decodeText piece, "")

/- The pairs of a query. -/
def decode
    (query : List Char) : List (String × String) :=
  ((Split.pieces '&' query).filter (!·.isEmpty)).map
    decodePair

/- The last value of a name. -/
def value?
    (pairs : List (String × String))
    (name : String) : Option String :=
  pairs.reverse.lookup name

end Form

end Courier
