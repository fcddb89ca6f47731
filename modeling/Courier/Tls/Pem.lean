import Courier.Text.Base64
import Courier.Text.Utf8

/-
  Sections of text that hold certificates and keys in
  Base64, between a line that opens the section and a line
  that closes it.

  Lines outside of sections mean nothing, and neither do
  sections with labels that are not known here.  Reading
  stops at the first fault and keeps what came before it.

  Key definitions include:
    * `Pem.Label`
    * `Pem.Section`
    * `Pem.Fault`
    * `Pem.sections`
-/

------------------------------------------------------------
-- Sections
------------------------------------------------------------

namespace Courier

namespace Pem

/- What a section holds. -/
inductive Label where
| certificate : Label
| publicKey : Label
| rsaKey : Label
| key : Label
| ecKey : Label
| revocations : Label
| request : Label
| helloConfig : Label
deriving DecidableEq, Repr

/- The words for a label in the lines around a section. -/
def Label.words : Label → String
  | .certificate => "CERTIFICATE"
  | .publicKey => "PUBLIC KEY"
  | .rsaKey => "RSA PRIVATE KEY"
  | .key => "PRIVATE KEY"
  | .ecKey => "EC PRIVATE KEY"
  | .revocations => "X509 CRL"
  | .request => "CERTIFICATE REQUEST"
  | .helloConfig => "ECHCONFIG"

/- All labels. -/
def Label.all : List Label :=
  [.certificate, .publicKey, .rsaKey, .key, .ecKey,
    .revocations, .request, .helloConfig]

/- The label for some words. -/
def Label.ofWords?
    (words : Bytes) : Option Label :=
  all.find? fun label => Bytes.ofText label.words == words

/- The octets of a section under its label. -/
structure Section where
  label : Label
  content : Bytes
deriving DecidableEq, Repr

/- Why the sections of a text could not be read. -/
inductive Fault where
| start : (line : Bytes) → Fault
| unended : (words : Bytes) → Fault
| base64 : Base64.Fault → Fault
deriving DecidableEq, Repr

/- The text of a fault. -/
def Fault.message : Fault → String
  | .start line =>
      "illegal section start: " ++
        String.ofList (Utf8.decodeLossy line)
  | .unended words =>
      "section end missing: " ++
        String.ofList (Utf8.decodeLossy words)
  | .base64 fault => s!"base64 decode error: {fault.message}"

end Pem

end Courier

------------------------------------------------------------
-- Lines
------------------------------------------------------------

namespace Courier

namespace Pem

/- Put an octet in front of lines. -/
def extendLine
    (b : UInt8) : List Bytes → List Bytes
  | [] => [[b]]
  | line :: others =>
      if b = 10 ∨ b = 13 then [] :: line :: others
      else (b :: line) :: others

/- The lines of a text, which end at any kind of break. -/
def lines
    (bytes : Bytes) : List Bytes :=
  bytes.reverse.foldl (fun ls b => extendLine b ls) [[]]

/- What a line that opens a section starts with. -/
def opening : Bytes := Bytes.ofText "-----BEGIN "

/- What a line that closes a section starts with. -/
def closing : Bytes := Bytes.ofText "-----END "

/- The dashes at the end of the words. -/
def dashes : Bytes := Bytes.ofText "-----"

/-
  The words of a line that opens a section.  There must be
  five dashes at its end, with or without spaces.
-/
def openedWords?
    (line : Bytes) : Option Bytes :=
  let tail := line.reverse.takeWhile fun b =>
    b == 45 || b == 32
  let shown := tail.reverse.dropWhile (· != 45)
  if tail.count 45 = 5 then
    some
      ((line.take (line.length - shown.length)).drop
        opening.length)
  else
    none

/- A line closes the section with some words. -/
def closes
    (words line : Bytes) : Bool :=
  (closing ++ words ++ dashes).isPrefixOf line

/- The octets of the lines of a section, the last one first. -/
def contentOf
    (body : List Bytes) : Except Fault Bytes :=
  match Base64.decodeLines body.reverse.flatten with
  | .ok bytes => .ok bytes
  | .error fault => .error (.base64 fault)

end Pem

end Courier

------------------------------------------------------------
-- Reading
------------------------------------------------------------

namespace Courier

namespace Pem

/-
  Read the sections of some lines.  Of the section that is
  open, the words and the lines so far are known.
-/
def sectionsFrom
    (words : Option Bytes)
    (body : List Bytes) :
    List Bytes → List Section × Option Fault
  | [] => ([], words.map Fault.unended)
  | line :: rest =>
      if opening.isPrefixOf line then
        match openedWords? line with
        | some words => sectionsFrom (some words) body rest
        | none => ([], some (.start line))
      else
        match words with
        | none => sectionsFrom none [] rest
        | some words =>
            if closes words line then
              match Label.ofWords? words with
              | none => sectionsFrom none [] rest
              | some label =>
                  match contentOf body with
                  | .error fault => ([], some fault)
                  | .ok content =>
                      let (others, fault) :=
                        sectionsFrom none [] rest
                      (⟨label, content⟩ :: others, fault)
            else
              sectionsFrom (some words) (line :: body) rest

/- The sections of a text up to the first fault. -/
def sections
    (bytes : Bytes) : List Section × Option Fault :=
  sectionsFrom none [] (lines bytes)

end Pem

end Courier
