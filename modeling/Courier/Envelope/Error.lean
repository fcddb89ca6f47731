import Courier.IoError
import Courier.Text.Quoted
import Courier.Text.Utf8

/-
  Why an envelope could not be written or read.

  Key definitions include:
    * `Malformed`
    * `Malformed.message`
    * `ProtocolError`
    * `ProtocolError.message`
    * `ProtocolError.isEnd`
-/

------------------------------------------------------------
-- Malformed Messages
------------------------------------------------------------

namespace Courier

/- What is wrong with the form of a message. -/
inductive Malformed where
| separatorInField : (field : String) → Malformed
| lineBreakInField : (field : String) → Malformed
| fieldCount : (expected found : Nat) → Malformed
| notANumber : (what field : String) → Malformed
| unnamedCommand : Malformed
| badStatus : (field : String) → Malformed
| unknownStatus : (code : Int) → Malformed
| unknownFailure : (name : String) → Malformed
| failureOnSuccess : Malformed
| notUtf8 : Utf8.Fault → Malformed
| described : (text : String) → Malformed
deriving DecidableEq, Repr

/- The text between the fields of a line. -/
def separatorText : String := "#|#"

/- The text of a malformed message. -/
def Malformed.message : Malformed → String
  | .separatorInField field =>
      s!"field {Quoted.quote field} contains the separator " ++
        Quoted.quote separatorText
  | .lineBreakInField field =>
      s!"field {Quoted.quote field} contains a line break"
  | .fieldCount expected found =>
      s!"expected {expected} or {expected + 1} fields, got {found}"
  | .notANumber what field =>
      s!"{what} is not a number: {Quoted.quote field}"
  | .unnamedCommand => "command without dispatcher id or name"
  | .badStatus field =>
      s!"bad answer status {Quoted.quote field}"
  | .unknownStatus code => s!"unknown answer status {code}"
  | .unknownFailure name =>
      s!"unknown failure type {Quoted.quote name}"
  | .failureOnSuccess => "failure type on a successful answer"
  | .notUtf8 fault => s!"invalid UTF-8: {fault.message}"
  | .described text => text

end Courier

------------------------------------------------------------
-- Protocol Errors
------------------------------------------------------------

namespace Courier

/- Why an envelope could not be written or read. -/
inductive ProtocolError where
| io : IoError → ProtocolError
| json : (detail : String) → ProtocolError
| base64 : (detail : String) → ProtocolError
| messageTooLarge : (size max : Nat) → ProtocolError
| missingTerminator : ProtocolError
| malformed : Malformed → ProtocolError
deriving DecidableEq, Repr

namespace ProtocolError

/- A text that should be JSON is not. -/
def notJson : ProtocolError :=
  .json "invalid value"

/- The text of an error. -/
def message : ProtocolError → String
  | .io e => s!"I/O error: {e.message}"
  | .json detail => s!"JSON error: {detail}"
  | .base64 detail => s!"Base64 decode error: {detail}"
  | .messageTooLarge size max =>
      s!"Message of {size} bytes exceeds the limit of {max} bytes"
  | .missingTerminator =>
      "Frame is not terminated by a line break"
  | .malformed cause => s!"Malformed message: {cause.message}"

/- The other side ended the stream inside a message. -/
def isEnd : ProtocolError → Bool
  | .io e => e.kind == .unexpectedEof
  | _ => false

/- The failure of a file or connection behind the error. -/
def io? : ProtocolError → Option IoError
  | .io e => some e
  | _ => none

end ProtocolError

end Courier
