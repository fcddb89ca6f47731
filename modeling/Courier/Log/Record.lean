import Courier.Json.Value

/-
  Log records.

  Key definitions include:
    * `LogRecord`
    * `LogRecord.render`
    * `LogRecord.toJson`
    * `LogRecord.ofJson?`
    * `LogRecord.listOfJson?`
-/

------------------------------------------------------------
-- Records
------------------------------------------------------------

namespace Courier

/-
  One event of a log, with its time in milliseconds since
  the epoch.  The level is a text, since records also come
  from elsewhere.
-/
structure LogRecord where
  timestamp : UInt64
  level : String
  target : String
  message : String
deriving DecidableEq, Repr

namespace LogRecord

/- The columns that a level takes at least. -/
def levelWidth : Nat := 5

/- A text with blanks before it up to the given width. -/
def padded
    (width : Nat)
    (text : String) : String :=
  let chars := text.toList
  String.ofList
    (List.replicate (width - chars.length) ' ' ++ chars)

/- The line of a record. -/
def render
    (r : LogRecord) : String :=
  s!"{r.timestamp.toNat} {padded levelWidth r.level} " ++
    s!"{r.target}: {r.message}"

/- A record as a JSON object. -/
def toJson
    (r : LogRecord) : Json :=
  Json.ofMembers
    [("timestamp", Json.ofNat r.timestamp.toNat),
      ("level", .text r.level),
      ("target", .text r.target),
      ("message", .text r.message)]

/- The record of four values. -/
def ofValues? :
    List (Option Json) → Option LogRecord
  | [some (.number (.whole n)), some (.text level),
      some (.text target), some (.text message)] =>
      if 0 ≤ n ∧ n < UInt64.size then
        some
          { timestamp := UInt64.ofNat n.toNat
            level := level
            target := target
            message := message }
      else none
  | _ => none

/- The record that a value holds, as an object or a list. -/
def ofJson? : Json → Option LogRecord
  | .array values => ofValues? (values.map some)
  | .object members =>
      ofValues?
        (["timestamp", "level", "target", "message"].map
          fun name => members.lookup name)
  | _ => none

/- The records that a value holds. -/
def listOfJson? : Json → Option (List LogRecord)
  | .array values => values.mapM ofJson?
  | _ => none

end LogRecord

end Courier
