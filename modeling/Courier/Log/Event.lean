import Courier.Log.Record
import Courier.Text.Quoted

/-
  Events as a program reports them: a message and named
  values.

  Key definitions include:
    * `LogLevel`
    * `LogValue`
    * `LogEvent`
    * `LogEvent.text`
    * `LogEvent.toRecord`
-/

------------------------------------------------------------
-- Levels
------------------------------------------------------------

namespace Courier

/- How important an event is. -/
inductive LogLevel where
| trace : LogLevel
| debug : LogLevel
| info : LogLevel
| warn : LogLevel
| error : LogLevel
deriving DecidableEq, Repr

namespace LogLevel

/- The name of a level in a record. -/
def name : LogLevel → String
  | .trace => "TRACE"
  | .debug => "DEBUG"
  | .info => "INFO"
  | .warn => "WARN"
  | .error => "ERROR"

end LogLevel

end Courier

------------------------------------------------------------
-- Values
------------------------------------------------------------

namespace Courier

/- A value that is reported with an event. -/
inductive LogValue where
| plain : String → LogValue
| quoted : String → LogValue
| integer : Int → LogValue
| flag : Bool → LogValue
| option : Option String → LogValue
deriving DecidableEq, Repr

namespace LogValue

/- The text of a value. -/
def text : LogValue → String
  | .plain s => s
  | .quoted s => Quoted.quote s
  | .integer n => toString n
  | .flag true => "true"
  | .flag false => "false"
  | .option none => "None"
  | .option (some s) => "Some(" ++ Quoted.quote s ++ ")"

end LogValue

end Courier

------------------------------------------------------------
-- Events
------------------------------------------------------------

namespace Courier

/- An event with its values in their order. -/
structure LogEvent where
  level : LogLevel
  target : String
  message : String
  fields : List (String × LogValue)
deriving DecidableEq, Repr

namespace LogEvent

/-
  The message and the values with their names, with a blank
  between any two of them.
-/
def text
    (e : LogEvent) : String :=
  let fields :=
    e.fields.map fun (name, value) => name ++ "=" ++ value.text
  " ".intercalate
    (if e.message.isEmpty ∧ fields ≠ [] then fields
    else e.message :: fields)

/- The record of an event at a time. -/
def toRecord
    (e : LogEvent)
    (timestamp : UInt64) : LogRecord :=
  { timestamp := timestamp
    level := e.level.name
    target := e.target
    message := e.text }

end LogEvent

end Courier
