import Courier.Dispatch.Registry
import Courier.Log.Buffer
import Courier.Log.Event

/-
  The dispatcher that hands out log records.

  The verb of a command may set a limit and a level.  The
  limit counts only records of the level.

  Key definitions include:
    * `LogQuery`
    * `LogQuery.ofCommand`
    * `LogQuery.select`
    * `LogQuery.recordsOf`
    * `LogQuery.dispatcher`

  Key theorems include:
    * `LogQuery.recordsOf_eq_select`
-/

------------------------------------------------------------
-- Queries
------------------------------------------------------------

namespace Courier

/- Which records are wanted. -/
structure LogQuery where
  limit : Nat
  level : Option String
deriving DecidableEq, Repr

namespace LogQuery

/- The id of the dispatcher. -/
def dispatcherId : String := "log"

/- The number of records if no limit is set. -/
def defaultLimit : Nat := 100

/- A text whose Latin letters are all large. -/
def upperCase
    (text : String) : String :=
  String.ofList (text.toList.map Char.toUpper)

/- The limit of a command, or the text that is no limit. -/
def limitOf
    (c : Command) : Except String Nat :=
  match c.messageValue "limit" with
  | none => .ok defaultLimit
  | some text =>
      match Numeral.natural64? text with
      | some limit => .ok limit
      | none => .error text

/- The query of a command, or the text that is no limit. -/
def ofCommand
    (c : Command) : Except String LogQuery :=
  match limitOf c with
  | .ok limit =>
      .ok
        { limit := limit
          level := (c.messageValue "level").map upperCase }
  | .error text => .error text

/- A record has the wanted level. -/
def admits
    (q : LogQuery)
    (r : LogRecord) : Bool :=
  match q.level with
  | some level => r.level == level
  | none => true

/- The newest of the wanted records. -/
def select
    (q : LogQuery)
    (records : List LogRecord) : List LogRecord :=
  newest q.limit (records.filter q.admits)

/-
  The records of a buffer that are wanted.  Those of a level
  are picked before they are counted.
-/
def recordsOf
    (q : LogQuery)
    (buffer : LogBuffer) : List LogRecord :=
  match q.level with
  | some level =>
      let matching :=
        (buffer.snapshot none).filter fun r => r.level == level
      matching.drop (matching.length - q.limit)
  | none => buffer.snapshot (some q.limit)

/- Both ways lead to the newest of the wanted records. -/
theorem recordsOf_eq_select
    (q : LogQuery)
    (buffer : LogBuffer) :
    q.recordsOf buffer = q.select (buffer.snapshot none) := by
  unfold recordsOf select
  cases hLevel : q.level with
  | some level =>
      have hAdmits :
          q.admits = fun r => r.level == level := by
        funext r
        rw [admits, hLevel]
      rw [hAdmits]
      rfl
  | none =>
      have hAll (r : LogRecord) : q.admits r = true := by
        rw [admits, hLevel]
      rw [List.filter_eq_self.mpr fun r _ => hAll r]
      rfl

end LogQuery

end Courier

------------------------------------------------------------
-- Answers
------------------------------------------------------------

namespace Courier

namespace LogQuery

/- The number of records of a level. -/
def countOf
    (level : String)
    (records : List LogRecord) : Nat :=
  records.countP fun r => r.level == level

/- How many records there are, and how many are serious. -/
def summary
    (records : List LogRecord) : String :=
  let warnings := countOf LogLevel.warn.name records
  let errors := countOf LogLevel.error.name records
  s!"{records.length} log records " ++
    s!"({warnings} warn, {errors} error)"

/- The answer to a command. -/
def answer
    (buffer : LogBuffer)
    (c : Command) : Answer :=
  match ofCommand c with
  | .error text =>
      .error .malformed s!"invalid limit {Quoted.quote text}"
  | .ok q =>
      let records := q.recordsOf buffer
      { Answer.ok (summary records) with
        object := some (.array (records.map LogRecord.toJson)) }

/- The dispatcher for the records of a buffer. -/
def dispatcher
    (buffer : LogBuffer) : Dispatcher :=
  { id := dispatcherId
    dispatch := answer buffer }

/- The dispatchers that a server can be told to have. -/
def builtin
    (buffer : LogBuffer) : Registry :=
  Registry.registerOwn [] (dispatcher buffer)

end LogQuery

end Courier
