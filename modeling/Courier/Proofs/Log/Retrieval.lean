import Courier.Dispatch.LogQuery

/-
  What the log dispatcher hands out.

  A buffer holds the newest of all records that were ever
  pushed.  An answer shows the newest of those that have the
  wanted level, in the order in which they were pushed, and
  counts just these.

  Key definitions include:
    * `IsNewest`
    * `LogQuery.HasBadLimit`
    * `LogQuery.AsksFor`
    * `LogQuery.isWanted`

  Key theorems include:
    * `isNewest_iff`
    * `LogBuffer.records_pushAll`
    * `LogRecord.listOfJson?_toJson`
    * `LogQuery.answer_shows_newest`
-/

------------------------------------------------------------
-- The End of a List
------------------------------------------------------------

namespace Courier

/- Items are the last ones of a list, as many as wanted. -/
structure IsNewest
    {α : Type}
    (count : Nat)
    (items last : List α) : Prop where
  suffix : last <:+ items
  length : last.length = min count items.length

variable {α : Type}

/- The newest items are there, and no others are. -/
theorem isNewest_iff
    {count : Nat}
    {items last : List α} :
    IsNewest count items last ↔ last = newest count items := by
  constructor
  · intro hNewest
    have hDrop :=
      List.suffix_iff_eq_drop.mp hNewest.suffix
    rw [hNewest.length] at hDrop
    rw [hDrop, newest]
    congr 1
    omega
  · rintro rfl
    exact ⟨List.drop_suffix _ _, length_newest count items⟩

/- All items are among the newest if there is room. -/
theorem newest_of_length_le
    {count : Nat}
    {items : List α}
    (hRoom : items.length ≤ count) :
    newest count items = items := by
  rw [newest, Nat.sub_eq_zero_of_le hRoom, List.drop_zero]

/- What is dropped once does not count later. -/
theorem newest_append
    (count : Nat)
    (items more : List α) :
    newest count (newest count items ++ more) =
      newest count (items ++ more) := by
  symm
  apply isNewest_iff.mp
  have hLast :
      IsNewest count (items ++ more)
        (newest count (items ++ more)) :=
    isNewest_iff.mpr rfl
  constructor
  · -- Both are ends of the same list, so the shorter one
    -- is an end of the longer one.
    apply List.suffix_of_suffix_length_le hLast.suffix
    · refine ⟨items.take (items.length - count), ?_⟩
      rw [newest, ← List.append_assoc, List.take_append_drop]
    · rw [hLast.length, List.length_append,
        List.length_append, length_newest]
      omega
  · rw [hLast.length, List.length_append,
      List.length_append, length_newest]
    omega

end Courier

------------------------------------------------------------
-- What a Buffer Holds
------------------------------------------------------------

namespace Courier

namespace LogBuffer

variable {b : LogBuffer}

/- A buffer has room, and holds no more than that. -/
structure IsBounded
    (b : LogBuffer) : Prop where
  room : 0 < b.capacity
  length : b.records.length ≤ b.capacity

/- A new buffer has room for one record and holds nothing. -/
theorem isBounded_ofCapacity
    (capacity : Nat) :
    (ofCapacity capacity).IsBounded :=
  ⟨Nat.le_max_right capacity 1, Nat.zero_le _⟩

/- With a record more, a buffer holds the newest ones. -/
theorem records_push
    (hBounded : b.IsBounded)
    (r : LogRecord) :
    (b.push r).records =
      newest b.capacity (b.records ++ [r]) := by
  have hRoom := hBounded.room
  have hLength := hBounded.length
  rw [newest, List.length_append, List.length_singleton]
  unfold push
  split
  · next hFull =>
      have hDrop : b.records.length + 1 - b.capacity = 1 := by
        omega
      have hSome : 1 ≤ b.records.length := by
        omega
      rw [hDrop, List.drop_append_of_le_length hSome,
        List.drop_one]
  · next hFree =>
      have hDrop : b.records.length + 1 - b.capacity = 0 := by
        omega
      rw [hDrop, List.drop_zero]

/- A record more does not need more room than there is. -/
theorem isBounded_push
    (hBounded : b.IsBounded)
    (r : LogRecord) :
    (b.push r).IsBounded := by
  constructor
  · rw [capacity_push]
    exact hBounded.room
  · rw [records_push hBounded, length_newest, capacity_push]
    exact Nat.min_le_left _ _

/- A buffer holds the newest records that were pushed. -/
theorem records_pushAll
    (hBounded : b.IsBounded)
    (rs : List LogRecord) :
    (b.pushAll rs).records =
      newest b.capacity (b.records ++ rs) := by
  induction rs generalizing b with
  | nil =>
      rw [List.append_nil,
        newest_of_length_le hBounded.length]
      rfl
  | cons r rest ih =>
      calc ((b.push r).pushAll rest).records
          = newest b.capacity
              ((b.push r).records ++ rest) := by
            rw [ih (isBounded_push hBounded r), capacity_push]
        _ = newest b.capacity
              (newest b.capacity (b.records ++ [r]) ++
                rest) := by
            rw [records_push hBounded]
        _ = newest b.capacity (b.records ++ r :: rest) := by
            rw [newest_append, List.append_assoc,
              List.singleton_append]

/- The newest of all records since the buffer was made. -/
theorem records_ofCapacity
    (capacity : Nat)
    (rs : List LogRecord) :
    ((ofCapacity capacity).pushAll rs).records =
      newest (max capacity 1) rs :=
  records_pushAll (isBounded_ofCapacity capacity) rs

end LogBuffer

end Courier

------------------------------------------------------------
-- Records as Values
------------------------------------------------------------

namespace Courier

/- A member goes in front of one with a greater name. -/
theorem Json.insertMember_before
    {name other : String}
    (hLt : name < other)
    (value old : Json)
    (rest : List (String × Json)) :
    insertMember name value ((other, old) :: rest) =
      (name, value) :: (other, old) :: rest := by
  have hNe : name ≠ other := String.ne_of_lt hLt
  rw [insertMember, if_neg hNe, if_pos hLt]

/- It goes behind one with a smaller name. -/
theorem Json.insertMember_after
    {name other : String}
    (hLt : other < name)
    (value old : Json)
    (rest : List (String × Json)) :
    insertMember name value ((other, old) :: rest) =
      (other, old) :: insertMember name value rest := by
  have hNe : name ≠ other := (String.ne_of_lt hLt).symm
  rw [insertMember, if_neg hNe, if_neg (String.lt_asymm hLt)]

namespace LogRecord

/- The members of a record stand in order. -/
theorem toJson_eq
    (r : LogRecord) :
    r.toJson =
      .object
        [("level", .text r.level),
          ("message", .text r.message),
          ("target", .text r.target),
          ("timestamp", Json.ofNat r.timestamp.toNat)] := by
  have hLevel : "level" < "timestamp" := by decide
  have hTarget : "level" < "target" := by decide
  have hTime : "target" < "timestamp" := by decide
  have hMessage : "level" < "message" := by decide
  have hText : "message" < "target" := by decide
  simp only [toJson, Json.ofMembers, List.foldl_cons,
    List.foldl_nil, Json.insertMember.eq_1,
    Json.insertMember_before hLevel,
    Json.insertMember_after hTarget,
    Json.insertMember_before hTime,
    Json.insertMember_after hMessage,
    Json.insertMember_before hText]

/- A record is read back from its object. -/
theorem ofJson?_toJson
    (r : LogRecord) :
    ofJson? r.toJson = some r := by
  have hTime :
      (0 : Int) ≤ r.timestamp.toNat ∧
        (r.timestamp.toNat : Int) < (UInt64.size : Nat) := by
    have hLt := r.timestamp.toNat_lt_size
    omega
  simp only [toJson_eq, ofJson?, List.map_cons, List.map_nil,
    List.lookup_cons, String.reduceBEq, Json.ofNat,
    ofValues?]
  rw [if_pos hTime, Int.toNat_natCast, UInt64.ofNat_toNat]

/- So are all records of a list. -/
theorem listOfJson?_toJson
    (rs : List LogRecord) :
    listOfJson? (.array (rs.map toJson)) = some rs := by
  have hAll : (rs.map toJson).mapM ofJson? = some rs := by
    induction rs with
    | nil => rfl
    | cons r rest ih =>
        rw [List.map_cons, List.mapM_cons, ofJson?_toJson, ih]
        rfl
  exact hAll

end LogRecord

end Courier

------------------------------------------------------------
-- Answers
------------------------------------------------------------

namespace Courier

namespace LogQuery

/- The first limit in the verb of a command is no number. -/
def HasBadLimit
    (c : Command) : Prop :=
  ∃ text,
    c.messageValue "limit" = some text ∧
      Numeral.natural64? text = none

/- The number of records that a command asks for. -/
inductive AsksFor
    (c : Command) : Nat → Prop where
| any (hNone : c.messageValue "limit" = none) : AsksFor c 100
| limit
    {text : String}
    {count : Nat}
    (hSome : c.messageValue "limit" = some text)
    (hNumber : Numeral.natural64? text = some count) :
    AsksFor c count

/- A record has the level that a command asks for, if any. -/
def isWanted
    (c : Command)
    (r : LogRecord) : Bool :=
  (c.messageValue "level").all fun text =>
    r.level == upperCase text

variable {c : Command}

/- A query has the limit and the level of its command. -/
theorem exists_ofCommand
    (hGood : ¬ HasBadLimit c) :
    ∃ q,
      ofCommand c = .ok q ∧
        AsksFor c q.limit ∧
        q.level = (c.messageValue "level").map upperCase := by
  unfold ofCommand limitOf
  cases hLimit : c.messageValue "limit" with
  | none => exact ⟨_, rfl, .any hLimit, rfl⟩
  | some text =>
      cases hNumber : Numeral.natural64? text with
      | none => exact absurd ⟨text, hLimit, hNumber⟩ hGood
      | some count =>
          dsimp only
          rw [hNumber]
          exact ⟨_, rfl, .limit hLimit hNumber, rfl⟩

/- A command with a bad limit gets to hear which it was. -/
theorem answer_of_hasBadLimit
    (buffer : LogBuffer)
    (hBad : HasBadLimit c) :
    ∃ text,
      c.messageValue "limit" = some text ∧
        answer buffer c =
          .error .malformed
            s!"invalid limit {Quoted.quote text}" := by
  rcases hBad with ⟨text, hLimit, hNumber⟩
  refine ⟨text, hLimit, ?_⟩
  simp only [answer, ofCommand, limitOf, hLimit, hNumber]

/- A query admits the records that its command wants. -/
theorem admits_eq_isWanted
    {q : LogQuery}
    (hLevel :
      q.level = (c.messageValue "level").map upperCase)
    (r : LogRecord) :
    q.admits r = isWanted c r := by
  unfold admits isWanted
  rw [hLevel]
  cases c.messageValue "level" with
  | none => rfl
  | some text => rfl

/-
  Whatever was pushed, a command with a bad limit is refused.
  Every other one has an answer with the newest of the wanted
  records among those that the buffer has room for.  The text
  of the answer counts them, and the warnings and errors
  among them.
-/
theorem answer_shows_newest
    (capacity : Nat)
    (pushed : List LogRecord)
    (c : Command) :
    let buffer := (LogBuffer.ofCapacity capacity).pushAll pushed
    let given := answer buffer c
    (HasBadLimit c →
      given.status = .error ∧
        given.failure = some .malformed) ∧
    (¬ HasBadLimit c →
      ∃ count kept shown object,
        let warnings := shown.countP (·.level == "WARN")
        let errors := shown.countP (·.level == "ERROR")
        AsksFor c count ∧
          IsNewest (max capacity 1) pushed kept ∧
          IsNewest count (kept.filter (isWanted c)) shown ∧
          LogRecord.listOfJson? object = some shown ∧
          given =
            { Answer.ok
                (s!"{shown.length} log records " ++
                  s!"({warnings} warn, {errors} error)") with
              object := some object }) := by
  intro buffer given
  constructor
  · intro hBad
    rcases answer_of_hasBadLimit buffer hBad with
      ⟨text, -, hAnswer⟩
    have hGiven : given = _ := hAnswer
    rw [hGiven]
    exact ⟨rfl, rfl⟩
  · intro hGood
    rcases exists_ofCommand hGood with
      ⟨q, hQuery, hAsks, hLevel⟩
    have hKept : buffer.records = newest (max capacity 1) pushed :=
      LogBuffer.records_ofCapacity capacity pushed
    have hAdmits : q.admits = isWanted c :=
      funext (admits_eq_isWanted hLevel)
    let shown := q.recordsOf buffer
    refine
      ⟨q.limit, buffer.records, shown,
        .array (shown.map LogRecord.toJson), hAsks, ?_, ?_, ?_,
        ?_⟩
    · exact isNewest_iff.mpr hKept
    · rw [← hAdmits]
      exact isNewest_iff.mpr (recordsOf_eq_select q buffer)
    · exact LogRecord.listOfJson?_toJson shown
    · have hGiven : given = answer buffer c := rfl
      rw [hGiven, answer, hQuery]
      rfl

/- Five records, of which the second one is pushed out. -/
def fiveRecords : List LogRecord :=
  ["INFO", "WARN", "WARN", "ERROR", "WARN"].map fun level =>
    { timestamp := 0
      level := level
      target := "cmdlink::server"
      message := level }

/-
  A buffer with room for three records shows the two that
  are warnings, and does not take a word for a limit.
-/
theorem answer_shows_newest_warnings :
    let buffer := (LogBuffer.ofCapacity 3).pushAll fiveRecords
    let wanting := Command.make "log" "limit=5 | level = warn"
    let mistaken := Command.make "log" "limit=many"
    (answer buffer mistaken).failure = some .malformed ∧
      (answer buffer wanting).status = .ok ∧
      (answer buffer wanting).entity =
        "2 log records (2 warn, 0 error)" := by
  intro buffer wanting mistaken
  rcases answer_shows_newest 3 fiveRecords mistaken with
    ⟨hRefused, -⟩
  rcases answer_shows_newest 3 fiveRecords wanting with
    ⟨-, hShown⟩
  have hLimit : wanting.messageValue "limit" = some "5" := by
    decide +kernel
  have hLevel : wanting.messageValue "level" = some "warn" := by
    decide +kernel
  refine ⟨(hRefused ⟨"many", ?_, ?_⟩).2, ?_⟩
  · decide +kernel
  · decide +kernel
  have hGood : ¬ HasBadLimit wanting := by
    rintro ⟨text, hText, hNumber⟩
    rw [hLimit] at hText
    cases hText
    exact absurd hNumber (by decide +kernel)
  rcases hShown hGood with
    ⟨count, kept, shown, object, hAsks, hKept, hNewest, -,
      hGiven⟩
  have hCount : count = 5 := by
    cases hAsks with
    | any hNone =>
        rw [hLimit] at hNone
        cases hNone
    | limit hSome hNumber =>
        rw [hLimit] at hSome
        cases hSome
        exact Option.some.inj hNumber.symm
  rw [isNewest_iff] at hKept hNewest
  subst hCount hKept
  rw [hGiven]
  refine ⟨rfl, ?_⟩
  dsimp only [Answer.ok, Answer.make]
  rw [hNewest]
  decide +kernel

end LogQuery

end Courier
