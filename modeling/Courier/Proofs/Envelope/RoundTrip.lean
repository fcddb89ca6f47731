import Courier.Envelope.Answer
import Courier.Proofs.Envelope.Line

/-
  Commands and answers that travel as lines.

  An envelope comes back from its line unchanged, up to what
  stays with the sender, exactly if no text with another
  part after it ends in the first part of a separator.

  Key definitions include:
    * `Command.IsPlain`
    * `Command.arrived`
    * `Answer.IsPlain`

  Key theorems include:
    * `Command.ofLine_eq_ok_iff`
    * `Answer.ofLine_eq_ok_iff`
    * `ofLine_toLine_iff`
-/

------------------------------------------------------------
-- Commands
------------------------------------------------------------

namespace Courier

namespace Command

/- Every field of the command has one way to be written. -/
structure IsPlain
    (c : Command) : Prop where
  dispatcherId : c.dispatcherId ≠ ""
  name : c.name ≠ ""
  fileId : c.fileId ≠ some ""
  domain : c.domain ≠ some ""
  object : Line.ReadsBack c.object

/- The command without what stays with its sender. -/
def arrived
    (c : Command) : Command :=
  { make c.dispatcherId c.name with
    serverName := c.serverName
    entity := c.entity
    dataLength := c.dataLength
    fileId := c.fileId
    domain := c.domain
    object := c.object }

/-
  The fields of a command with a name spell it, up to
  optional texts that are empty.
-/
theorem ofFields_fields
    {c : Command}
    (hId : c.dispatcherId ≠ "")
    (hName : c.name ≠ "") :
    ofFields c.fields c.object =
      .ok
        { c.arrived with
          fileId := Line.optional (c.fileId.getD "")
          domain := Line.optional (c.domain.getD "") } := by
  have hNamed :
      (c.dispatcherId.isEmpty || c.name.isEmpty) = false := by
    simp [hId, hName]
  simp only [ofFields, fields, hNamed, Bool.false_eq_true,
    if_false, Line.length_toString]
  rfl

/- The fields of a plain command spell it. -/
theorem IsPlain.ofFields_fields
    {c : Command}
    (hPlain : c.IsPlain) :
    ofFields c.fields c.object = .ok c.arrived := by
  rw [Command.ofFields_fields hPlain.dispatcherId hPlain.name,
    Line.optional_getD hPlain.fileId,
    Line.optional_getD hPlain.domain]
  rfl

/- A command has the fields that it was read from. -/
theorem fields_of_ofFields
    {texts : List String}
    {object : Option Json}
    {c : Command}
    (hRead : ofFields texts object = .ok c)
    {i : Nat}
    (hLength : i ≠ 4) :
    c.fields[i]? = texts[i]? := by
  unfold ofFields at hRead
  split at hRead
  · split at hRead
    · cases hRead
    · split at hRead
      · cases hRead
      · cases hRead
        match i with
        | 0 | 1 | 2 | 3 => rfl
        | 4 => exact absurd rfl hLength
        | 5 | 6 => simp [fields, Line.getD_optional]
        | n + 7 => rfl
  · cases hRead

/-
  The line of a command is read as its fields if none of
  them, with another part after it, ends in the first part
  of a separator.
-/
theorem ofLine_eq_ofFields
    {c : Command}
    {line : String}
    (hObject : Line.ReadsBack c.object)
    (hLine : c.toLine = .ok line)
    (hHalf :
      ∀ f ∈ Line.followed c.fields c.object,
        Line.endsInHalf f.toList = false) :
    ofLine line = ofFields c.fields c.object := by
  have hSplit : Line.split line fieldCount = _ :=
    Line.split_join (List.cons_ne_nil _ _) hObject hLine hHalf
  rw [ofLine, hSplit]
  rfl

/- When a command comes back from its line. -/
theorem ofLine_eq_ok_iff
    {c : Command}
    {line : String}
    (hPlain : c.IsPlain)
    (hLine : c.toLine = .ok line) :
    ofLine line = .ok c.arrived ↔
      ∀ f ∈ Line.followed c.fields c.object,
        Line.endsInHalf f.toList = false := by
  constructor
  · intro hRead
    unfold ofLine at hRead
    split at hRead
    · cases hRead
    · next texts found hSplit =>
        apply Line.endsInHalf_of_split hLine hSplit
        intro i f hField hEnd
        by_cases hLength : i = 4
        · subst hLength
          cases hField
          rw [Line.endsInHalf_toString] at hEnd
          cases hEnd
        · rw [← fields_of_ofFields hRead hLength]
          exact hField
  · intro hHalf
    rw [ofLine_eq_ofFields hPlain.object hLine hHalf]
    exact hPlain.ofFields_fields

end Command

end Courier

------------------------------------------------------------
-- Answers
------------------------------------------------------------

namespace Courier

namespace Answer

/- Every field of the answer has one way to be written. -/
structure IsPlain
    (a : Answer) : Prop where
  fileId : a.fileId ≠ some ""
  failure : a.failure.isSome → a.status.isFailure
  object : Line.ReadsBack a.object

/- The code of a status is read back. -/
theorem statusOfField_code
    (s : Status) :
    statusOfField (toString s.code) = .ok s := by
  have hCode :
      Numeral.integer? 32 (toString s.code) =
        some s.code := by
    cases s <;> decide
  simp only [statusOfField, hCode, Status.ofCode,
    Status.ofCode?_code]

/- The name of a failure is read back. -/
theorem failureOfField_name
    (f : Option Failure) :
    failureOfField ((f.map Failure.name).getD "") =
      .ok f := by
  cases f with
  | none => rfl
  | some f =>
      have hSome : f.name.isEmpty = false := by
        cases f <;> decide
      simp [failureOfField, hSome, Failure.ofName,
        Failure.ofName?_name]

/-
  The fields of an answer spell it, up to a file id that is
  empty, if only a failed answer says why.
-/
theorem ofFields_fields
    {a : Answer}
    (hFailure : a.failure.isSome → a.status.isFailure) :
    ofFields a.fields a.object =
      .ok
        { a with fileId := Line.optional (a.fileId.getD "") } := by
  have hCheck :
      (a.failure.isSome && !a.status.isFailure) = false := by
    cases hSome : a.failure.isSome with
    | false => rfl
    | true => simp [hFailure hSome]
  simp only [ofFields, fields, statusOfField_code,
    failureOfField_name, hCheck, Line.length_toString, bind,
    Except.bind]
  rfl

/- The fields of a plain answer spell it. -/
theorem IsPlain.ofFields_fields
    {a : Answer}
    (hPlain : a.IsPlain) :
    ofFields a.fields a.object = .ok a := by
  rw [Answer.ofFields_fields hPlain.failure,
    Line.optional_getD hPlain.fileId]

/- Codes do not end in the first part of a separator. -/
theorem endsInHalf_code
    (s : Status) :
    Line.endsInHalf (toString s.code).toList = false := by
  cases s <;> decide

/- Names do not end in the first part of a separator. -/
theorem endsInHalf_name
    (f : Option Failure) :
    Line.endsInHalf
      ((f.map Failure.name).getD "").toList = false := by
  cases f with
  | none => rfl
  | some f => cases f <;> decide

/- An answer has the texts that it was read from. -/
theorem exists_texts_of_ofFields
    {texts : List String}
    {object : Option Json}
    {a : Answer}
    (hRead : ofFields texts object = .ok a) :
    ∃ code length failure,
      texts =
          [code, a.entity, length, a.fileId.getD "",
            failure] ∧
        statusOfField code = .ok a.status ∧
        Line.length length = .ok a.dataLength := by
  unfold ofFields at hRead
  split at hRead
  · next code entity length fileId failure =>
      simp only [bind, Except.bind] at hRead
      repeat' split at hRead
      all_goals cases hRead
      all_goals
        refine
          ⟨code, length, failure, ?_, by assumption,
            by assumption⟩
        rw [Line.getD_optional]
  · cases hRead

/-
  The line of an answer is read as its fields if none of
  them, with another part after it, ends in the first part
  of a separator.
-/
theorem ofLine_eq_ofFields
    {a : Answer}
    {line : String}
    (hObject : Line.ReadsBack a.object)
    (hLine : a.toLine = .ok line)
    (hHalf :
      ∀ f ∈ Line.followed a.fields a.object,
        Line.endsInHalf f.toList = false) :
    ofLine line = ofFields a.fields a.object := by
  have hSplit : Line.split line fieldCount = _ :=
    Line.split_join (List.cons_ne_nil _ _) hObject hLine hHalf
  rw [ofLine, hSplit]
  rfl

/- When an answer comes back from its line. -/
theorem ofLine_eq_ok_iff
    {a : Answer}
    {line : String}
    (hPlain : a.IsPlain)
    (hLine : a.toLine = .ok line) :
    ofLine line = .ok a ↔
      ∀ f ∈ Line.followed a.fields a.object,
        Line.endsInHalf f.toList = false := by
  constructor
  · intro hRead
    unfold ofLine at hRead
    split at hRead
    · cases hRead
    · next texts found hSplit =>
        rcases exists_texts_of_ofFields hRead with
          ⟨code, length, failure, rfl, -⟩
        apply Line.endsInHalf_of_split hLine hSplit
        intro i f hField hEnd
        match i with
        | 0 =>
            cases hField
            rw [endsInHalf_code] at hEnd
            cases hEnd
        | 2 =>
            cases hField
            rw [Line.endsInHalf_toString] at hEnd
            cases hEnd
        | 4 =>
            cases hField
            rw [endsInHalf_name] at hEnd
            cases hEnd
        | 1 | 3 => exact hField
        | n + 5 => cases hField
  · intro hHalf
    rw [ofLine_eq_ofFields hPlain.object hLine hHalf]
    exact hPlain.ofFields_fields

end Answer

end Courier

------------------------------------------------------------
-- Both Envelopes
------------------------------------------------------------

namespace Courier

/-
  An envelope that has a line comes back from it unchanged
  exactly if no field with another part of the line after it
  ends in the first part of a separator.
-/
theorem ofLine_toLine_iff
    (c : Command)
    (a : Answer)
    (hCommand : c.IsPlain)
    (hAnswer : a.IsPlain) :
    (∀ line, c.toLine = .ok line →
      (Command.ofLine line = .ok c.arrived ↔
        ∀ f ∈ Line.followed c.fields c.object,
          Line.endsInHalf f.toList = false)) ∧
      (∀ line, a.toLine = .ok line →
        (Answer.ofLine line = .ok a ↔
          ∀ f ∈ Line.followed a.fields a.object,
            Line.endsInHalf f.toList = false)) :=
  ⟨fun _ hLine => Command.ofLine_eq_ok_iff hCommand hLine,
    fun _ hLine => Answer.ofLine_eq_ok_iff hAnswer hLine⟩

/-
  A command whose route ends in an overlap comes back only
  if nothing follows that text.
-/
theorem ofLine_toLine_iff_overlap :
    ({ Command.make "files" "|#" with
        serverName := "#|a"
        object := some (.array [.text "#|", .null]) }
        : Command).IsPlain ∧
      (Answer.error .storage "disk#|").IsPlain ∧
      Command.ofLine
          "#|a#|#files#|#|##|##|#0#|##|##|#WyIjfCIsbnVsbF0=" =
        .ok
          { Command.make "files" "|#" with
            serverName := "#|a"
            object := some (.array [.text "#|", .null]) } ∧
      Answer.ofLine
          "-1#|#disk#|#|#0#|##|#storage" ≠
        .ok (Answer.error .storage "disk#|") := by
  have hCommand :
      ({ Command.make "files" "|#" with
        serverName := "#|a"
        object := some (.array [.text "#|", .null]) }
        : Command).IsPlain := by
    refine ⟨by decide, by decide, by decide, by decide, ?_⟩
    intro value hValue
    cases hValue
    rfl
  have hAnswer :
      (Answer.error .storage "disk#|").IsPlain := by
    refine ⟨by decide, fun _ => rfl, ?_⟩
    rintro value ⟨⟩
  rcases ofLine_toLine_iff _ _ hCommand hAnswer with
    ⟨hFirst, hSecond⟩
  refine ⟨hCommand, hAnswer, ?_, ?_⟩
  · exact
      (hFirst
        "#|a#|#files#|#|##|##|#0#|##|##|#WyIjfCIsbnVsbF0="
        rfl).mpr (by decide)
  · intro hRead
    have hHalf :=
      (hSecond "-1#|#disk#|#|#0#|##|#storage" rfl).mp hRead
    revert hHalf
    decide

/- A command whose server name overlaps is read as another. -/
theorem not_forall_ofLine_toLine :
    ¬ ∀ (c : Command) (a : Answer),
      c.IsPlain → a.IsPlain →
        (∀ line, c.toLine = .ok line →
          Command.ofLine line = .ok c.arrived) ∧
        (∀ line, a.toLine = .ok line →
          Answer.ofLine line = .ok a) := by
  intro hAll
  have hCommand :
      ({ Command.make "log" "LOG" with serverName := "#|" }
        : Command).IsPlain :=
    ⟨by decide, by decide, by decide, by decide, nofun⟩
  have hAnswer : Answer.health.IsPlain :=
    ⟨by decide, nofun, nofun⟩
  have hSame :=
    (hAll _ _ hCommand hAnswer).1
      "#|#|#log#|#LOG#|##|#0#|##|#" rfl
  have hShifted :
      Command.ofLine "#|#|#log#|#LOG#|##|#0#|##|#" =
        .ok (Command.make "|#log" "LOG") := rfl
  rw [hShifted] at hSame
  have hServer :=
    congrArg Command.serverName (Except.ok.inj hSame)
  revert hServer
  decide

end Courier
