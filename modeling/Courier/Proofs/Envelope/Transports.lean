import Courier.Proofs.Envelope.Document
import Courier.Proofs.Envelope.Received
import Courier.Proofs.Envelope.WellFormed

/-
  The same envelope over both transports.

  A line has no way to tell an optional text that is empty
  from one that is absent.  JSON has no way to tell an
  attached object that is null from one that is absent.  In
  everything else the two forms of an envelope agree.

  Key definitions include:
    * `Line.KeepsApart`
    * `Command.tunneled`
    * `Answer.received`
    * `Answer.tunneled`

  Key theorems include:
    * `Command.eq_received_of_ofLine`
    * `Command.eq_tunneled_of_ofJson`
    * `Answer.eq_received_of_ofLine`
    * `Answer.eq_tunneled_of_ofJson`
    * `transports_agree_iff`
-/

------------------------------------------------------------
-- Optional Parts
------------------------------------------------------------

namespace Courier

namespace Line

/-
  Fields and an object that a line keeps apart: the object
  is read back from its text, and no field in front of
  another part ends in the first part of a separator.
-/
structure KeepsApart
    (fields : List String)
    (object : Option Json) : Prop where
  readsBack : ReadsBack object
  isClosed :
    ∀ f ∈ followed fields object,
      endsInHalf f.toList = false

/- An optional text is the same in a line if it is not empty. -/
theorem optional_getD_eq_iff
    {field : Option String} :
    optional (field.getD "") = field ↔ field ≠ some "" := by
  constructor
  · rintro hSame rfl
    cases hSame
  · exact optional_getD

end Line

/- An object is the same as a member if it is not null. -/
theorem Json.present?_eq_iff
    {object : Option Json} :
    Json.present? object = object ↔ object ≠ some .null := by
  constructor
  · rintro hSame rfl
    cases hSame
  · intro hNot
    cases object with
    | none => rfl
    | some value =>
        cases value with
        | null => exact absurd rfl hNot
        | _ => rfl

end Courier

------------------------------------------------------------
-- Commands
------------------------------------------------------------

namespace Courier

namespace Command

/- The command as its JSON text spells it. -/
def tunneled
    (c : Command) : Command :=
  { c.arrived with object := Json.present? c.object }

variable {c found : Command}
variable {line : String}

/- What is read from the line of a command. -/
theorem eq_received_of_ofLine
    (hApart : Line.KeepsApart c.fields c.object)
    (hLine : c.toLine = .ok line)
    (hRead : ofLine line = .ok found) :
    found = c.received := by
  rw [ofLine_eq_ofFields hApart.readsBack hLine
    hApart.isClosed] at hRead
  have hFormed := isWellFormed_of_ofFields hRead
  -- The names are checked, so they are not empty.
  have hId : found.dispatcherId = c.dispatcherId :=
    Option.some.inj
      (fields_of_ofFields hRead (i := 1) (by decide))
  have hName : found.name = c.name :=
    Option.some.inj
      (fields_of_ofFields hRead (i := 2) (by decide))
  have hIdSome := hFormed.dispatcherId
  have hNameSome := hFormed.name
  rw [hId] at hIdSome
  rw [hName] at hNameSome
  rw [ofFields_fields hIdSome hNameSome] at hRead
  exact (Except.ok.inj hRead).symm

/- What is read from the JSON text of a command. -/
theorem eq_tunneled_of_ofJson
    (hObject : Line.ReadsBack c.object)
    (hRead : ofJson c.toJson = .ok found) :
    found = c.tunneled := by
  rw [ofJson_toJson_eq hObject] at hRead
  split at hRead
  · next object hFound =>
      cases hRead
      rw [Record.optional?_document hObject hFound]
      rfl
  · cases hRead

/- When a command is the same over both transports. -/
theorem received_eq_tunneled_iff :
    c.received = c.tunneled ↔
      c.fileId ≠ some "" ∧
        c.domain ≠ some "" ∧
        c.object ≠ some .null := by
  rw [← Line.optional_getD_eq_iff, ← Line.optional_getD_eq_iff,
    ← Json.present?_eq_iff, eq_comm (b := c.object)]
  simp [received, tunneled, arrived]

end Command

end Courier

------------------------------------------------------------
-- Answers
------------------------------------------------------------

namespace Courier

namespace Answer

/- The answer as its line spells it. -/
def received
    (a : Answer) : Answer :=
  { a with fileId := Line.optional (a.fileId.getD "") }

/- The answer as its JSON text spells it. -/
def tunneled
    (a : Answer) : Answer :=
  { a with object := Json.present? a.object }

variable {a found : Answer}
variable {line : String}

/- A success with a failure is not read from its fields. -/
theorem isWellFormed_of_fields
    (hRead : ofFields a.fields a.object = .ok found) :
    a.IsWellFormed := by
  intro hSome
  cases hFailure : a.status.isFailure with
  | true => rfl
  | false =>
      have hCheck :
          (a.failure.isSome && !a.status.isFailure) = true := by
        rw [hSome, hFailure]
        rfl
      simp only [ofFields, fields, statusOfField_code,
        failureOfField_name, hCheck, bind, Except.bind]
        at hRead
      cases hRead

/- What is read from the line of an answer. -/
theorem eq_received_of_ofLine
    (hApart : Line.KeepsApart a.fields a.object)
    (hLine : a.toLine = .ok line)
    (hRead : ofLine line = .ok found) :
    found = a.received := by
  rw [ofLine_eq_ofFields hApart.readsBack hLine
    hApart.isClosed] at hRead
  rw [ofFields_fields (isWellFormed_of_fields hRead)]
    at hRead
  exact (Except.ok.inj hRead).symm

/- What is read from the JSON text of an answer. -/
theorem eq_tunneled_of_ofJson
    (hObject : Line.ReadsBack a.object)
    (hRead : ofJson a.toJson = .ok found) :
    found = a.tunneled := by
  rw [ofJson_toJson_eq hObject] at hRead
  split at hRead
  · next object hFound =>
      cases hRead
      rw [Record.optional?_document hObject hFound]
      rfl
  · cases hRead

/- When an answer is the same over both transports. -/
theorem received_eq_tunneled_iff :
    a.received = a.tunneled ↔
      a.fileId ≠ some "" ∧ a.object ≠ some .null := by
  rw [← Line.optional_getD_eq_iff, ← Json.present?_eq_iff,
    eq_comm (b := a.object)]
  rcases a with
    ⟨status, entity, dataLength, fileId, failure, object⟩
  simp [received, tunneled]

end Answer

end Courier

------------------------------------------------------------
-- Both Envelopes
------------------------------------------------------------

namespace Courier

/-
  An envelope that arrives over both transports arrives as
  the same one exactly if it has no optional text that is
  empty and no object that is null.  Otherwise an empty text
  is absent on the one side, a null object is absent on the
  other, and nothing else is different.
-/
theorem transports_agree_iff
    (c : Command)
    (a : Answer)
    (hCommand : Line.KeepsApart c.fields c.object)
    (hAnswer : Line.KeepsApart a.fields a.object) :
    (∀ line c₁ c₂,
      c.toLine = .ok line →
      Command.ofLine line = .ok c₁ →
      Command.ofJson c.toJson = .ok c₂ →
        c₁ = c.received ∧
          c₂ = c.tunneled ∧
          (c₁ = c₂ ↔
            c.fileId ≠ some "" ∧
              c.domain ≠ some "" ∧
              c.object ≠ some .null)) ∧
    (∀ line a₁ a₂,
      a.toLine = .ok line →
      Answer.ofLine line = .ok a₁ →
      Answer.ofJson a.toJson = .ok a₂ →
        a₁ = a.received ∧
          a₂ = a.tunneled ∧
          (a₁ = a₂ ↔
            a.fileId ≠ some "" ∧ a.object ≠ some .null)) := by
  constructor
  · intro line c₁ c₂ hLine hFirst hSecond
    have hReceived :=
      Command.eq_received_of_ofLine hCommand hLine hFirst
    have hTunneled :=
      Command.eq_tunneled_of_ofJson hCommand.readsBack hSecond
    subst hReceived hTunneled
    exact ⟨rfl, rfl, Command.received_eq_tunneled_iff⟩
  · intro line a₁ a₂ hLine hFirst hSecond
    have hReceived :=
      Answer.eq_received_of_ofLine hAnswer hLine hFirst
    have hTunneled :=
      Answer.eq_tunneled_of_ofJson hAnswer.readsBack hSecond
    subst hReceived hTunneled
    exact ⟨rfl, rfl, Answer.received_eq_tunneled_iff⟩

/- A command with a domain and an object. -/
def attachedCommand : Command :=
  { Command.make "log" "LOG" with
    domain := some "eu"
    object := some (.array [.text "#|", .null]) }

/- An answer with an object that is null. -/
def nullAnswer : Answer :=
  { Answer.ok "done" with object := some .null }

/- An object is the same on both sides unless it is null. -/
theorem transports_agree_iff_null :
    Line.KeepsApart attachedCommand.fields
        attachedCommand.object ∧
      Line.KeepsApart nullAnswer.fields nullAnswer.object ∧
      attachedCommand.received = attachedCommand.tunneled ∧
      nullAnswer.received ≠ nullAnswer.tunneled := by
  have hCommand :
      Line.KeepsApart attachedCommand.fields
        attachedCommand.object := by
    refine ⟨?_, by decide⟩
    intro value hValue
    cases hValue
    rfl
  have hAnswer :
      Line.KeepsApart nullAnswer.fields nullAnswer.object := by
    refine ⟨?_, by decide⟩
    intro value hValue
    cases hValue
    rfl
  have hCommandLine :
      attachedCommand.toLine =
        .ok
          "#|#log#|#LOG#|##|#0#|##|#eu#|#WyIjfCIsbnVsbF0=" := by
    rfl
  have hCommandJson :
      Command.ofJson attachedCommand.toJson =
        .ok attachedCommand.tunneled := by
    rw [Command.ofJson_toJson_eq hCommand.readsBack]
    rfl
  have hAnswerLine :
      nullAnswer.toLine =
        .ok "1#|#done#|#0#|##|##|#bnVsbA==" := by
    rfl
  have hAnswerRead :
      Answer.ofLine "1#|#done#|#0#|##|##|#bnVsbA==" =
        .ok nullAnswer.received := by
    rw [Answer.ofLine_eq_ofFields hAnswer.readsBack hAnswerLine
      hAnswer.isClosed]
    exact Answer.ofFields_fields nofun
  have hAnswerJson :
      Answer.ofJson nullAnswer.toJson =
        .ok nullAnswer.tunneled := by
    rw [Answer.ofJson_toJson_eq hAnswer.readsBack]
    rfl
  rcases
    transports_agree_iff attachedCommand nullAnswer hCommand
      hAnswer with
    ⟨hFirst, hSecond⟩
  have hSame :=
    hFirst _ _ _ hCommandLine
      (Command.ofLine_of_closed ⟨by decide, by decide⟩
        hCommand.readsBack hCommandLine hCommand.isClosed)
      hCommandJson
  have hOther :=
    hSecond _ _ _ hAnswerLine hAnswerRead hAnswerJson
  refine ⟨hCommand, hAnswer, ?_, ?_⟩
  · exact hSame.2.2.mpr ⟨nofun, by decide, nofun⟩
  · intro hEqual
    exact (hOther.2.2.mp hEqual).2 rfl

/- An empty file id is absent in a line and kept in JSON. -/
theorem not_forall_transports_agree :
    ¬ ∀ (c : Command) (a : Answer),
      Line.KeepsApart c.fields c.object →
      Line.KeepsApart a.fields a.object →
        (∀ line c₁ c₂,
          c.toLine = .ok line →
          Command.ofLine line = .ok c₁ →
          Command.ofJson c.toJson = .ok c₂ →
            c₁ = c₂) ∧
        (∀ line a₁ a₂,
          a.toLine = .ok line →
          Answer.ofLine line = .ok a₁ →
          Answer.ofJson a.toJson = .ok a₂ →
            a₁ = a₂) := by
  intro hAll
  have hSame :=
    (hAll
      { Command.make "log" "LOG" with fileId := some "" }
      Answer.health ⟨nofun, by decide⟩
      ⟨nofun, by decide⟩).1 "#|#log#|#LOG#|##|#0#|##|#"
      (Command.make "log" "LOG")
      { Command.make "log" "LOG" with fileId := some "" }
      rfl rfl (Command.ofJson_toJson nofun)
  have hFileId := congrArg Command.fileId hSame
  cases hFileId

end Courier
