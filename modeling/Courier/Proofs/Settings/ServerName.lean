import Courier.Proofs.Envelope.RoundTrip
import Courier.Proofs.Envelope.Whole
import Courier.Proofs.Settings.Acceptance
import Courier.Proofs.Stream.Frame
import Courier.Server.Startup

/-
  Names of servers in commands.

  The checks of a configuration refuse a name that a line
  cannot hold, but they do not know all of these.  A command
  with an accepted name gets to a server of that name exactly
  if the name has no carriage return and does not end in the
  first part of a separator, provided that the rest of the
  command can get there.

  Key definitions include:
    * `Command.HasWholeRest`
    * `Config.Delivers`

  Key theorems include:
    * `Validation.serverName_eq_ok_iff`
    * `Command.ofLine_eq_of_whole`
    * `Config.delivers_iff`
-/

------------------------------------------------------------
-- Accepted Names
------------------------------------------------------------

namespace Courier

namespace Validation

/- The names that are accepted. -/
theorem serverName_eq_ok_iff
    {name : String} :
    serverName name = .ok () ↔
      name ≠ "" ∧
        Line.hasSeparator name.toList = false ∧
          '\n' ∉ name.toList := by
  unfold serverName
  simp only [String.isEmpty_iff]
  split
  · next hNone => simp [hNone]
  · next hSome =>
      split
      · next hBad =>
          rcases hBad with hSep | hBreak
          · simp [hSep]
          · simp [hBreak]
      · next hGood =>
          rcases not_or.mp hGood with ⟨hSep, hBreak⟩
          simp [hSome, hSep, hBreak]

/- An accepted name fits a line unless it has a return. -/
theorem fits_iff_of_serverName
    {name : String}
    (hAccepted : serverName name = .ok ()) :
    Line.Fits name.toList ↔ '\r' ∉ name.toList := by
  rcases serverName_eq_ok_iff.mp hAccepted with
    ⟨-, hSep, hFeed⟩
  unfold Line.Fits
  rw [and_iff_right hSep]
  constructor
  · intro hNone hReturn
    exact absurd (hNone '\r' hReturn) (by decide)
  · intro hReturn d hMem
    have hNotReturn : d ≠ '\r' := fun hEq => hReturn (hEq ▸ hMem)
    have hNotFeed : d ≠ '\n' := fun hEq => hFeed (hEq ▸ hMem)
    simp [Line.isLineBreak, hNotReturn, hNotFeed]

end Validation

namespace Config

variable {c : Config}
variable {files : FileView}

/- A server has the name in its configuration. -/
theorem name_of_make
    {registry : Registry}
    {store : Option Store}
    {b : Backend}
    (hMade : Backend.make c files registry store = .ok b) :
    b.server.name = c.serverName := by
  unfold Backend.make at hMade
  split at hMade
  · cases hMade
  · split at hMade
    · cases hMade
    · cases hMade
      rfl

end Config

end Courier

------------------------------------------------------------
-- Commands That Are Whole But for the Name
------------------------------------------------------------

namespace Courier

namespace Command

/- All fields of the command but the server name are whole. -/
def HasWholeRest
    (m : Command) : Prop :=
  ∀ f ∈ m.fields.tail, Line.IsWhole f.toList

variable {m : Command}

/- A part of a line stands behind the server name. -/
theorem serverName_mem_followed
    (m : Command) :
    m.serverName ∈ Line.followed m.fields m.object := by
  unfold Line.followed
  cases m.object with
  | none => exact List.mem_cons_self
  | some value => exact List.mem_cons_self

/- Only the server name can end in part of a separator. -/
theorem HasWholeRest.endsInHalf
    (hRest : m.HasWholeRest) :
    (∀ f ∈ Line.followed m.fields m.object,
        Line.endsInHalf f.toList = false) ↔
      Line.endsInHalf m.serverName.toList = false := by
  constructor
  · intro hAll
    exact hAll _ m.serverName_mem_followed
  · intro hName f hMem
    rcases List.mem_cons.mp
        ((Line.followed_prefix _ _).subset hMem) with
      rfl | hTail
    · exact hName
    · exact (hRest f hTail).2

/- The line of the command is written if the name fits. -/
theorem HasWholeRest.exists_toLine_iff
    (hRest : m.HasWholeRest) :
    (∃ line, m.toLine = .ok line) ↔
      Line.Fits m.serverName.toList := by
  constructor
  · rintro ⟨line, hLine⟩
    exact
      (Line.join_eq_ok_iff.mp hLine).1 _ List.mem_cons_self
  · intro hName
    refine ⟨_, Line.join_eq_ok_iff.mpr ⟨?_, rfl⟩⟩
    intro f hMem
    rcases List.mem_cons.mp hMem with rfl | hTail
    · exact hName
    · exact (hRest f hTail).1

/-
  The line is read as the fields of the command, with what
  comes back of its object.
-/
theorem ofLine_eq_of_whole
    {line : String}
    (hLine : m.toLine = .ok line)
    (hHalf :
      ∀ f ∈ Line.followed m.fields m.object,
        Line.endsInHalf f.toList = false) :
    ofLine line =
      (Line.returned m.object).bind (ofFields m.fields) := by
  have hSplit : Line.split line fieldCount = _ :=
    Line.split_join_eq (List.cons_ne_nil _ _) hLine hHalf
  rw [ofLine, hSplit]
  cases Line.returned m.object with
  | error e => rfl
  | ok found => rfl

/-
  The fields of a command spell one for the same server if
  they name a dispatcher and a verb, and else none.
-/
theorem exists_ofFields_iff
    (m : Command)
    (object : Option Json) :
    (∃ found,
        ofFields m.fields object = .ok found ∧
          found.serverName = m.serverName) ↔
      m.dispatcherId ≠ "" ∧ m.name ≠ "" := by
  constructor
  · rintro ⟨found, hRead, -⟩
    by_cases hEmpty :
      (m.dispatcherId.isEmpty || m.name.isEmpty) = true
    · simp only [ofFields, fields, hEmpty, if_true] at hRead
      cases hRead
    · simpa using hEmpty
  · rintro ⟨hId, hName⟩
    have hRead :
        ofFields m.fields object = .ok _ :=
      ofFields_fields (c := { m with object := object })
        hId hName
    exact ⟨_, hRead, rfl⟩

/-
  A name that comes back from its line does not end in part
  of a separator.
-/
theorem HasWholeRest.endsInHalf_of_ofLine
    {line : String}
    {found : Command}
    (hRest : m.HasWholeRest)
    (hLine : m.toLine = .ok line)
    (hRead : ofLine line = .ok found)
    (hName : found.serverName = m.serverName) :
    Line.endsInHalf m.serverName.toList = false := by
  unfold ofLine at hRead
  split at hRead
  · cases hRead
  · next texts object hSplit =>
      apply hRest.endsInHalf.mp
      apply Line.endsInHalf_of_split hLine hSplit
      intro i f hField hEnd
      cases i with
      | zero =>
          cases hField
          rw [← fields_of_ofFields hRead (by decide)]
          exact congrArg some hName
      | succ n =>
          have hMem : f ∈ m.fields.tail :=
            List.mem_of_getElem? (i := n) hField
          rw [(hRest f hMem).2] at hEnd
          cases hEnd

end Command

end Courier

------------------------------------------------------------
-- Delivery
------------------------------------------------------------

namespace Courier

namespace Config

/-
  The command can be sent, and a server of the configuration
  reads it as one that is meant for it.
-/
structure Delivers
    (c : Config)
    (files : FileView)
    (m : Command)
    (line : String)
    (found : Command) : Prop where
  written : m.toLine = .ok line
  sent :
    ∀ limit w,
      w.IsOpen →
      (Utf8.encode line.toList).length ≤ Frame.maxLength →
        (Frame.writeCommand limit w m).outcome =
          some (.ok ())
  read : Command.ofLine line = .ok found
  name : found.serverName = c.serverName
  accepted :
    ∀ registry store b,
      Backend.make c files registry store = .ok b →
        b.server.wrongServer? found = none

variable {c : Config}
variable {files : FileView}
variable {m : Command}

/- A command with a line can be sent. -/
theorem outcome_writeCommand
    {line : String}
    {w : Stream.Writer}
    (limit : Nat)
    (hLine : m.toLine = .ok line)
    (hOpen : w.IsOpen)
    (hShort :
      (Utf8.encode line.toList).length ≤ Frame.maxLength) :
    (Frame.writeCommand limit w m).outcome =
      some (.ok ()) := by
  have hFrame := Frame.encode_eq_ok_iff.mpr ⟨hShort, rfl⟩
  rcases Frame.write_of_encode limit hOpen hFrame with
    ⟨w', hWrite, -, -⟩
  rw [Frame.writeCommand, hLine, Frame.writeLine, hWrite]

/-
  A command with the name that the checks have accepted, and
  without anything else that a line cannot hold, is delivered
  exactly if the name has no carriage return and does not end
  in part of a separator, a dispatcher and a verb are named,
  and the attached object can be read.
-/
theorem delivers_iff
    (hValid : c.validate files = .ok ())
    (hStamped : m.serverName = c.serverName)
    (hRest : m.HasWholeRest) :
    (∃ line found, c.Delivers files m line found) ↔
      ('\r' ∉ c.serverName.toList ∧
        Line.endsInHalf c.serverName.toList = false) ∧
      (m.dispatcherId ≠ "" ∧ m.name ≠ "") ∧
      ∃ object, Line.returned m.object = .ok object := by
  have hFits :
      Line.Fits m.serverName.toList ↔
        '\r' ∉ c.serverName.toList := by
    rw [hStamped]
    exact
      Validation.fits_iff_of_serverName
        (validate_eq_ok_iff.mp hValid).name
  rw [← hFits, ← hStamped]
  constructor
  · rintro ⟨line, found, hDelivers⟩
    have hLine := hDelivers.written
    have hRead := hDelivers.read
    have hName : found.serverName = m.serverName :=
      hDelivers.name.trans hStamped.symm
    have hHalf :=
      hRest.endsInHalf_of_ofLine hLine hRead hName
    rw [Command.ofLine_eq_of_whole hLine
      (hRest.endsInHalf.mpr hHalf)] at hRead
    cases hObject : Line.returned m.object with
    | error e =>
        rw [hObject] at hRead
        cases hRead
    | ok object =>
        rw [hObject] at hRead
        exact
          ⟨⟨hRest.exists_toLine_iff.mp ⟨line, hLine⟩, hHalf⟩,
            (m.exists_ofFields_iff object).mp
              ⟨found, hRead, hName⟩,
            object, rfl⟩
  · rintro ⟨⟨hName, hHalf⟩, hNamed, object, hObject⟩
    rcases hRest.exists_toLine_iff.mpr hName with
      ⟨line, hLine⟩
    rcases (m.exists_ofFields_iff object).mpr hNamed with
      ⟨found, hFound, hSame⟩
    refine ⟨line, found, ?_⟩
    refine
      { written := hLine
        sent := fun limit w => outcome_writeCommand limit hLine
        read := ?_
        name := hSame.trans hStamped
        accepted := fun registry store b hMade => ?_ }
    · rw [Command.ofLine_eq_of_whole hLine
        (hRest.endsInHalf.mpr hHalf), hObject]
      exact hFound
    · rw [Server.wrongServer?, name_of_make hMade, hSame,
        hStamped, if_pos (Or.inr rfl)]

/- A command of a configuration that its author has named. -/
def logCommand
    (name : String) : Command :=
  { { Config.default with serverName := name }.newCommand
      "log" "LOG" with
    object := some (.array [.text "#|#", .null]) }

/- Nothing but the name can trouble the line of a command. -/
theorem hasWholeRest_logCommand
    (name : String) :
    (logCommand name).HasWholeRest := by
  intro f hMem
  have hFields :
      (logCommand name).fields.tail =
        ["log", "LOG", "", toString 0, "", ""] :=
    rfl
  have hBare :
      ∀ f ∈ ["log", "LOG", "", toString 0, "", ""],
        Line.IsBare f.toList := by
    decide
  rw [hFields] at hMem
  exact Line.isWhole_of_isBare (hBare f hMem)

/- The object of the command comes back. -/
theorem readsBack_logCommand
    (name : String) :
    Line.ReadsBack (logCommand name).object := by
  rintro value ⟨⟩
  rfl

/- A name with parts of a separator at its front delivers. -/
theorem delivers_iff_overlap :
    ({ Config.default with serverName := "|#a#b" }
        : Config).validate (fun _ => .error .notFound) =
      .ok () ∧
    (logCommand "|#a#b").serverName = "|#a#b" ∧
    (logCommand "|#a#b").HasWholeRest ∧
    ∃ line found,
      ({ Config.default with serverName := "|#a#b" }
          : Config).Delivers (fun _ => .error .notFound)
        (logCommand "|#a#b") line found := by
  have hValid :
      ({ Config.default with serverName := "|#a#b" }
          : Config).validate (fun _ => .error .notFound) =
        .ok () := by
    rfl
  have hRest := hasWholeRest_logCommand "|#a#b"
  refine ⟨hValid, rfl, hRest, ?_⟩
  refine (delivers_iff hValid rfl hRest).mpr ?_
  exact
    ⟨by decide, by decide, _,
      Line.returned_of_readsBack (readsBack_logCommand _)⟩

/- A carriage return in the name is accepted, but not sent. -/
theorem not_forall_delivers :
    ¬ ∀ (c : Config) (files : FileView) (m : Command),
      c.validate files = .ok () →
        m.serverName = c.serverName →
        m.HasWholeRest →
        m.dispatcherId ≠ "" →
        m.name ≠ "" →
        Line.ReadsBack m.object →
          ∃ line found, c.Delivers files m line found := by
  intro hAll
  rcases
    hAll { Config.default with serverName := "a\r" }
      (fun _ => .error .notFound) (logCommand "a\r") rfl rfl
      (hasWholeRest_logCommand "a\r") (by decide) (by decide)
      (readsBack_logCommand "a\r") with
    ⟨line, found, hDelivers⟩
  have hFailed :
      (logCommand "a\r").toLine =
        .error (.malformed (.lineBreakInField "a\r")) := by
    rfl
  rw [hDelivers.written] at hFailed
  cases hFailed

end Config

end Courier
