import Courier.Proofs.Envelope.RoundTrip
import Courier.Proofs.Envelope.Whole
import Courier.Proofs.Json.Text

/-
  Answers that can be read by whoever gets them.

  The answers of a server itself hold one text that can go
  wrong, and they are readable exactly if that text stays
  whole.

  Key definitions include:
    * `Answer.IsReadable`
    * `Answer.HoldsOneText`
    * `Command.IsClear`

  Key theorems include:
    * `Answer.isReadable_iff`
    * `Command.isClear_of_ofLine`
-/

------------------------------------------------------------
-- Readable Answers
------------------------------------------------------------

namespace Courier

namespace Answer

/- The answer has a line, and that line spells an answer. -/
def IsReadable
    (a : Answer) : Prop :=
  ∃ line found, a.toLine = .ok line ∧ ofLine line = .ok found

/-
  The answer can be written in one way, and if it has a file
  id, that is its text.
-/
structure HoldsOneText
    (a : Answer) : Prop where
  isPlain : a.IsPlain
  fileId : a.fileId = none ∨ a.fileId = some a.entity

/- A text that follows a separator. -/
theorem holdsOneText_error
    (f : Failure)
    (text : String) :
    (error f text).HoldsOneText :=
  ⟨⟨by simp [error, make], fun _ => rfl, nofun⟩, Or.inl rfl⟩

/- The refusal of a file command holds one text. -/
theorem holdsOneText_fileNok
    (f : Failure)
    (text : String) :
    (fileNok f text).HoldsOneText :=
  ⟨⟨by simp [fileNok, make], fun _ => rfl, nofun⟩, Or.inl rfl⟩

/- The answer of a server that is alive holds one text. -/
theorem holdsOneText_health :
    health.HoldsOneText :=
  ⟨⟨by simp [health, make], nofun, nofun⟩, Or.inl rfl⟩

/- Good news about a file hold one text, its file id. -/
theorem holdsOneText_fileOk
    {fileId : String}
    (dataLength : UInt64)
    (hSome : fileId ≠ "") :
    ({ fileOk fileId with dataLength := dataLength }
      : Answer).HoldsOneText := by
  refine ⟨⟨?_, nofun, ?_⟩, Or.inr rfl⟩
  · simpa [fileOk] using hSome
  · intro value hValue
    cases hValue
    exact Json.read?_text fileId

end Answer

end Courier

------------------------------------------------------------
-- Whole Texts
------------------------------------------------------------

namespace Courier

namespace Answer

/- The code of a status is bare. -/
theorem isBare_code
    (s : Status) :
    Line.IsBare (toString s.code).toList := by
  cases s <;> decide

/- The name of a failure is bare. -/
theorem isBare_name
    (f : Option Failure) :
    Line.IsBare ((f.map Failure.name).getD "").toList := by
  cases f with
  | none => exact List.forall_mem_nil _
  | some f => cases f <;> decide

/- With a whole text all fields are whole. -/
theorem isWhole_fields
    {a : Answer}
    (hText : a.HoldsOneText)
    (hWhole : Line.IsWhole a.entity.toList) :
    ∀ f ∈ a.fields, Line.IsWhole f.toList := by
  have hFileId : Line.IsWhole (a.fileId.getD "").toList := by
    rcases hText.fileId with hNone | hSame
    · rw [hNone]
      exact Line.isWhole_of_isBare (List.forall_mem_nil _)
    · rw [hSame]
      exact hWhole
  have hCode := Line.isWhole_of_isBare (isBare_code a.status)
  have hLength :=
    Line.isWhole_of_isBare
      (Line.isBare_toString a.dataLength.toNat)
  have hName := Line.isWhole_of_isBare (isBare_name a.failure)
  simp only [fields, List.forall_mem_cons,
    List.not_mem_nil, false_implies, implies_true, and_true]
  exact ⟨hCode, hWhole, hLength, hFileId, hName⟩

/- With a whole text the answer comes back as it is. -/
theorem ofLine_of_isWhole
    {a : Answer}
    (hText : a.HoldsOneText)
    (hWhole : Line.IsWhole a.entity.toList) :
    ∃ line, a.toLine = .ok line ∧ ofLine line = .ok a := by
  have hFields := isWhole_fields hText hWhole
  have hJoin :
      a.toLine =
        .ok
          (String.ofList
            (List.intercalate Line.separator
              (Line.pieces a.fields a.object))) :=
    Line.join_eq_ok_iff.mpr
      ⟨fun f hMem => (hFields f hMem).1, rfl⟩
  refine ⟨_, hJoin, ?_⟩
  rw [ofLine_eq_ok_iff hText.isPlain hJoin]
  intro f hMem
  have hPrefix := Line.followed_prefix a.fields a.object
  exact (hFields f (hPrefix.subset hMem)).2

end Answer

end Courier

------------------------------------------------------------
-- Texts That Are Not Whole
------------------------------------------------------------

namespace Courier

namespace Line

/- A length does not start with a bar. -/
theorem length_of_bar
    (chars : List Char) :
    ∃ e, length (String.ofList ('|' :: chars)) = .error e := by
  have hSome :
      (String.ofList ('|' :: chars)).isEmpty = false := by
    simp
  have hNone :
      Numeral.natural64? (String.ofList ('|' :: chars)) =
        none := by
    simp [Numeral.natural64?, Numeral.natural?,
      Numeral.digits?, Numeral.isDigit]
  unfold length
  rw [hSome, hNone]
  exact ⟨_, rfl⟩

end Line

namespace Answer

/- The text of an answer that spells one has no open end. -/
theorem endsInHalf_of_isReadable
    {a found : Answer}
    {line : String}
    (hLine : a.toLine = .ok line)
    (hRead : ofLine line = .ok found) :
    Line.endsInHalf a.entity.toList = false := by
  cases hHalf : Line.endsInHalf a.entity.toList with
  | false => rfl
  | true =>
      rw [Line.endsInHalf, List.isSuffixOf_iff_suffix] at hHalf
      rcases hHalf with ⟨short, hShort⟩
      rcases Line.dropLineBreaks_join hLine with ⟨hSep, hDrop⟩
      obtain ⟨more, hPieces⟩ :
          ∃ more,
            Line.pieces a.fields a.object =
              (toString a.status.code).toList ::
                a.entity.toList ::
                  (toString a.dataLength.toNat).toList ::
                    more := by
        unfold Line.pieces fields
        cases a.object with
        | none => exact ⟨_, rfl⟩
        | some value => exact ⟨_, rfl⟩
      rw [hPieces] at hSep hDrop
      have hCode :
          Line.IsClear (toString a.status.code).toList :=
        ⟨hSep _ List.mem_cons_self, endsInHalf_code a.status⟩
      have hEntity :
          Line.hasSeparator (short ++ ['#', '|']) = false := by
        rw [hShort]
        exact hSep _ (by simp)
      rw [List.intercalate_cons_cons,
        List.intercalate_cons_cons, ← hShort] at hDrop
      unfold ofLine at hRead
      split at hRead
      · cases hRead
      · next texts object hSplit =>
          rcases exists_texts_of_ofFields hRead with
            ⟨code, length, failure, hTexts, -, hLength⟩
          have hCut := Line.texts_of_split hSplit
          rw [hDrop, Line.fields_append _ hCode,
            Line.fields_append_half _ hEntity] at hCut
          rcases Line.exists_fields_of_bar _ with
            ⟨field, others, hBar⟩
          rw [hBar, hTexts] at hCut
          simp only [fieldCount, List.take_succ_cons,
            List.map_cons, List.cons.injEq] at hCut
          have hText := hCut.2.2.1
          rcases Line.length_of_bar field with ⟨e, hError⟩
          rw [hText, hError] at hLength
          cases hLength

/-
  An answer with one text is readable exactly if that text
  stays whole.
-/
theorem isReadable_iff
    {a : Answer}
    (hText : a.HoldsOneText) :
    a.IsReadable ↔ Line.IsWhole a.entity.toList := by
  constructor
  · rintro ⟨line, found, hLine, hRead⟩
    have hFits := (Line.join_eq_ok_iff.mp hLine).1
    exact
      ⟨hFits a.entity (by simp [fields]),
        endsInHalf_of_isReadable hLine hRead⟩
  · intro hWhole
    rcases ofLine_of_isWhole hText hWhole with
      ⟨line, hLine, hRead⟩
    exact ⟨line, a, hLine, hRead⟩

end Answer

end Courier

------------------------------------------------------------
-- Commands That Were Read
------------------------------------------------------------

namespace Courier

namespace Command

/-
  The texts of the command are clear, up to the last one,
  which may end in anything.
-/
structure IsClear
    (c : Command) : Prop where
  serverName : Line.IsClear c.serverName.toList
  dispatcherId : Line.IsClear c.dispatcherId.toList
  name : Line.IsClear c.name.toList
  entity : Line.IsClear c.entity.toList
  fileId : Line.IsClear (c.fileId.getD "").toList
  domain : Line.hasSeparator (c.domain.getD "").toList = false

/- The text that names the file of a command is clear. -/
theorem IsClear.fileText
    {c : Command}
    (hClear : c.IsClear) :
    Line.IsClear (c.fileId.getD c.entity).toList := by
  have hFileId := hClear.fileId
  cases hId : c.fileId with
  | none => exact hClear.entity
  | some fileId =>
      rw [hId] at hFileId
      exact hFileId

/- The fields of a command that was read are cut out. -/
theorem exists_field_of_ofLine
    {line : String}
    {c : Command}
    (hRead : ofLine line = .ok c)
    {i : Nat}
    {text : String}
    (hField : c.fields[i]? = some text)
    (hLength : i ≠ 4) :
    ∃ all : List (List Char),
      7 ≤ all.length ∧
        all[i]? = some text.toList ∧
        (∀ f ∈ all, Line.hasSeparator f = false) ∧
        ∀ f ∈ all.dropLast, Line.IsClear f := by
  unfold ofLine at hRead
  split at hRead
  · cases hRead
  · next texts object hSplit =>
      have hCut := Line.texts_of_split hSplit
      have hSeven : texts.length = 7 := by
        unfold ofFields at hRead
        split at hRead
        · rfl
        · cases hRead
      rw [fields_of_ofFields hRead hLength] at hField
      have hIndex := (List.getElem?_eq_some_iff.mp hField).1
      have hShort := congrArg List.length hCut
      rw [hSeven, List.length_map, List.length_take,
        fieldCount] at hShort
      have hCount : i < fieldCount := by
        rw [fieldCount]
        omega
      rw [hCut, List.getElem?_map,
        List.getElem?_take_of_lt hCount,
        Option.map_eq_some_iff] at hField
      rcases hField with ⟨field, hAt, rfl⟩
      have hEnough :
          7 ≤ (Line.fields
            (Line.dropLineBreaks line.toList)).length := by
        omega
      refine ⟨_, hEnough, ?_, Line.fields_isClear _⟩
      rw [String.toList_ofList]
      exact hAt

/- The texts of a command that was read are clear. -/
theorem isClear_of_ofLine
    {line : String}
    {c : Command}
    (hRead : ofLine line = .ok c) :
    c.IsClear := by
  have hClear (i : Nat) (text : String)
      (hField : c.fields[i]? = some text)
      (hLength : i ≠ 4) (hLast : i < 6) :
      Line.IsClear text.toList := by
    rcases exists_field_of_ofLine hRead hField hLength with
      ⟨all, hEnough, hAt, -, hAll⟩
    have hDropped : all.dropLast[i]? = some text.toList := by
      rw [List.getElem?_dropLast, if_pos (by omega)]
      exact hAt
    exact hAll _ (List.mem_of_getElem? hDropped)
  constructor
  · exact hClear 0 _ rfl (by decide) (by decide)
  · exact hClear 1 _ rfl (by decide) (by decide)
  · exact hClear 2 _ rfl (by decide) (by decide)
  · exact hClear 3 _ rfl (by decide) (by decide)
  · exact hClear 5 _ rfl (by decide) (by decide)
  · have hField :
        c.fields[6]? = some (c.domain.getD "") := rfl
    rcases
      exists_field_of_ofLine hRead hField (by decide) with
      ⟨all, -, hAt, hAll, -⟩
    exact hAll _ (List.mem_of_getElem? hAt)

end Command

end Courier
