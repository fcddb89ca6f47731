import Courier.Proofs.Envelope.Readable

/-
  What a server makes of the line of a command.

  Only the entity and the domain of a command may end in the
  first part of a separator.  Then the command comes back as
  it is, up to optional texts that are empty, or its line is
  refused, and it is never taken for another command.

  Key definitions include:
    * `Command.received`

  Key theorems include:
    * `Command.ofLine_cases`
    * `Answer.status_of_ofLine`
-/

------------------------------------------------------------
-- Commands
------------------------------------------------------------

namespace Courier

namespace Command

/- The command as its line spells it. -/
def received
    (c : Command) : Command :=
  { c.arrived with
    fileId := Line.optional (c.fileId.getD "")
    domain := Line.optional (c.domain.getD "") }

/- A command that names a dispatcher and a verb. -/
structure IsNamed
    (c : Command) : Prop where
  dispatcherId : c.dispatcherId ≠ ""
  name : c.name ≠ ""

/-
  A command comes back from its line if no field with a part
  behind it ends in the first part of a separator.
-/
theorem ofLine_of_closed
    {c : Command}
    {line : String}
    (hNamed : c.IsNamed)
    (hObject : Line.ReadsBack c.object)
    (hLine : c.toLine = .ok line)
    (hClosed :
      ∀ f ∈ Line.followed c.fields c.object,
        Line.endsInHalf f.toList = false) :
    ofLine line = .ok c.received := by
  rw [ofLine_eq_ofFields hObject hLine hClosed]
  exact ofFields_fields hNamed.dispatcherId hNamed.name

/- A field in the place of a length is one. -/
theorem exists_length_of_ofFields
    {texts : List String}
    {object : Option Json}
    {c : Command}
    (hRead : ofFields texts object = .ok c) :
    texts.length = 7 ∧
      ∃ length,
        texts[4]? = some length ∧
          Line.length length = .ok c.dataLength := by
  unfold ofFields at hRead
  split at hRead
  · split at hRead
    · cases hRead
    · split at hRead
      · cases hRead
      · next hLength =>
          cases hRead
          exact ⟨rfl, _, rfl, hLength⟩
  · cases hRead

/-
  A field that ends in the first part of a separator takes
  the bar of the separator behind it over into the next
  place.  If it is none of the named ones, the line is
  refused.
-/
theorem ofLine_of_half
    {c : Command}
    {line : String}
    (hLine : c.toLine = .ok line)
    (hClosed :
      ∀ f ∈ [c.serverName, c.dispatcherId, c.name,
          c.fileId.getD ""],
        Line.endsInHalf f.toList = false)
    (hHalf :
      ∃ f ∈ Line.followed c.fields c.object,
        Line.endsInHalf f.toList = true) :
    ∃ e, ofLine line = .error e := by
  cases hRead : ofLine line with
  | error e => exact ⟨e, rfl⟩
  | ok found =>
      exfalso
      unfold ofLine at hRead
      split at hRead
      · cases hRead
      next texts object hSplit =>
      rcases
        Line.exists_shortened_of_split hLine hHalf hSplit
        with ⟨i, short, next, hField, -, hNext⟩
      rcases exists_length_of_ofFields hRead with
        ⟨hSeven, length, hAt, hLength⟩
      have hEnd :
          Line.endsInHalf
              (String.ofList (short ++ ['#', '|'])).toList =
            true := by
        rw [String.toList_ofList, Line.endsInHalf,
          List.isSuffixOf_iff_suffix]
        exact List.suffix_append short ['#', '|']
      have hNot (f : String)
          (hMem :
            f ∈ [c.serverName, c.dispatcherId, c.name,
              c.fileId.getD ""])
          (hSame :
            f = String.ofList (short ++ ['#', '|'])) :
          False := by
        have hFalse := hClosed f hMem
        rw [hSame, hEnd] at hFalse
        cases hFalse
      -- the places are those of the seven fields
      rcases i with _ | _ | _ | _ | _ | _ | _ | i
      · exact hNot _ (by simp) (Option.some.inj hField)
      · exact hNot _ (by simp) (Option.some.inj hField)
      · exact hNot _ (by simp) (Option.some.inj hField)
      · -- the bar takes the place of a length
        rw [hNext] at hAt
        cases hAt
        rcases Line.length_of_bar next with ⟨e, hError⟩
        rw [hError] at hLength
        cases hLength
      · have hNumber := Option.some.inj hField
        rw [← hNumber, Line.endsInHalf_toString] at hEnd
        cases hEnd
      · exact hNot _ (by simp) (Option.some.inj hField)
      · have hShort := (List.getElem?_eq_some_iff.mp hNext).1
        omega
      · cases hField

/-
  A command comes back from its line, or its line is
  refused, if only its entity and its domain may end in the
  first part of a separator.
-/
theorem ofLine_cases
    {c : Command}
    {line : String}
    (hNamed : c.IsNamed)
    (hObject : Line.ReadsBack c.object)
    (hLine : c.toLine = .ok line)
    (hClosed :
      ∀ f ∈ [c.serverName, c.dispatcherId, c.name,
          c.fileId.getD ""],
        Line.endsInHalf f.toList = false) :
    ofLine line = .ok c.received ∨
      ∃ e, ofLine line = .error e := by
  by_cases hHalf :
      ∃ f ∈ Line.followed c.fields c.object,
        Line.endsInHalf f.toList = true
  · exact Or.inr (ofLine_of_half hLine hClosed hHalf)
  · have hWhole :
        ∀ f ∈ Line.followed c.fields c.object,
          Line.endsInHalf f.toList = false := by
      simpa only [not_exists, not_and,
        Bool.not_eq_true] using hHalf
    exact
      Or.inl (ofLine_of_closed hNamed hObject hLine hWhole)

end Command

end Courier

------------------------------------------------------------
-- Answers
------------------------------------------------------------

namespace Courier

namespace Answer

/- The status of an answer is never lost on its way. -/
theorem status_of_ofLine
    {a found : Answer}
    {line : String}
    (hLine : a.toLine = .ok line)
    (hRead : ofLine line = .ok found) :
    found.status = a.status := by
  rcases Line.dropLineBreaks_join hLine with ⟨hSep, hDrop⟩
  obtain ⟨second, more, hPieces⟩ :
      ∃ second more,
        Line.pieces a.fields a.object =
          (toString a.status.code).toList ::
            second :: more := by
    unfold Line.pieces fields
    cases a.object with
    | none => exact ⟨_, _, rfl⟩
    | some value => exact ⟨_, _, rfl⟩
  rw [hPieces] at hSep hDrop
  have hCode : Line.IsClear (toString a.status.code).toList :=
    ⟨hSep _ List.mem_cons_self, endsInHalf_code a.status⟩
  rw [List.intercalate_cons_cons] at hDrop
  unfold ofLine at hRead
  split at hRead
  · cases hRead
  · next texts object hSplit =>
      rcases exists_texts_of_ofFields hRead with
        ⟨code, length, failure, hTexts, hStatus, -⟩
      have hCut := Line.texts_of_split hSplit
      rw [hDrop, Line.fields_append _ hCode, hTexts] at hCut
      simp only [fieldCount, List.take_succ_cons,
        List.map_cons, List.cons.injEq,
        String.ofList_toList] at hCut
      rw [hCut.1, statusOfField_code] at hStatus
      exact (Except.ok.inj hStatus).symm

end Answer

end Courier
