import Courier.Proofs.Envelope.Readable
import Courier.Proofs.Envelope.WellFormed
import Mathlib.Data.List.Forall2

/-
  Lines that are read, written again, and read once more.

  A line may spell an envelope in many ways: with signs and
  zeros in front of its numbers, with an empty part for an
  object, with blanks in the text of an object, with line
  breaks at its end.  Whatever was read can be written, and
  is read from that line again, because no field that was
  cut out can be cut at another place.

  Key definitions include:
    * `Line.IsSingle`
    * `Line.Rewrites`

  Key theorems include:
    * `Line.followed_of_split`
    * `Line.exists_join_of_split`
    * `Line.readsBack_of_split`
    * `ofLine_toLine_of_ofLine`
-/

------------------------------------------------------------
-- Single Lines
------------------------------------------------------------

namespace Courier

namespace Line

/- The text is one line, with line breaks at most behind it. -/
def IsSingle
    (line : String) : Prop :=
  ∃ text breaks,
    line.toList = text ++ breaks ∧
      (∀ c ∈ text, isLineBreak c = false) ∧
      ∀ c ∈ breaks, isLineBreak c = true

/- A line is single if it is cut between its two parts. -/
theorem IsSingle.of_all
    {line : String}
    (count : Nat)
    (hText :
      (line.toList.take count).all (!isLineBreak ·) = true)
    (hBreaks :
      (line.toList.drop count).all isLineBreak = true) :
    IsSingle line := by
  refine
    ⟨_, _, (List.take_append_drop count line.toList).symm, ?_,
      List.all_eq_true.mp hBreaks⟩
  intro c hMem
  have hPlain := List.all_eq_true.mp hText c hMem
  simpa using hPlain

/- A single line has no line breaks but those at its end. -/
theorem IsSingle.dropLineBreaks
    {line : String}
    (hSingle : IsSingle line) :
    ∀ c ∈ Line.dropLineBreaks line.toList,
      isLineBreak c = false := by
  rcases hSingle with ⟨text, breaks, hLine, hText, hBreaks⟩
  have hGone :
      (text ++ breaks).reverse.dropWhile isLineBreak =
        text.reverse.dropWhile isLineBreak := by
    rw [List.reverse_append]
    apply List.dropWhile_append_of_pos
    intro c hMem
    exact hBreaks c (List.mem_reverse.mp hMem)
  have hDrop :
      Line.dropLineBreaks line.toList =
        Line.dropLineBreaks text := by
    rw [hLine, Line.dropLineBreaks, hGone,
      Line.dropLineBreaks]
  rw [hDrop, dropLineBreaks_of_forall hText]
  exact hText

/- What is cut out of some characters is made of them. -/
theorem mem_of_mem_fields
    {chars field : List Char}
    {c : Char}
    (hField : field ∈ fields chars)
    (hMem : c ∈ field) :
    c ∈ chars := by
  induction hLength : chars.length using
      Nat.strongRecOn generalizing chars with
  | _ length ih =>
      cases hSep : hasSeparator chars with
      | false =>
          rw [fields_of_hasSeparator hSep,
            List.mem_singleton] at hField
          rwa [hField] at hMem
      | true =>
          rcases exists_leftmost hSep with
            ⟨first, rest, rfl, hClear⟩
          have hShorter : rest.length < length := by
            rw [← hLength]
            simp only [separator, List.length_append,
              List.length_cons]
            omega
          rw [fields_append rest hClear, List.mem_cons] at hField
          rcases hField with rfl | hLater
          · exact
              List.mem_append_left rest
                (List.mem_append_left separator hMem)
          · exact
              List.mem_append_right (first ++ separator)
                (ih _ hShorter hLater rfl)

end Line

end Courier

------------------------------------------------------------
-- Fields That Were Read
------------------------------------------------------------

namespace Courier

namespace Line

variable {line : String}
variable {count : Nat}
variable {texts : List String}
variable {object : Option Json}

/-
  A text with another part after it, once it is written
  again, had a separator after it when it was read.
-/
theorem followed_of_split
    (hSplit : split line count = .ok (texts, object)) :
    followed texts object <+:
      (fields (dropLineBreaks line.toList)).dropLast.map
        String.ofList := by
  rw [texts_of_split hSplit]
  simp only [split] at hSplit
  split at hSplit
  · next hAll =>
      cases hSplit
      refine ⟨[], ?_⟩
      rw [List.append_nil, followed, List.map_dropLast,
        List.take_of_length_le (Nat.le_of_eq hAll)]
  · split at hSplit
    · next hOneMore =>
        have hTake :
            (fields (dropLineBreaks line.toList)).take count =
              (fields (dropLineBreaks line.toList)).dropLast
            := by
          rw [List.dropLast_eq_take, hOneMore,
            Nat.add_sub_cancel]
        rw [hTake]
        exact followed_prefix _ object
    · cases hSplit

/- Texts of a single line fit a line. -/
theorem fits_of_split
    (hSingle : IsSingle line)
    (hSplit : split line count = .ok (texts, object)) :
    ∀ t ∈ texts, Fits t.toList := by
  intro t hText
  rw [texts_of_split hSplit, List.mem_map] at hText
  rcases hText with ⟨field, hTaken, rfl⟩
  have hField := List.mem_of_mem_take hTaken
  rw [String.toList_ofList]
  constructor
  · exact (fields_isClear _).1 field hField
  · intro c hMem
    exact
      hSingle.dropLineBreaks c (mem_of_mem_fields hField hMem)

/-
  No text with another part after it ends in the first part
  of a separator.
-/
theorem endsInHalf_of_followed
    (hSplit : split line count = .ok (texts, object)) :
    ∀ t ∈ followed texts object,
      endsInHalf t.toList = false := by
  intro t hText
  have hCut := (followed_of_split hSplit).subset hText
  rw [List.mem_map] at hCut
  rcases hCut with ⟨field, hField, rfl⟩
  rw [String.toList_ofList]
  exact ((fields_isClear _).2 field hField).2

end Line

end Courier

------------------------------------------------------------
-- Fields That Are Written Again
------------------------------------------------------------

namespace Courier

namespace Line

/-
  The fields are those of a line that was read, up to
  numbers and names, which have nothing in them that a line
  needs.
-/
def Rewrites
    (fields texts : List String) : Prop :=
  List.Forall₂ (fun f t => IsBare f.toList ∨ f = t) fields
    texts

variable {fields texts : List String}
variable {object : Option Json}

/- What holds of bare texts and of old ones holds of all. -/
theorem Rewrites.forall
    {P : String → Prop}
    (hRewrites : Rewrites fields texts)
    (hBare : ∀ f : String, IsBare f.toList → P f)
    (hOld : ∀ t ∈ texts, P t) :
    ∀ f ∈ fields, P f := by
  intro f hField
  rcases List.getElem_of_mem hField with ⟨i, hIndex, rfl⟩
  have hText : i < texts.length :=
    List.Forall₂.length_eq hRewrites ▸ hIndex
  rcases List.Forall₂.get hRewrites hIndex hText with
    hNew | hSame
  · exact hBare _ hNew
  · have hAt : fields[i] = texts[i] := hSame
    rw [hAt]
    exact hOld _ (List.getElem_mem _)

/- The followed fields are written again as well. -/
theorem Rewrites.followed
    (hRewrites : Rewrites fields texts)
    (object : Option Json) :
    Rewrites (followed fields object)
      (followed texts object) := by
  cases object with
  | none =>
      have hCount := List.Forall₂.length_eq hRewrites
      simp only [Line.followed, List.dropLast_eq_take, hCount]
      exact List.forall₂_take _ hRewrites
  | some value => exact hRewrites

/-
  Fields that were read from a single line are written, and
  none of them can be cut at another place.
-/
theorem exists_join_of_split
    {line : String}
    {count : Nat}
    (hSingle : IsSingle line)
    (hSplit : split line count = .ok (texts, object))
    (hRewrites : Rewrites fields texts) :
    (∃ line', join fields object = .ok line') ∧
      ∀ f ∈ Line.followed fields object,
        endsInHalf f.toList = false := by
  constructor
  · refine ⟨_, join_eq_ok_iff.mpr ⟨?_, rfl⟩⟩
    exact
      hRewrites.forall
        (fun f hBare => (isWhole_of_isBare hBare).1)
        (fits_of_split hSingle hSplit)
  · exact
      (hRewrites.followed object).forall
        (fun f hBare => (isWhole_of_isBare hBare).2)
        (endsInHalf_of_followed hSplit)

/- What the field of an object spells, its text spells. -/
theorem read?_of_decodeObject
    {value other : Json}
    (hObject :
      decodeObject (encodeObject value).toList =
        .ok (some other)) :
    Json.read? value.chars = some other := by
  unfold decodeObject at hObject
  split at hObject
  · cases hObject
  · rw [encodeObject, Base64.decode_encode] at hObject
    simp only [Utf8.decode_encode] at hObject
    split at hObject
    · next hRead =>
        cases hObject
        exact hRead
    · cases hObject

/- An object that comes back is read back from its text. -/
theorem readsBack_of_split
    {line : String}
    {others : List String}
    (hJoin : join fields object = .ok line)
    (hHalf :
      ∀ f ∈ Line.followed fields object,
        endsInHalf f.toList = false)
    (hSplit :
      split line fields.length = .ok (others, object)) :
    ReadsBack object := by
  rcases dropLineBreaks_join hJoin with ⟨hSep, hDrop⟩
  intro value hValue
  cases hValue
  have hClear :
      ∀ p ∈ (pieces fields (some value)).dropLast,
        endsInHalf p = false := by
    rw [dropLast_pieces]
    exact List.forall_mem_map.mpr hHalf
  have hPieces : pieces fields (some value) ≠ [] := by
    simp [pieces]
  unfold split at hSplit
  rw [hDrop, fields_intercalate hPieces hSep hClear] at hSplit
  simp only [pieces, List.length_append, List.length_map,
    List.length_singleton, Nat.add_eq_left, Nat.one_ne_zero,
    if_false, if_true, List.drop_left', List.flatten_singleton]
    at hSplit
  split at hSplit
  · next hObject =>
      cases hSplit
      exact read?_of_decodeObject hObject
  · cases hSplit

/- An empty text spells no value, and no value is empty. -/
theorem optional_ne_empty
    (text : String) :
    optional text ≠ some "" := by
  unfold optional
  split
  · exact nofun
  · next hText =>
      intro hEmpty
      cases hEmpty
      exact hText rfl

end Line

end Courier

------------------------------------------------------------
-- Commands
------------------------------------------------------------

namespace Courier

namespace Command

variable {c : Command}
variable {texts : List String}
variable {object : Option Json}

/- A command is written with the texts it was read from. -/
theorem rewrites_of_ofFields
    (hRead : ofFields texts object = .ok c) :
    Line.Rewrites c.fields texts ∧ c.object = object := by
  unfold ofFields at hRead
  split at hRead
  · split at hRead
    · cases hRead
    · split at hRead
      · cases hRead
      · next dataLength hLength =>
          cases hRead
          have hNumber :=
            Line.isBare_toString dataLength.toNat
          refine ⟨?_, rfl⟩
          simp only [Line.Rewrites, fields, Line.getD_optional,
            List.forall₂_cons, or_true, true_and]
          exact
            ⟨.inr rfl, .inr rfl, .inl hNumber, .nil⟩
  · cases hRead

/- Each field of a command that was read has one spelling. -/
theorem isPlain_of_ofFields
    (hRead : ofFields texts object = .ok c)
    (hObject : Line.ReadsBack c.object) :
    c.IsPlain ∧ c.arrived = c := by
  have hFormed := isWellFormed_of_ofFields hRead
  unfold ofFields at hRead
  split at hRead
  · split at hRead
    · cases hRead
    · split at hRead
      · cases hRead
      · cases hRead
        exact
          ⟨⟨hFormed.dispatcherId, hFormed.name,
            Line.optional_ne_empty _, Line.optional_ne_empty _,
            hObject⟩, rfl⟩
  · cases hRead

/-
  A command that was read from a single line has a line, and
  comes back from it exactly if its object comes back from
  its text.
-/
theorem exists_line_of_ofLine
    {line : String}
    (hSingle : Line.IsSingle line)
    (hRead : ofLine line = .ok c) :
    ∃ line',
      c.toLine = .ok line' ∧
        (ofLine line' = .ok c ↔ Line.ReadsBack c.object) := by
  unfold ofLine at hRead
  split at hRead
  · cases hRead
  · next texts object hSplit =>
      rcases rewrites_of_ofFields hRead with ⟨hRewrites, rfl⟩
      rcases
        Line.exists_join_of_split hSingle hSplit hRewrites with
        ⟨⟨line', hLine⟩, hHalf⟩
      refine ⟨line', hLine, ?_, ?_⟩
      · intro hAgain
        unfold ofLine at hAgain
        split at hAgain
        · cases hAgain
        · next others found hCut =>
            rcases rewrites_of_ofFields hAgain with ⟨-, rfl⟩
            exact Line.readsBack_of_split hLine hHalf hCut
      · intro hObject
        rcases isPlain_of_ofFields hRead hObject with
          ⟨hPlain, hArrived⟩
        have hBack := (ofLine_eq_ok_iff hPlain hLine).mpr hHalf
        rwa [hArrived] at hBack

end Command

end Courier

------------------------------------------------------------
-- Answers
------------------------------------------------------------

namespace Courier

namespace Answer

variable {a : Answer}
variable {texts : List String}
variable {object : Option Json}

/- What an answer has of its texts and of its object. -/
theorem exists_fileId_of_ofFields
    (hRead : ofFields texts object = .ok a) :
    (∃ text, a.fileId = Line.optional text) ∧
      a.object = object := by
  unfold ofFields at hRead
  split at hRead
  · next code entity length fileId failure =>
      simp only [bind, Except.bind] at hRead
      repeat' split at hRead
      all_goals cases hRead
      all_goals exact ⟨⟨fileId, rfl⟩, rfl⟩
  · cases hRead

/- An answer is written with the texts it was read from. -/
theorem rewrites_of_ofFields
    (hRead : ofFields texts object = .ok a) :
    Line.Rewrites a.fields texts := by
  rcases exists_texts_of_ofFields hRead with
    ⟨code, length, failure, rfl, -⟩
  have hCode := isBare_code a.status
  have hLength := Line.isBare_toString a.dataLength.toNat
  have hName := isBare_name a.failure
  simp only [Line.Rewrites, fields, List.forall₂_cons, or_true,
    true_and]
  exact ⟨.inl hCode, .inl hLength, .inl hName, .nil⟩

/- Each field of an answer that was read has one spelling. -/
theorem isPlain_of_ofFields
    (hRead : ofFields texts object = .ok a)
    (hObject : Line.ReadsBack a.object) :
    a.IsPlain := by
  refine ⟨?_, isWellFormed_of_ofFields hRead, hObject⟩
  rcases exists_fileId_of_ofFields hRead with
    ⟨⟨text, hFileId⟩, -⟩
  rw [hFileId]
  exact Line.optional_ne_empty text

/-
  An answer that was read from a single line has a line, and
  comes back from it exactly if its object comes back from
  its text.
-/
theorem exists_line_of_ofLine
    {line : String}
    (hSingle : Line.IsSingle line)
    (hRead : ofLine line = .ok a) :
    ∃ line',
      a.toLine = .ok line' ∧
        (ofLine line' = .ok a ↔ Line.ReadsBack a.object) := by
  unfold ofLine at hRead
  split at hRead
  · cases hRead
  · next texts object hSplit =>
      have hRewrites := rewrites_of_ofFields hRead
      rcases exists_fileId_of_ofFields hRead with ⟨-, rfl⟩
      rcases
        Line.exists_join_of_split hSingle hSplit hRewrites with
        ⟨⟨line', hLine⟩, hHalf⟩
      refine ⟨line', hLine, ?_, ?_⟩
      · intro hAgain
        unfold ofLine at hAgain
        split at hAgain
        · cases hAgain
        · next others found hCut =>
            rcases exists_fileId_of_ofFields hAgain with
              ⟨-, rfl⟩
            exact Line.readsBack_of_split hLine hHalf hCut
      · intro hObject
        have hPlain := isPlain_of_ofFields hRead hObject
        exact (ofLine_eq_ok_iff hPlain hLine).mpr hHalf

end Answer

end Courier

------------------------------------------------------------
-- Both Envelopes
------------------------------------------------------------

namespace Courier

/-
  What was read from a single line can be written, and what
  was written is read as the same, exactly if an attached
  object is read back from its own text.
-/
theorem ofLine_toLine_of_ofLine
    (line : String)
    (hSingle : Line.IsSingle line) :
    (∀ c, Command.ofLine line = .ok c →
      ∃ line',
        c.toLine = .ok line' ∧
          (Command.ofLine line' = .ok c ↔
            Line.ReadsBack c.object)) ∧
      ∀ a, Answer.ofLine line = .ok a →
        ∃ line',
          a.toLine = .ok line' ∧
            (Answer.ofLine line' = .ok a ↔
              Line.ReadsBack a.object) :=
  ⟨fun _ hRead => Command.exists_line_of_ofLine hSingle hRead,
    fun _ hRead => Answer.exists_line_of_ofLine hSingle hRead⟩

/-
  A command with a sign and zeros in front of its length, an
  object with blanks in it, and line breaks behind it.
-/
def looseCommand : String :=
  "s#|#log#|#LOG#|##|#+007#|##|#a#|#WyBudWxsIF0=\r\n"

/- An answer with zeros in its code, and an empty object. -/
def looseAnswer : String :=
  "-01#|##|##|##|#not-found#|#\n"

/- Both are written in their short forms, and stay so. -/
theorem ofLine_toLine_of_ofLine_loose :
    (Line.IsSingle looseCommand ∧
      ∃ c line,
        Command.ofLine looseCommand = .ok c ∧
          c.dataLength = 7 ∧
          c.toLine = .ok line ∧
          line = "s#|#log#|#LOG#|##|#7#|##|#a#|#W251bGxd" ∧
          Command.ofLine line = .ok c) ∧
      Line.IsSingle looseAnswer ∧
      ∃ a line,
        Answer.ofLine looseAnswer = .ok a ∧
          a.status = .error ∧
          a.toLine = .ok line ∧
          line = "-1#|##|#0#|##|#not-found" ∧
          Answer.ofLine line = .ok a := by
  have hCommand : Line.IsSingle looseCommand :=
    .of_all 45 rfl rfl
  have hAnswer : Line.IsSingle looseAnswer :=
    .of_all 27 rfl rfl
  have hFirst :
      Command.ofLine looseCommand =
        .ok
          { Command.make "log" "LOG" with
            serverName := "s"
            dataLength := 7
            domain := some "a"
            object := some (.array [.null]) } := by
    rfl
  have hSecond :
      Answer.ofLine looseAnswer =
        .ok (Answer.error .notFound "") := by
    rfl
  rcases
    (ofLine_toLine_of_ofLine looseCommand hCommand).1 _ hFirst
    with ⟨line, hLine, hBack⟩
  rcases
    (ofLine_toLine_of_ofLine looseAnswer hAnswer).2 _ hSecond
    with ⟨line', hLine', hBack'⟩
  refine
    ⟨⟨hCommand, _, line, hFirst, rfl, hLine, ?_, ?_⟩, hAnswer,
      _, line', hSecond, rfl, hLine', ?_, ?_⟩
  · cases hLine
    rfl
  · apply hBack.mpr
    intro value hValue
    cases hValue
    rfl
  · cases hLine'
    rfl
  · exact hBack'.mpr nofun

end Courier
