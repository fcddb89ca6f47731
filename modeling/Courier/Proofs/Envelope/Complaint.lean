import Courier.Proofs.Envelope.Readable
import Courier.Stream.Frame

/-
  What is said about a command that cannot be read.

  The text stays whole, unless the connection itself failed
  with a text of its own.

  Key theorems include:
    * `Command.isWhole_of_ofLine`
    * `Frame.isWhole_of_readCommand`
-/

------------------------------------------------------------
-- Texts
------------------------------------------------------------

namespace Courier

namespace ProtocolError

/- The failure of a connection is told after fixed text. -/
theorem isWhole_io_iff
    (e : IoError) :
    Line.IsWhole (ProtocolError.io e).message.toList ↔
      Line.IsWhole e.message.toList := by
  have hText :
      (ProtocolError.io e).message.toList =
        "I/O error: ".toList ++ e.message.toList :=
    String.toList_append
  rw [hText]
  exact Line.isWhole_bare_append (by decide)

/- A malformed message is told after fixed text. -/
theorem isWhole_malformed
    {cause : Malformed}
    (hWhole : Line.IsWhole cause.message.toList) :
    Line.IsWhole
      (ProtocolError.malformed cause).message.toList := by
  have hText :
      (ProtocolError.malformed cause).message.toList =
        "Malformed message: ".toList ++
          cause.message.toList :=
    String.toList_append
  rw [hText]
  exact (Line.isWhole_bare_append (by decide)).mpr hWhole

/- Text that is no JSON leads to a bare text. -/
theorem isWhole_notJson :
    Line.IsWhole notJson.message.toList :=
  Line.isWhole_of_isBare (by decide)

/- A wrong number of fields is told in bare text. -/
theorem isWhole_fieldCount
    (expected found : Nat) :
    Line.IsWhole
      (ProtocolError.malformed
        (.fieldCount expected found)).message.toList := by
  apply isWhole_malformed
  apply Line.isWhole_of_isBare
  have hText :
      (Malformed.fieldCount expected found).message =
        "expected " ++ toString expected ++ " or " ++
          toString (expected + 1) ++ " fields, got " ++
          toString found :=
    rfl
  rw [hText]
  simp only [String.toList_append, Line.isBare_append]
  exact
    ⟨⟨⟨⟨⟨by decide, Line.isBare_toString _⟩, by decide⟩,
      Line.isBare_toString _⟩, by decide⟩,
      Line.isBare_toString _⟩

/- A fault in Base64 is told in bare text. -/
theorem isWhole_base64
    (fault : Base64.Fault) :
    Line.IsWhole
      (ProtocolError.base64 fault.message).message.toList := by
  have hText :
      (ProtocolError.base64 fault.message).message.toList =
        "Base64 decode error: ".toList ++
          fault.message.toList :=
    String.toList_append
  rw [hText, Line.isWhole_bare_append (by decide)]
  apply Line.isWhole_of_isBare
  cases fault with
  | symbol octet offset =>
      show
        Line.IsBare
          ("Invalid symbol " ++ toString octet.toNat ++
            ", offset " ++ toString offset ++ ".").toList
      simp only [String.toList_append, Line.isBare_append]
      exact
        ⟨⟨⟨⟨by decide, Line.isBare_toString _⟩, by decide⟩,
          Line.isBare_toString _⟩, by decide⟩
  | length count =>
      show
        Line.IsBare
          ("Invalid input length: " ++ toString count).toList
      simp only [String.toList_append, Line.isBare_append]
      exact ⟨by decide, Line.isBare_toString _⟩
  | lastSymbol octet offset =>
      show
        Line.IsBare
          ("Invalid last symbol " ++ toString octet.toNat ++
            ", offset " ++ toString offset ++ ".").toList
      simp only [String.toList_append, Line.isBare_append]
      exact
        ⟨⟨⟨⟨by decide, Line.isBare_toString _⟩, by decide⟩,
          Line.isBare_toString _⟩, by decide⟩
  | padding => decide

/- A fault in UTF-8 is told in bare text. -/
theorem isWhole_notUtf8
    (fault : Utf8.Fault) :
    Line.IsWhole
      (ProtocolError.malformed
        (.notUtf8 fault)).message.toList := by
  apply isWhole_malformed
  have hText :
      (Malformed.notUtf8 fault).message.toList =
        "invalid UTF-8: ".toList ++ fault.message.toList :=
    String.toList_append
  rw [hText, Line.isWhole_bare_append (by decide)]
  apply Line.isWhole_of_isBare
  cases fault with
  | invalid count index =>
      show
        Line.IsBare
          ("invalid utf-8 sequence of " ++ toString count ++
            " bytes from index " ++ toString index).toList
      simp only [String.toList_append, Line.isBare_append]
      exact
        ⟨⟨⟨by decide, Line.isBare_toString _⟩, by decide⟩,
          Line.isBare_toString _⟩
  | incomplete index =>
      show
        Line.IsBare
          ("incomplete utf-8 byte sequence from index " ++
            toString index).toList
      simp only [String.toList_append, Line.isBare_append]
      exact ⟨by decide, Line.isBare_toString _⟩

/- A message that is too large is told in bare text. -/
theorem isWhole_messageTooLarge
    (size max : Nat) :
    Line.IsWhole
      (ProtocolError.messageTooLarge
        size max).message.toList := by
  apply Line.isWhole_of_isBare
  show
    Line.IsBare
      ("Message of " ++ toString size ++
        " bytes exceeds the limit of " ++ toString max ++
        " bytes").toList
  simp only [String.toList_append, Line.isBare_append]
  exact
    ⟨⟨⟨⟨by decide, Line.isBare_toString _⟩, by decide⟩,
      Line.isBare_toString _⟩, by decide⟩

end ProtocolError

end Courier

------------------------------------------------------------
-- Commands That Cannot Be Read
------------------------------------------------------------

namespace Courier

namespace Line

/- A field of a line that was split has no separator. -/
theorem hasSeparator_of_split
    {line : String}
    {count : Nat}
    {texts : List String}
    {found : Option Json}
    (hSplit : split line count = .ok (texts, found)) :
    ∀ text ∈ texts, hasSeparator text.toList = false := by
  intro text hMem
  rw [texts_of_split hSplit, List.mem_map] at hMem
  rcases hMem with ⟨field, hField, rfl⟩
  rw [String.toList_ofList]
  exact (fields_isClear _).1 field (List.mem_of_mem_take hField)

/- Why a line cannot be split stays whole. -/
theorem isWhole_of_split
    {line : String}
    {count : Nat}
    {e : ProtocolError}
    (hSplit : split line count = .error e) :
    IsWhole e.message.toList := by
  simp only [split] at hSplit
  split at hSplit
  · cases hSplit
  · split at hSplit
    · split at hSplit
      · cases hSplit
      · next hObject =>
          cases hSplit
          unfold decodeObject at hObject
          split at hObject
          · cases hObject
          · split at hObject
            · cases hObject
              exact ProtocolError.isWhole_base64 _
            · split at hObject
              · cases hObject
                exact ProtocolError.isWhole_notJson
              · split at hObject
                · cases hObject
                · cases hObject
                  exact ProtocolError.isWhole_notJson
    · cases hSplit
      exact ProtocolError.isWhole_fieldCount _ _

/- A field that is no length is quoted. -/
theorem isWhole_of_length
    {field : String}
    {e : ProtocolError}
    (hLength : length field = .error e)
    (hSep : hasSeparator field.toList = false) :
    IsWhole e.message.toList := by
  unfold length at hLength
  split at hLength
  · cases hLength
  · split at hLength
    · cases hLength
    · cases hLength
      apply ProtocolError.isWhole_malformed
      have hText :
          (Malformed.notANumber
            "data length" field).message.toList =
            "data length is not a number: ".toList ++
              (Quoted.quote field).toList :=
        String.toList_append
      rw [hText, isWhole_bare_append (by decide)]
      exact isWhole_quote hSep

end Line

namespace Command

/- Why a line spells no command stays whole. -/
theorem isWhole_of_ofLine
    {line : String}
    {e : ProtocolError}
    (hRead : ofLine line = .error e) :
    Line.IsWhole e.message.toList := by
  unfold ofLine at hRead
  split at hRead
  · next hSplit =>
      cases hRead
      exact Line.isWhole_of_split hSplit
  · next texts object hSplit =>
      have hSep := Line.hasSeparator_of_split hSplit
      unfold ofFields at hRead
      split at hRead
      · split at hRead
        · cases hRead
          apply ProtocolError.isWhole_malformed
          exact Line.isWhole_of_isBare (by decide)
        · split at hRead
          · next hLength =>
              cases hRead
              exact
                Line.isWhole_of_length hLength
                  (hSep _ (by simp))
          · cases hRead
      · cases hRead
        exact ProtocolError.isWhole_fieldCount _ _

end Command

namespace Frame

/- A step of reading fails only with the connection. -/
theorem exists_io_of_next
    {α : Type}
    {limit count waited : Nat}
    {r : Stream.Reader}
    {go : Bytes → Nat → Stream.Reader → Received α}
    {m : Except ProtocolError α}
    (hNext :
      (Received.next limit count waited r go).outcome =
        some m) :
    (∃ e, m = .error (.io e)) ∨
      ∃ bytes waited' r',
        (go bytes waited' r').outcome = some m := by
  simp only [Received.next] at hNext
  split at hNext
  · exact Or.inr ⟨_, _, _, hNext⟩
  · cases hNext
    exact Or.inl ⟨_, rfl⟩
  · cases hNext
    exact Or.inl ⟨_, rfl⟩
  · cases hNext

/- Why a frame cannot be read stays whole. -/
theorem isWhole_of_read
    {max limit : Nat}
    {r : Stream.Reader}
    {e : ProtocolError}
    (hRead : (read max limit r).outcome = some (.error e)) :
    (∃ fault, e = .io fault) ∨
      Line.IsWhole e.message.toList := by
  rcases exists_io_of_next hRead with
    ⟨fault, hFault⟩ | ⟨word, waited, r₁, hWord⟩
  · exact Or.inl ⟨fault, Except.error.inj hFault⟩
  simp only at hWord
  split at hWord
  · cases hWord
    exact Or.inr (ProtocolError.isWhole_messageTooLarge _ _)
  rcases exists_io_of_next hWord with
    ⟨fault, hFault⟩ | ⟨body, waited₁, r₂, hBody⟩
  · exact Or.inl ⟨fault, Except.error.inj hFault⟩
  rcases exists_io_of_next hBody with
    ⟨fault, hFault⟩ | ⟨last, waited₂, r₃, hLast⟩
  · exact Or.inl ⟨fault, Except.error.inj hFault⟩
  split at hLast
  · have hLine := Option.some.inj hLast
    unfold lineOfBody at hLine
    split at hLine
    · cases hLine
    · cases hLine
      exact Or.inr (ProtocolError.isWhole_notUtf8 _)
  · cases hLast
    exact Or.inr (Line.isWhole_of_isBare (by decide))

/-
  Why a command cannot be read stays whole, unless it is a
  failure of the connection.
-/
theorem isWhole_of_readCommand
    {max limit : Nat}
    {r : Stream.Reader}
    {e : ProtocolError}
    (hRead :
      (readCommand max limit r).outcome = some (.error e)) :
    (∃ fault, e = .io fault) ∨
      Line.IsWhole e.message.toList := by
  simp only [readCommand, readMessage] at hRead
  split at hRead
  · cases hRead
  · next hFrame =>
      cases hRead
      exact isWhole_of_read hFrame
  · exact
      Or.inr
        (Command.isWhole_of_ofLine (Option.some.inj hRead))

/- A command that was read is that of a line. -/
theorem exists_line_of_readCommand
    {max limit : Nat}
    {r : Stream.Reader}
    {c : Command}
    (hRead :
      (readCommand max limit r).outcome = some (.ok c)) :
    ∃ line, Command.ofLine line = .ok c := by
  simp only [readCommand, readMessage] at hRead
  split at hRead
  · cases hRead
  · cases hRead
  · next line hFrame =>
      exact ⟨line, Option.some.inj hRead⟩

end Frame

end Courier
