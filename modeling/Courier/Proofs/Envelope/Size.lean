import Courier.Proofs.Envelope.Line
import Courier.Proofs.Stream.Frame
import Mathlib.Algebra.GroupWithZero.Nat

/-
  How long lines are.

  The octets of a line are those of its fields and of the
  separators between them.  The field of an attached object
  has four symbols for each three octets of its JSON text.
  Answers with short texts are so short that they always
  have a frame.

  Key definitions include:
    * `Line.objectSize`
    * `Answer.size`
    * `Answer.contentSize`
    * `Answer.IsShort`

  Key theorems include:
    * `Base64.utf8ByteSize_encode`
    * `Line.utf8ByteSize_of_join`
    * `Answer.utf8ByteSize_of_toLine`
    * `Answer.exists_frame_of_isShort`
-/

------------------------------------------------------------
-- Texts
------------------------------------------------------------

namespace Courier

namespace Utf8

/- The octets of characters are those of their text. -/
theorem length_encode_chars
    (chars : List Char) :
    (encode chars).length =
      (String.ofList chars).utf8ByteSize := by
  induction chars with
  | nil => rfl
  | cons c chars ih =>
      unfold encode at ih ⊢
      rw [List.flatMap_cons, List.length_append, ih,
        String.length_utf8EncodeChar, String.ofList_cons,
        String.utf8ByteSize_append,
        String.utf8ByteSize_singleton]

/- A text has as many octets as it takes. -/
theorem length_encode
    (text : String) :
    (encode text.toList).length = text.utf8ByteSize := by
  rw [length_encode_chars, String.ofList_toList]

/- A character takes at most four octets. -/
theorem length_encode_le
    (chars : List Char) :
    (encode chars).length ≤ 4 * chars.length := by
  induction chars with
  | nil => exact Nat.le_refl _
  | cons c chars ih =>
      have hChar := c.utf8Size_le_four
      unfold encode at ih ⊢
      rw [List.flatMap_cons, List.length_append,
        String.length_utf8EncodeChar, List.length_cons]
      omega

/- So does each character of a text. -/
theorem utf8ByteSize_le
    (text : String) :
    text.utf8ByteSize ≤ 4 * text.length := by
  rw [← length_encode, ← String.length_toList]
  exact length_encode_le text.toList

/- A character of seven bits takes one octet. -/
theorem utf8ByteSize_of_ascii
    {text : String}
    (hAscii : ∀ c ∈ text.toList, c.toNat < 128) :
    text.utf8ByteSize = text.length := by
  rw [← length_encode, encode_of_ascii hAscii,
    List.length_map, String.length_toList]

/- A number has one octet for each digit. -/
theorem utf8ByteSize_toString
    (n : Nat) :
    (toString n).utf8ByteSize = (toString n).length := by
  apply utf8ByteSize_of_ascii
  intro c hMem
  have hDigit := Numeral.isDigit_of_mem_toString hMem
  simp only [Numeral.isDigit, Bool.and_eq_true,
    decide_eq_true_eq] at hDigit
  have hLast : c.val.toNat ≤ 57 := hDigit.2
  show c.val.toNat < 128
  omega

end Utf8

namespace Base64

/- Each three octets, or what is left, take four symbols. -/
theorem length_encodeBytes :
    ∀ bytes : Bytes,
      (encodeBytes bytes).length = 4 * ((bytes.length + 2) / 3)
  | [] => rfl
  | [a] => by simp [encodeBytes, encodeFrom]
  | [a, b] => by simp [encodeBytes, encodeFrom]
  | a :: b :: c :: rest => by
      have hRest := length_encodeBytes rest
      rw [encodeBytes_cons, List.length_append, hRest]
      simp only [group, List.length_cons, List.length_nil]
      omega

/- The symbols of octets are one octet each. -/
theorem utf8ByteSize_encode
    (bytes : Bytes) :
    (encode bytes).utf8ByteSize =
      4 * ((bytes.length + 2) / 3) := by
  rw [← Utf8.length_encode, utf8_encode, length_encodeBytes]

end Base64

namespace Json

/- A character takes at most six in JSON. -/
theorem length_escape_le
    (c : Char) :
    (escape c).length ≤ 6 := by
  unfold escape
  repeat' split
  all_goals simp

/- A text takes at most six characters for each of its own. -/
theorem length_quoted_le
    (text : String) :
    (quoted text).length ≤ 6 * text.length + 2 := by
  have hChars (chars : List Char) :
      (chars.flatMap escape).length ≤ 6 * chars.length := by
    induction chars with
    | nil => exact Nat.le_refl _
    | cons c chars ih =>
        have hChar := length_escape_le c
        rw [List.flatMap_cons, List.length_append,
          List.length_cons]
        omega
  have hText := hChars text.toList
  rw [String.length_toList] at hText
  simp only [quoted, List.cons_append, List.length_cons,
    List.length_append, List.length_nil]
  omega

end Json

end Courier

------------------------------------------------------------
-- Lines
------------------------------------------------------------

namespace Courier

namespace Line

/- The octets that an attached object adds to a line. -/
def objectSize : Option Json → Nat
  | none => 0
  | some value => (encodeObject value).utf8ByteSize + 3

/- An attached object is written as Base64 of its text. -/
theorem objectSize_some
    (value : Json) :
    objectSize (some value) =
      4 * (((Utf8.encode value.chars).length + 2) / 3) + 3 := by
  rw [objectSize, encodeObject, Base64.utf8ByteSize_encode]

/- Between any two parts there is one separator. -/
theorem length_encode_intercalate
    {all : List (List Char)}
    (hSome : all ≠ []) :
    (Utf8.encode (List.intercalate separator all)).length + 3 =
      (all.map fun p => (Utf8.encode p).length + 3).sum := by
  induction all with
  | nil => exact absurd rfl hSome
  | cons p rest ih =>
      cases rest with
      | nil => simp
      | cons q others =>
          have hSeparator :
              (Utf8.encode separator).length = 3 := rfl
          have hRest := ih (List.cons_ne_nil q others)
          rw [List.intercalate_cons_cons, Utf8.encode_append,
            Utf8.encode_append, List.length_append,
            List.length_append, hSeparator, List.map_cons,
            List.sum_cons, ← hRest]
          omega

/-
  The octets of a line: those of its fields and of an object,
  with a separator between any two.
-/
theorem utf8ByteSize_of_join
    {fields : List String}
    {object : Option Json}
    {line : String}
    (hSome : fields ≠ [])
    (hLine : join fields object = .ok line) :
    line.utf8ByteSize + 3 =
      (fields.map fun f => f.utf8ByteSize + 3).sum +
        objectSize object := by
  rcases join_eq_ok_iff.mp hLine with ⟨-, rfl⟩
  have hPieces : pieces fields object ≠ [] := by
    cases object with
    | none => simpa [pieces] using hSome
    | some value => simp [pieces]
  rw [← Utf8.length_encode_chars,
    length_encode_intercalate hPieces]
  cases object with
  | none =>
      simp only [pieces, objectSize, List.map_map,
        Function.comp_def, Utf8.length_encode, Nat.add_zero]
  | some value =>
      simp only [pieces, objectSize, List.map_append,
        List.map_map, Function.comp_def, Utf8.length_encode,
        List.sum_append, List.map_cons, List.map_nil,
        List.sum_cons, List.sum_nil, Nat.add_zero]

end Line

end Courier

------------------------------------------------------------
-- Answers
------------------------------------------------------------

namespace Courier

namespace Answer

/- The octets of the line of an answer. -/
def size
    (a : Answer) : Nat :=
  (a.fields.map String.utf8ByteSize).sum + 12 +
    Line.objectSize a.object

/- The line of an answer has as many octets. -/
theorem utf8ByteSize_of_toLine
    {a : Answer}
    {line : String}
    (hLine : a.toLine = .ok line) :
    line.utf8ByteSize = a.size := by
  have hJoin :=
    Line.utf8ByteSize_of_join (by simp [fields]) hLine
  simp only [size, fields, List.map_cons, List.map_nil,
    List.sum_cons, List.sum_nil] at hJoin ⊢
  omega

/-
  All texts of the answer are short, and so is the attached
  object, which is a text.
-/
structure IsShort
    (a : Answer) : Prop where
  entity : a.entity.length ≤ 300
  fileId : (a.fileId.getD "").length ≤ 300
  object :
    ∀ value ∈ a.object,
      ∃ text : String,
        value = .text text ∧ text.length ≤ 300

/- The code of a status is short. -/
theorem utf8ByteSize_code_le
    (s : Status) :
    (toString s.code).utf8ByteSize ≤ 2 := by
  cases s <;> decide

/- The name of a failure is short. -/
theorem utf8ByteSize_name_le
    (f : Option Failure) :
    ((f.map Failure.name).getD "").utf8ByteSize ≤ 20 := by
  cases f with
  | none => decide
  | some f => cases f <;> decide

/- A number of 64 bits has at most twenty digits. -/
theorem utf8ByteSize_word_le
    {n : Nat}
    (hWord : n < UInt64.size) :
    (toString n).utf8ByteSize ≤ 20 := by
  rw [Utf8.utf8ByteSize_toString, Nat.toString_eq_repr,
    Nat.length_repr_le_iff (by decide)]
  unfold UInt64.size at hWord
  omega

/- The octets of the texts and of the object of an answer. -/
def contentSize
    (a : Answer) : Nat :=
  a.entity.utf8ByteSize +
    (a.fileId.getD "").utf8ByteSize +
    Line.objectSize a.object

/- There are at most fifty-four octets next to these. -/
theorem size_bounds
    (a : Answer) :
    a.contentSize ≤ a.size ∧ a.size ≤ a.contentSize + 54 := by
  have hCode := utf8ByteSize_code_le a.status
  have hLength := utf8ByteSize_word_le a.dataLength.toNat_lt
  have hName := utf8ByteSize_name_le a.failure
  simp only [size, contentSize, fields, List.map_cons,
    List.map_nil, List.sum_cons, List.sum_nil]
  omega

/- The line of an answer with short texts is not too long. -/
theorem exists_frame_of_isShort
    {a : Answer}
    {line : String}
    (hShort : a.IsShort)
    (hLine : a.toLine = .ok line) :
    ∃ frame, Frame.encode line = .ok frame := by
  have hSize := a.size_bounds.2
  have hEntity := Utf8.utf8ByteSize_le a.entity
  have hFileId := Utf8.utf8ByteSize_le (a.fileId.getD "")
  have hShortEntity := hShort.entity
  have hShortId := hShort.fileId
  have hObject : Line.objectSize a.object ≤ 10000 := by
    cases hValue : a.object with
    | none => exact Nat.zero_le _
    | some value =>
        rcases hShort.object value hValue with
          ⟨text, rfl, hText⟩
        have hQuoted := Json.length_quoted_le text
        have hOctets :=
          Utf8.length_encode_le (Json.text text).chars
        rw [Line.objectSize_some]
        rw [Json.chars] at hOctets ⊢
        omega
  refine ⟨_, Frame.encode_eq_ok_iff.mpr ⟨?_, rfl⟩⟩
  rw [Utf8.length_encode, utf8ByteSize_of_toLine hLine,
    Frame.maxLength]
  unfold contentSize at hSize
  omega

end Answer

end Courier
