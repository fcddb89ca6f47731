import Courier.Proofs.Envelope.Fields
import Courier.Proofs.Text.Base64
import Courier.Proofs.Text.Numeral

/-
  Lines that were written and are read back.

  The fields of a line come back unchanged if no field in
  front of another one ends in the first part of a
  separator.  Otherwise one of them comes back without that
  part.

  Key definitions include:
    * `Line.ReadsBack`
    * `Line.returned`
    * `Line.Fits`
    * `Line.pieces`
    * `Line.followed`

  Key theorems include:
    * `Line.join_eq_ok_iff`
    * `Line.split_join_eq`
    * `Line.split_join`
    * `Line.exists_cut_of_half`
    * `Line.exists_shortened_of_split`
    * `Line.endsInHalf_of_split`
    * `Line.length_toString`
-/

------------------------------------------------------------
-- Objects
------------------------------------------------------------

namespace Courier

namespace Line

/- An attached object is read back from its JSON text. -/
def ReadsBack
    (object : Option Json) : Prop :=
  ∀ value ∈ object, Json.read? value.chars = some value

/- What comes back of an attached object. -/
def returned
    (object : Option Json) :
    Except ProtocolError (Option Json) :=
  match object with
  | none => .ok none
  | some value => decodeObject (encodeObject value).toList

/- The field of an object that reads back spells it. -/
theorem decodeObject_encodeObject
    {value : Json}
    (hRead : Json.read? value.chars = some value) :
    decodeObject (encodeObject value).toList =
      .ok (some value) := by
  have hChars : value.chars ≠ [] := by
    intro hNone
    rw [hNone] at hRead
    cases hRead
  have hBytes : Utf8.encode value.chars ≠ [] := by
    intro hNone
    have hDecode := Utf8.decode_encode value.chars
    rw [hNone] at hDecode
    exact hChars (Except.ok.inj hDecode).symm
  have hField : (encodeObject value).toList ≠ [] := by
    rw [encodeObject, Base64.encode, String.toList_ofList,
      ne_eq, List.map_eq_nil_iff]
    exact Base64.encodeBytes_ne_nil hBytes
  unfold decodeObject
  rw [if_neg (by simpa using hField), encodeObject,
    Base64.decode_encode]
  simp only [Utf8.decode_encode, hRead]

/- An object that reads back is what comes back. -/
theorem returned_of_readsBack
    {object : Option Json}
    (hRead : ReadsBack object) :
    returned object = .ok object := by
  cases object with
  | none => rfl
  | some value => exact decodeObject_encodeObject (hRead value rfl)

/- The field of an object has no sign of a line's own. -/
theorem plain_of_mem_encodeObject
    {value : Json}
    {c : Char}
    (hMem : c ∈ (encodeObject value).toList) :
    c ≠ '#' ∧ isLineBreak c = false := by
  rcases Base64.isSymbol_of_mem_encode hMem with
    ⟨b, hSymbol, rfl⟩
  have hRange := Base64.toNat_of_isSymbol hSymbol
  have hNumber : (Char.ofNat b.toNat).toNat = b.toNat :=
    Utf8.toNat_ofNat (Or.inl (by omega))
  have hNe (d : Char) (hNot : b.toNat ≠ d.toNat) :
      Char.ofNat b.toNat ≠ d := by
    intro hEq
    rw [hEq] at hNumber
    exact hNot hNumber.symm
  refine ⟨hNe '#' ?_, ?_⟩
  · show b.toNat ≠ 35
    omega
  · simp only [isLineBreak, Bool.or_eq_false_iff,
      beq_eq_false_iff_ne]
    constructor
    · apply hNe
      show b.toNat ≠ 13
      omega
    · apply hNe
      show b.toNat ≠ 10
      omega

end Line

end Courier

------------------------------------------------------------
-- Written Lines
------------------------------------------------------------

namespace Courier

namespace Line

/- The characters have neither separator nor line break. -/
def Fits
    (chars : List Char) : Prop :=
  hasSeparator chars = false ∧
    ∀ c ∈ chars, isLineBreak c = false

/- The parts of a line between its separators. -/
def pieces
    (fields : List String)
    (object : Option Json) : List (List Char) :=
  match object with
  | none => fields.map String.toList
  | some value =>
      fields.map String.toList ++
        [(encodeObject value).toList]

/- The fields with a separator after them. -/
def followed
    (fields : List String)
    (object : Option Json) : List String :=
  match object with
  | none => fields.dropLast
  | some _ => fields

/- Without its first sign there is no separator. -/
theorem hasSeparator_of_notMem
    {chars : List Char}
    (hSign : '#' ∉ chars) :
    hasSeparator chars = false := by
  rw [Bool.eq_false_iff, ne_eq, hasSeparator_iff]
  intro hIn
  exact hSign (hIn.subset (by simp [separator]))

/- The field of an object fits a line. -/
theorem fits_encodeObject
    (value : Json) :
    Fits (encodeObject value).toList := by
  constructor
  · apply hasSeparator_of_notMem
    intro hMem
    exact (plain_of_mem_encodeObject hMem).1 rfl
  · intro c hMem
    exact (plain_of_mem_encodeObject hMem).2

/- The fields that are accepted are those that fit. -/
theorem checkField_eq_ok_iff
    (field : String) :
    checkField field = .ok () ↔ Fits field.toList := by
  unfold checkField Fits
  cases hSep : hasSeparator field.toList with
  | true => simp
  | false => simp [List.any_eq_true]

/- All fields are accepted if each one is. -/
theorem checkFields_eq_ok_iff
    (fields : List String) :
    checkFields fields = .ok () ↔
      ∀ f ∈ fields, Fits f.toList := by
  induction fields with
  | nil => simp [checkFields]
  | cons f rest ih =>
      rw [List.forall_mem_cons, ← checkField_eq_ok_iff, ← ih,
        checkFields]
      cases checkField f with
      | ok => simp
      | error e => simp

/- When a line is written, and which one. -/
theorem join_eq_ok_iff
    {fields : List String}
    {object : Option Json}
    {line : String} :
    join fields object = .ok line ↔
      (∀ f ∈ fields, Fits f.toList) ∧
        line =
          String.ofList
            (List.intercalate separator
              (pieces fields object)) := by
  rw [← checkFields_eq_ok_iff]
  unfold join pieces
  cases checkFields fields with
  | error e => simp
  | ok =>
      simp only [true_and, Except.ok.injEq]
      exact eq_comm

/- All parts of a line fit if its fields do. -/
theorem fits_of_mem_pieces
    {fields : List String}
    (object : Option Json)
    (hFits : ∀ f ∈ fields, Fits f.toList) :
    ∀ p ∈ pieces fields object, Fits p := by
  intro p hMem
  cases object with
  | none =>
      rcases List.mem_map.mp hMem with ⟨f, hField, rfl⟩
      exact hFits f hField
  | some value =>
      rcases List.mem_append.mp hMem with hMem | hMem
      · rcases List.mem_map.mp hMem with ⟨f, hField, rfl⟩
        exact hFits f hField
      · rw [List.mem_singleton] at hMem
        rw [hMem]
        exact fits_encodeObject value

/- The followed fields are all parts but the last one. -/
theorem dropLast_pieces
    (fields : List String)
    (object : Option Json) :
    (pieces fields object).dropLast =
      (followed fields object).map String.toList := by
  cases object with
  | none => simp [pieces, followed, List.map_dropLast]
  | some value => simp [pieces, followed]

/- The followed fields are the first ones. -/
theorem followed_prefix
    (fields : List String)
    (object : Option Json) :
    followed fields object <+: fields := by
  cases object with
  | none => exact List.dropLast_prefix fields
  | some value => exact List.prefix_rfl

end Line

end Courier

------------------------------------------------------------
-- Line Breaks
------------------------------------------------------------

namespace Courier

namespace Line

/- A line without line breaks keeps its end. -/
theorem dropLineBreaks_of_forall
    {chars : List Char}
    (hPlain : ∀ c ∈ chars, isLineBreak c = false) :
    dropLineBreaks chars = chars := by
  have hKeep :
      chars.reverse.dropWhile isLineBreak =
        chars.reverse := by
    cases hReverse : chars.reverse with
    | nil => rfl
    | cons c rest =>
        have hMem : c ∈ chars := by
          rw [← List.mem_reverse, hReverse]
          exact List.mem_cons_self
        rw [List.dropWhile_cons_of_neg
          (by simp [hPlain c hMem])]
  rw [dropLineBreaks, hKeep, List.reverse_reverse]

/- Parts without line breaks make a line without them. -/
theorem isLineBreak_of_mem_intercalate
    {all : List (List Char)}
    (hPlain : ∀ p ∈ all, ∀ c ∈ p, isLineBreak c = false) :
    ∀ c ∈ List.intercalate separator all,
      isLineBreak c = false := by
  induction all with
  | nil => simp
  | cons p rest ih =>
      have hFirst := hPlain p List.mem_cons_self
      have hOthers :=
        ih fun q hMem =>
          hPlain q (List.mem_cons_of_mem p hMem)
      cases rest with
      | nil => simpa using hFirst
      | cons q others =>
          intro c hMem
          rw [List.intercalate_cons_cons, List.mem_append,
            List.mem_append] at hMem
          rcases hMem with (hMem | hMem) | hMem
          · exact hFirst c hMem
          · have hSigns :
                separator.all (!isLineBreak ·) = true := by
              decide
            simpa using List.all_eq_true.mp hSigns c hMem
          · exact hOthers c hMem

end Line

end Courier

------------------------------------------------------------
-- Lines Read Back
------------------------------------------------------------

namespace Courier

namespace Line

/- The parts of a line that was written, cut again. -/
theorem dropLineBreaks_join
    {fields : List String}
    {object : Option Json}
    {line : String}
    (hJoin : join fields object = .ok line) :
    (∀ p ∈ pieces fields object, hasSeparator p = false) ∧
      dropLineBreaks line.toList =
        List.intercalate separator
          (pieces fields object) := by
  rcases join_eq_ok_iff.mp hJoin with ⟨hFits, rfl⟩
  have hPieces := fits_of_mem_pieces object hFits
  refine ⟨fun p hMem => (hPieces p hMem).1, ?_⟩
  rw [String.toList_ofList]
  apply dropLineBreaks_of_forall
  apply isLineBreak_of_mem_intercalate
  exact fun p hMem => (hPieces p hMem).2

/- The fields that are read are the first ones of the cut. -/
theorem texts_of_split
    {line : String}
    {count : Nat}
    {texts : List String}
    {found : Option Json}
    (hSplit : split line count = .ok (texts, found)) :
    texts =
      ((fields (dropLineBreaks line.toList)).take count).map
        String.ofList := by
  simp only [split] at hSplit
  split at hSplit
  · cases hSplit
    rfl
  · split at hSplit
    · split at hSplit
      · cases hSplit
        rfl
      · cases hSplit
    · cases hSplit

/-
  Fields come back, with what comes back of the object, if
  no field in front of another part ends in the first part
  of a separator.
-/
theorem split_join_eq
    {fields : List String}
    {object : Option Json}
    {line : String}
    (hSome : fields ≠ [])
    (hJoin : join fields object = .ok line)
    (hHalf :
      ∀ f ∈ followed fields object,
        endsInHalf f.toList = false) :
    split line fields.length =
      (returned object).map fun found => (fields, found) := by
  rcases dropLineBreaks_join hJoin with ⟨hSep, hDrop⟩
  have hPieces : pieces fields object ≠ [] := by
    cases object with
    | none => simpa [pieces] using hSome
    | some value => simp [pieces]
  have hClear :
      ∀ p ∈ (pieces fields object).dropLast,
        endsInHalf p = false := by
    rw [dropLast_pieces]
    exact List.forall_mem_map.mpr hHalf
  unfold split
  rw [hDrop, fields_intercalate hPieces hSep hClear]
  cases object with
  | none =>
      simp [pieces, returned, Function.comp_def, Except.map]
  | some value =>
      simp only [pieces, returned, List.length_append,
        List.length_map, List.length_singleton,
        Nat.succ_ne_self, if_false, if_true]
      cases hObject :
        decodeObject (encodeObject value).toList with
      | error e => simp [hObject, Except.map]
      | ok found =>
          simp [hObject, Except.map, Function.comp_def]

/- Fields come back with an object that reads back. -/
theorem split_join
    {fields : List String}
    {object : Option Json}
    {line : String}
    (hSome : fields ≠ [])
    (hRead : ReadsBack object)
    (hJoin : join fields object = .ok line)
    (hHalf :
      ∀ f ∈ followed fields object,
        endsInHalf f.toList = false) :
    split line fields.length = .ok (fields, object) := by
  rw [split_join_eq hSome hJoin hHalf,
    returned_of_readsBack hRead]
  rfl

/- An object does not start with a bar. -/
theorem decodeObject_of_bar
    (chars : List Char) :
    ∃ e, decodeObject ('|' :: chars) = .error e := by
  have hBytes :
      Utf8.encode ('|' :: chars) =
        124 :: Utf8.encode chars := by
    exact Utf8.encode_append ['|'] chars
  rcases
    Base64.exists_fault_of_foreign (b := 124)
      (Utf8.encode chars) (by decide) (by decide) with
    ⟨fault, hFault⟩
  simp only [decodeObject, List.isEmpty_cons,
    Bool.false_eq_true, if_false, hBytes, hFault]
  exact ⟨_, rfl⟩

/-
  If a line is accepted, what starts with a bar after a
  field is a field as well, and not the object.
-/
theorem length_lt_of_split
    {line : String}
    {count : Nat}
    {before rest : List (List Char)}
    {short next : List Char}
    {texts : List String}
    {found : Option Json}
    (hFields :
      fields (dropLineBreaks line.toList) =
        before ++ short :: ('|' :: next) :: rest)
    (hCount : before.length < count)
    (hSplit : split line count = .ok (texts, found)) :
    before.length + 1 < count := by
  by_cases hLast : before.length + 1 = count
  · subst hLast
    rcases decodeObject_of_bar next with ⟨e, hError⟩
    simp only [split, hFields, List.length_append,
      List.length_cons] at hSplit
    split at hSplit
    · omega
    · split at hSplit
      · next hOne =>
          have hNil : rest = [] := by
            rw [← List.length_eq_zero_iff]
            omega
          have hDrop :
              (before ++ [short, '|' :: next]).drop
                  (before.length + 1) =
                ['|' :: next] := by
            simp [List.drop_append]
          subst hNil
          simp [hDrop, hError] at hSplit
      · cases hSplit
  · omega

/-
  Otherwise the first field that ends in the first part of a
  separator is cut off without it, after the fields before
  it, and what is cut off next starts with the bar.
-/
theorem exists_cut_of_half
    {fields : List String}
    {object : Option Json}
    {line : String}
    (hJoin : join fields object = .ok line)
    (hHalf :
      ∃ f ∈ followed fields object,
        endsInHalf f.toList = true) :
    ∃ before short after next rest,
      followed fields object =
          before ++ String.ofList (short ++ ['#', '|']) ::
            after ∧
        (∀ g ∈ before, endsInHalf g.toList = false) ∧
        Line.fields (dropLineBreaks line.toList) =
          before.map String.toList ++
            short :: ('|' :: next) :: rest := by
  rcases dropLineBreaks_join hJoin with ⟨hSep, hDrop⟩
  have hEnd :
      ∃ p ∈ (pieces fields object).dropLast,
        endsInHalf p = true := by
    rcases hHalf with ⟨f, hMem, hTrue⟩
    rw [dropLast_pieces]
    exact ⟨f.toList, List.mem_map_of_mem hMem, hTrue⟩
  rcases exists_shortened hSep hEnd with
    ⟨front, short, back, next, rest, hAll, hFront, hFields⟩
  rw [dropLast_pieces, List.map_eq_append_iff] at hAll
  rcases hAll with ⟨before, others, hAll, rfl, hOthers⟩
  rcases List.map_eq_cons_iff.mp hOthers with
    ⟨f, after, rfl, hField, rfl⟩
  refine ⟨before, short, after, next, rest, ?_, ?_, ?_⟩
  · rw [← hField, String.ofList_toList]
    exact hAll
  · exact List.forall_mem_map.mp hFront
  · rw [hDrop]
    exact hFields

/-
  Such a field comes back without its end, and a field that
  starts with the bar comes back after it.
-/
theorem exists_shortened_of_split
    {fields texts : List String}
    {object found : Option Json}
    {line : String}
    (hJoin : join fields object = .ok line)
    (hHalf :
      ∃ f ∈ followed fields object,
        endsInHalf f.toList = true)
    (hSplit :
      split line fields.length = .ok (texts, found)) :
    ∃ (i : Nat) (short next : List Char),
      fields[i]? = some (String.ofList (short ++ ['#', '|'])) ∧
        texts[i]? = some (String.ofList short) ∧
        texts[i + 1]? = some (String.ofList ('|' :: next)) := by
  rcases exists_cut_of_half hJoin hHalf with
    ⟨before, short, after, next, rest, hFollowed, -, hFields⟩
  rcases followed_prefix fields object with ⟨others, hAppend⟩
  have hField :
      fields[before.length]? =
        some (String.ofList (short ++ ['#', '|'])) := by
    rw [← hAppend, hFollowed, List.append_assoc,
      List.getElem?_append_right (Nat.le_refl _),
      Nat.sub_self]
    rfl
  have hCount : before.length < fields.length :=
    (List.getElem?_eq_some_iff.mp hField).1
  refine ⟨before.length, short, next, hField, ?_, ?_⟩
  · rw [texts_of_split hSplit, hFields,
      List.getElem?_map, List.getElem?_take_of_lt hCount,
      List.getElem?_append_right (by simp)]
    simp
  · have hNext : before.length + 1 < fields.length := by
      have hFront :
          (before.map String.toList).length < fields.length := by
        rw [List.length_map]
        exact hCount
      have hNext := length_lt_of_split hFields hFront hSplit
      rw [List.length_map] at hNext
      exact hNext
    rw [texts_of_split hSplit, hFields,
      List.getElem?_map, List.getElem?_take_of_lt hNext,
      List.getElem?_append_right (by simp)]
    simp

/-
  If every field that ends in the first part of a separator
  comes back, no field in front of another part does.
-/
theorem endsInHalf_of_split
    {fields texts : List String}
    {object found : Option Json}
    {line : String}
    (hJoin : join fields object = .ok line)
    (hSplit :
      split line fields.length = .ok (texts, found))
    (hSame :
      ∀ (i : Nat) (f : String),
        fields[i]? = some f →
          endsInHalf f.toList = true →
            texts[i]? = some f) :
    ∀ f ∈ followed fields object,
      endsInHalf f.toList = false := by
  intro f hMem
  cases hEnd : endsInHalf f.toList with
  | false => rfl
  | true =>
      rcases
        exists_shortened_of_split hJoin ⟨f, hMem, hEnd⟩
          hSplit with
        ⟨i, short, next, hField, hText, -⟩
      have hBack := hSame i _ hField (by
        rw [String.toList_ofList, endsInHalf,
          List.isSuffixOf_iff_suffix]
        exact List.suffix_append short ['#', '|'])
      rw [hText, Option.some.injEq,
        String.ofList_inj] at hBack
      have hLength := congrArg List.length hBack
      simp at hLength

end Line

end Courier

------------------------------------------------------------
-- Single Fields Read Back
------------------------------------------------------------

namespace Courier

namespace Line

/- A length comes back. -/
theorem length_toString
    (n : UInt64) :
    length (toString n.toNat) = .ok n := by
  have hSome : (toString n.toNat).isEmpty = false := by
    rw [Bool.eq_false_iff, ne_eq, String.isEmpty_iff]
    intro hNone
    apply Numeral.toString_ne_nil n.toNat
    rw [hNone]
    rfl
  unfold length
  rw [hSome, Numeral.natural64?_toString]
  simp

/- An optional field comes back if it is not empty. -/
theorem optional_getD
    {field : Option String}
    (hSome : field ≠ some "") :
    optional (field.getD "") = field := by
  cases field with
  | none => rfl
  | some text =>
      have hText : text ≠ "" := fun hEq => hSome (by rw [hEq])
      simp [optional, hText]

/- The text of an optional field is the one it was read from. -/
theorem getD_optional
    (text : String) :
    (optional text).getD "" = text := by
  unfold optional
  split
  · next hEmpty =>
      rw [String.isEmpty_iff] at hEmpty
      rw [hEmpty]
      rfl
  · rfl

/- A number does not end in the first part of a separator. -/
theorem endsInHalf_toString
    (n : Nat) :
    endsInHalf (toString n).toList = false := by
  rw [Bool.eq_false_iff]
  intro hEnd
  rw [endsInHalf, List.isSuffixOf_iff_suffix] at hEnd
  have hMem : '#' ∈ (toString n).toList :=
    hEnd.subset (by simp)
  exact absurd (Numeral.isDigit_of_mem_toString hMem)
    (by decide)

end Line

end Courier
