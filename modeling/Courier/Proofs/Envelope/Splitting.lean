import Courier.Proofs.Envelope.Stability

/-
  When the parts that are cut out of a line are those that
  were joined.

  They are if no field with another part after it ends in
  the first part of a separator, and if an attached object
  is read back from its own text.  Otherwise the first such
  field comes back shorter than it was, if anything comes
  back at all.

  An object need not be read back: a number is read with
  more than one rounding, so that its last bit may differ
  from the one that was written.

  Key definitions include:
    * `Line.faint`

  Key theorems include:
    * `Line.split_eq_ok_iff`
    * `Line.texts_of_cut`
    * `Line.split_join_iff`
    * `Line.read?_faint`
    * `Line.not_readsBack_faint`
-/

------------------------------------------------------------
-- Lines Cut Again
------------------------------------------------------------

namespace Courier

namespace Line

variable {fields texts : List String}
variable {object found : Option Json}
variable {line : String}

/-
  Fields come back with their object exactly if none of them,
  with another part after it, ends in the first part of a
  separator, and the object is read back.
-/
theorem split_eq_ok_iff
    (hSome : fields ≠ [])
    (hJoin : join fields object = .ok line) :
    split line fields.length = .ok (fields, object) ↔
      (∀ f ∈ followed fields object,
        endsInHalf f.toList = false) ∧
        ReadsBack object := by
  constructor
  · intro hSplit
    have hHalf :
        ∀ f ∈ followed fields object,
          endsInHalf f.toList = false := by
      apply endsInHalf_of_split hJoin hSplit
      intro i f hField hEnd
      exact hField
    exact ⟨hHalf, readsBack_of_split hJoin hHalf hSplit⟩
  · rintro ⟨hHalf, hRead⟩
    exact split_join hSome hRead hJoin hHalf

/- What is cut off first is read first. -/
theorem texts_of_cut
    {before : List String}
    {short : List Char}
    {rest : List (List Char)}
    {count : Nat}
    (hFields :
      Line.fields (dropLineBreaks line.toList) =
        before.map String.toList ++ short :: rest)
    (hCount : before.length < count)
    (hSplit : split line count = .ok (texts, found)) :
    ∃ others,
      texts = before ++ String.ofList short :: others := by
  rcases Nat.exists_eq_add_of_lt hCount with ⟨more, rfl⟩
  have hTake :
      (before.map String.toList ++ short :: rest).take
          (before.length + more + 1) =
        before.map String.toList ++
          short :: rest.take more := by
    rw [Nat.add_assoc, ← List.length_map String.toList,
      List.take_length_add_append, List.take_succ_cons]
  refine ⟨(rest.take more).map String.ofList, ?_⟩
  rw [texts_of_split hSplit, hFields, hTake]
  simp

/- A field without its end is another field. -/
theorem ofList_ne_append_half
    (short : List Char) :
    String.ofList short ≠
      String.ofList (short ++ ['#', '|']) := by
  rw [ne_eq, String.ofList_inj]
  intro hSame
  have hLength := congrArg List.length hSame
  simp at hLength

/-
  Fields come back with their object exactly if none of them,
  with another part after it, ends in the first part of a
  separator, and the object is read back from its text.

  If some of them do end so, the first one is cut off without
  this end, after the fields before it.  So the line is
  refused, or that field comes back shorter than it was.
-/
theorem split_join_iff
    (hSome : fields ≠ [])
    (hJoin : join fields object = .ok line) :
    (split line fields.length = .ok (fields, object) ↔
      (∀ f ∈ followed fields object,
        endsInHalf f.toList = false) ∧
        ReadsBack object) ∧
      ((∃ f ∈ followed fields object,
          endsInHalf f.toList = true) →
        ∃ before short after,
          followed fields object =
              before ++ String.ofList (short ++ ['#', '|']) ::
                after ∧
            (∀ g ∈ before, endsInHalf g.toList = false) ∧
            (∃ rest,
              Line.fields (dropLineBreaks line.toList) =
                before.map String.toList ++ short :: rest) ∧
            ∀ texts found,
              split line fields.length = .ok (texts, found) →
                texts ≠ fields ∧
                  ∃ others,
                    texts =
                      before ++ String.ofList short ::
                        others) := by
  refine ⟨split_eq_ok_iff hSome hJoin, ?_⟩
  intro hHalf
  rcases exists_cut_of_half hJoin hHalf with
    ⟨before, short, after, next, rest, hFollowed, hBefore,
      hCut⟩
  rcases followed_prefix fields object with ⟨last, hAll⟩
  rw [hFollowed, List.append_assoc, List.cons_append] at hAll
  refine
    ⟨before, short, after, hFollowed, hBefore, ⟨_, hCut⟩, ?_⟩
  intro texts found hSplit
  have hCount : before.length < fields.length := by
    rw [← hAll, List.length_append, List.length_cons]
    omega
  rcases texts_of_cut hCut hCount hSplit with ⟨others, rfl⟩
  refine ⟨?_, others, rfl⟩
  intro hSame
  rw [← hAll] at hSame
  have hField :=
    (List.cons.inj (List.append_cancel_left hSame)).1
  exact ofList_ne_append_half short hField

/-
  A field may start with the end of a separator, and the last
  one may end in the first part of one.  If another field
  comes after such a one, both of them come back wrong.
-/
theorem split_join_iff_overlap :
    join ["|#a", "b#|"] none = .ok "|#a#|#b#|" ∧
      split "|#a#|#b#|" 2 = .ok (["|#a", "b#|"], none) ∧
      join ["a", "b#|", "c"] none = .ok "a#|#b#|#|#c" ∧
      split "a#|#b#|#|#c" 3 = .ok (["a", "b", "|#c"], none) ∧
      ∃ before short after others,
        ["a", "b#|"] =
            before ++ String.ofList (short ++ ['#', '|']) ::
              after ∧
          ["a", "b", "|#c"] =
            before ++ String.ofList short :: others := by
  have hWhole :
      join ["|#a", "b#|"] none = .ok "|#a#|#b#|" := rfl
  have hCut :
      join ["a", "b#|", "c"] none = .ok "a#|#b#|#|#c" := rfl
  have hSplit :
      split "a#|#b#|#|#c" 3 =
        .ok (["a", "b", "|#c"], none) := rfl
  have hBack := (split_join_iff (by decide) hWhole).1
  rcases
    (split_join_iff (by decide) hCut).2
      ⟨"b#|", by decide, by decide⟩ with
    ⟨before, short, after, hFollowed, -, -, hShort⟩
  refine ⟨hWhole, ?_, hCut, hSplit, before, short, after, ?_⟩
  · exact hBack.mpr ⟨by decide, nofun⟩
  · rcases hShort _ _ hSplit with ⟨-, others, hTexts⟩
    exact ⟨others, hFollowed, hTexts⟩

end Line

end Courier

------------------------------------------------------------
-- Numbers That Are Not Read Back
------------------------------------------------------------

namespace Courier

namespace Line

/-
  A number and the digits that stand for it.

  What is read from them is the number next to it: the
  digits are taken as a whole number, which is not exact,
  and that is divided by a power of ten, which is not exact
  either.
-/
def faint : Json :=
  .number (.binary ⟨false, 4247835366853742248⟩)

def faintText : List Char :=
  "1.0000000000000001e-24".toList

/- The parts of these digits. -/
def faintDecimal : Decimal :=
  { negative := false
    whole := ['1']
    fraction := "0000000000000001".toList
    power := some (true, ['2', '4']) }

/- The number is written with these digits. -/
theorem chars_faint :
    faint.chars = faintText := by
  have hDigits :
      Shortest.digits 4247835366853742248 =
        ("10000000000000001".toList, -24) := by
    decide +kernel
  have hSome : (4247835366853742248 : Nat) ≠ 0 := by decide
  rw [faint, Json.chars, Json.numberChars, Shortest.render]
  simp only [if_neg hSome, hDigits]
  rfl

/- The quotient that is read is not rounded once, but twice. -/
theorem magnitude?_faintDecimal :
    faintDecimal.magnitude? = some 4247835366853742247 := by
  have hQuotient :
      (Magnitude.ofNat 10000000000000001).div
          (Decimal.ten 40) =
        4247835366853742247 := by
    decide +kernel
  have hScale :
      Decimal.scale? 10000000000000001 (-40) =
        some 4247835366853742247 := by
    rw [Decimal.scale?, if_neg (by decide), ← hQuotient]
    have hPower : (-(-40 : Int)).toNat = 40 := rfl
    simp only [hPower]
    rw [Decimal.scaleDown, dif_pos (by decide)]
  exact hScale

/- The number next to it is read from its digits. -/
theorem read?_faint :
    Json.read? faintText =
      some (.number (.binary ⟨false, 4247835366853742247⟩)) := by
  have hRead :
      Document.read? faintText =
        some (.number faintDecimal) := by
    rfl
  rw [Json.read?, hRead, Option.bind_some, Document.toJson?,
    Decimal.toNumber?, magnitude?_faintDecimal]
  rfl

/- The number does not come back from its own text. -/
theorem not_readsBack_faint :
    ¬ReadsBack (some faint) := by
  intro hRead
  have hBack := hRead faint rfl
  rw [chars_faint, read?_faint] at hBack
  simp [faint] at hBack

/-
  So it is not only a matter of the fields whether a command
  comes back with its object.
-/
theorem not_forall_split_join :
    ¬∀ (fields : List String)
        (object : Option Json)
        (line : String),
        fields ≠ [] →
          join fields object = .ok line →
            (split line fields.length = .ok (fields, object) ↔
              ∀ f ∈ followed fields object,
                endsInHalf f.toList = false) := by
  intro hAll
  let fields := ["", "log", "LOG", "", "0", "", ""]
  have hFits : ∀ f ∈ fields, Fits f.toList :=
    (checkFields_eq_ok_iff fields).mp rfl
  have hHalf :
      ∀ f ∈ followed fields (some faint),
        endsInHalf f.toList = false := by
    decide
  have hJoin :
      join fields (some faint) =
        .ok
          (String.ofList
            (List.intercalate separator
              (pieces fields (some faint)))) :=
    join_eq_ok_iff.mpr ⟨hFits, rfl⟩
  have hSplit :=
    (hAll fields (some faint) _ (by decide) hJoin).mpr hHalf
  exact not_readsBack_faint
    (readsBack_of_split hJoin hHalf hSplit)

end Line

end Courier
