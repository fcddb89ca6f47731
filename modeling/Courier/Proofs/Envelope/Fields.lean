import Courier.Envelope.Line

/-
  Where a line is cut.

  A separator can overlap the end of the field in front of
  it: a field that ends in `#|` and the separator make
  `#|#|#`, which is cut two characters too early.  All other
  fields without a separator in them come back whole.

  Key definitions include:
    * `Line.endsInHalf`
    * `Line.IsClear`

  Key theorems include:
    * `Line.fields_append`
    * `Line.fields_append_half`
    * `Line.fields_intercalate`
    * `Line.exists_shortened`
-/

------------------------------------------------------------
-- Clear Fields
------------------------------------------------------------

namespace Courier

namespace Line

/- The characters end in the first part of a separator. -/
def endsInHalf
    (chars : List Char) : Bool :=
  ['#', '|'].isSuffixOf chars

/-
  The characters stay one field, whatever separator and
  whatever field comes after them.
-/
def IsClear
    (chars : List Char) : Prop :=
  hasSeparator chars = false ∧ endsInHalf chars = false

instance
    (chars : List Char) :
    Decidable (IsClear chars) := by
  unfold IsClear
  infer_instance

/- No separator starts at the front of the characters. -/
def StartsClear
    (chars : List Char) : Prop :=
  ∀ rest, chars ≠ '#' :: '|' :: '#' :: rest

/- A separator further on is one of the whole as well. -/
theorem hasSeparator_tail
    {c : Char}
    {chars : List Char}
    (hSep : hasSeparator (c :: chars) = false) :
    hasSeparator chars = false := by
  unfold hasSeparator at hSep
  split at hSep
  · exact absurd hSep (by simp)
  · next hEq =>
      cases hEq
      exact hSep
  · next hEq => cases hEq

/- Without a separator none starts at the front. -/
theorem startsClear_of_hasSeparator
    {chars : List Char}
    (hSep : hasSeparator chars = false) :
    StartsClear chars := by
  intro rest hEq
  subst hEq
  simp [hasSeparator] at hSep

/- What comes last ends as the whole does. -/
theorem endsInHalf_of_suffix
    {part chars : List Char}
    (hPart : part <:+ chars)
    (hHalf : endsInHalf chars = false) :
    endsInHalf part = false := by
  rw [endsInHalf, Bool.eq_false_iff] at hHalf ⊢
  intro hEnd
  apply hHalf
  rw [List.isSuffixOf_iff_suffix] at hEnd ⊢
  exact hEnd.trans hPart

/- The tail of a clear field is clear. -/
theorem IsClear.tail
    {c : Char}
    {chars : List Char}
    (hClear : IsClear (c :: chars)) :
    IsClear chars :=
  ⟨hasSeparator_tail hClear.1,
    endsInHalf_of_suffix (List.suffix_cons c chars) hClear.2⟩

/-
  In front of a clear field that is not empty no separator
  starts, also with a separator behind it.
-/
theorem IsClear.startsClear
    {c : Char}
    {chars : List Char}
    (rest : List Char)
    (hClear : IsClear (c :: chars)) :
    StartsClear (c :: chars ++ separator ++ rest) := by
  rcases hClear with ⟨hSep, hHalf⟩
  intro after hEq
  match chars with
  | [] => simp [separator] at hEq
  | [d] =>
      simp only [separator, List.cons_append,
        List.nil_append, List.cons.injEq] at hEq
      rcases hEq with ⟨rfl, rfl, -⟩
      exact absurd hHalf (by decide)
  | d :: e :: others =>
      simp only [List.cons_append, List.cons.injEq] at hEq
      rcases hEq with ⟨rfl, rfl, rfl, -⟩
      simp [hasSeparator] at hSep

end Line

end Courier

------------------------------------------------------------
-- Cutting
------------------------------------------------------------

namespace Courier

namespace Line

/- A character in front of which nothing is cut is kept. -/
theorem fieldsFrom_cons
    (done : List (List Char))
    (field : List Char)
    {c : Char}
    {chars : List Char}
    (hClear : StartsClear (c :: chars)) :
    fieldsFrom done field (c :: chars) =
      fieldsFrom done (c :: field) chars := by
  rw [fieldsFrom]
  intro rest hC hChars
  exact hClear rest (by rw [hC, hChars])

/- Fields that were cut before stand in front. -/
theorem fieldsFrom_append_done
    (done others : List (List Char))
    (field chars : List Char) :
    fieldsFrom (done ++ others) field chars =
      others.reverse ++ fieldsFrom done field chars := by
  fun_induction fieldsFrom done field chars with
  | case1 done field rest ih =>
      rw [fieldsFrom]
      exact ih
  | case2 done field c rest hNot ih =>
      have hClear : StartsClear (c :: rest) := by
        intro after hEq
        cases hEq
        exact hNot after rfl rfl
      rw [fieldsFrom_cons _ _ hClear]
      exact ih
  | case3 done field => simp [fieldsFrom]

/- A clear field is collected up to its separator. -/
private theorem fieldsFrom_clear
    (done : List (List Char))
    (field : List Char)
    {chars : List Char}
    (rest : List Char)
    (hClear : IsClear chars) :
    fieldsFrom done field (chars ++ separator ++ rest) =
      fieldsFrom ((field.reverse ++ chars) :: done) []
        rest := by
  induction chars generalizing field with
  | nil => simp [separator, fieldsFrom]
  | cons c chars ih =>
      have hStart := hClear.startsClear rest
      rw [List.cons_append, List.cons_append] at hStart ⊢
      rw [fieldsFrom_cons done field hStart,
        ih (c :: field) hClear.tail]
      simp

/- A field without a separator is collected to its end. -/
private theorem fieldsFrom_last
    (done : List (List Char))
    (field : List Char)
    {chars : List Char}
    (hSep : hasSeparator chars = false) :
    fieldsFrom done field chars =
      ((field.reverse ++ chars) :: done).reverse := by
  induction chars generalizing field with
  | nil => simp [fieldsFrom]
  | cons c chars ih =>
      have hStart := startsClear_of_hasSeparator hSep
      rw [fieldsFrom_cons done field hStart,
        ih (c :: field) (hasSeparator_tail hSep)]
      simp

/- A clear field is cut off whole. -/
theorem fields_append
    {field : List Char}
    (rest : List Char)
    (hClear : IsClear field) :
    fields (field ++ separator ++ rest) =
      field :: fields rest := by
  unfold fields
  rw [fieldsFrom_clear [] [] rest hClear]
  exact fieldsFrom_append_done [] [field] [] rest

/- Without a separator there is nothing to cut. -/
theorem fields_of_hasSeparator
    {field : List Char}
    (hSep : hasSeparator field = false) :
    fields field = [field] := by
  unfold fields
  rw [fieldsFrom_last [] [] hSep]
  rfl

end Line

end Courier

------------------------------------------------------------
-- Shortened Fields
------------------------------------------------------------

namespace Courier

namespace Line

/- A separator stands in the characters as one piece. -/
theorem hasSeparator_iff
    (chars : List Char) :
    hasSeparator chars = true ↔ separator <:+: chars := by
  induction chars with
  | nil => simp [hasSeparator, separator]
  | cons c chars ih =>
      rw [List.infix_cons_iff]
      constructor
      · intro hSep
        unfold hasSeparator at hSep
        split at hSep
        · next rest hEq =>
            apply Or.inl
            rw [hEq]
            exact ⟨rest, rfl⟩
        · next d others hNot hEq =>
            cases hEq
            exact Or.inr (ih.mp hSep)
        · cases hSep
      · rintro (⟨rest, hEq⟩ | hTail)
        · rw [← hEq]
          rfl
        · cases hSep : hasSeparator (c :: chars) with
          | true => rfl
          | false =>
              have hNone := hasSeparator_tail hSep
              rw [ih.mpr hTail] at hNone
              exact hNone.symm

/- Parts of characters without a separator have none. -/
theorem hasSeparator_of_infix
    {part chars : List Char}
    (hPart : part <:+: chars)
    (hSep : hasSeparator chars = false) :
    hasSeparator part = false := by
  rw [Bool.eq_false_iff] at hSep ⊢
  intro hIn
  apply hSep
  rw [hasSeparator_iff] at hIn ⊢
  exact hIn.trans hPart

/-
  What stands in front of the first part of a separator is
  clear if no separator begins before that part.
-/
theorem isClear_of_append_half
    {field : List Char}
    (hSep :
      hasSeparator (field ++ ['#', '|']) = false) :
    IsClear field := by
  constructor
  · exact
      hasSeparator_of_infix
        (List.prefix_append field ['#', '|']).isInfix hSep
  · rw [Bool.eq_false_iff]
    intro hHalf
    rw [endsInHalf, List.isSuffixOf_iff_suffix] at hHalf
    rcases hHalf with ⟨front, rfl⟩
    have hIn :
        separator <:+:
          front ++ ['#', '|'] ++ ['#', '|'] :=
      ⟨front, ['|'], by simp [separator]⟩
    rw [← hasSeparator_iff, hSep] at hIn
    cases hIn

/-
  A field that ends in the first part of a separator loses
  that part, and the text after it starts with the end of
  the separator.
-/
theorem fields_append_half
    {field : List Char}
    (rest : List Char)
    (hSep :
      hasSeparator (field ++ ['#', '|']) = false) :
    fields (field ++ ['#', '|'] ++ separator ++ rest) =
      field :: fields ('|' :: '#' :: rest) := by
  have hClear := isClear_of_append_half hSep
  have hEq :
      field ++ ['#', '|'] ++ separator ++ rest =
        field ++ separator ++ '|' :: '#' :: rest := by
    simp [separator]
  rw [hEq]
  exact fields_append _ hClear

end Line

end Courier

------------------------------------------------------------
-- Lists of Fields
------------------------------------------------------------

namespace Courier

namespace Line

/-
  Fields come back from their line if none in front of a
  separator ends in the first part of one.
-/
theorem fields_intercalate
    {all : List (List Char)}
    (hSome : all ≠ [])
    (hSep : ∀ f ∈ all, hasSeparator f = false)
    (hHalf : ∀ f ∈ all.dropLast, endsInHalf f = false) :
    fields (List.intercalate separator all) = all := by
  induction all with
  | nil => exact absurd rfl hSome
  | cons f rest ih =>
      have hFirst := hSep f List.mem_cons_self
      have hOthers :
          ∀ g ∈ rest, hasSeparator g = false :=
        fun g hMem => hSep g (List.mem_cons_of_mem f hMem)
      cases rest with
      | nil =>
          rw [List.intercalate_singleton]
          exact fields_of_hasSeparator hFirst
      | cons g others =>
          rw [List.dropLast_cons_cons] at hHalf
          have hClear : IsClear f :=
            ⟨hFirst, hHalf f List.mem_cons_self⟩
          rw [List.intercalate_cons_cons,
            fields_append _ hClear,
            ih (List.cons_ne_nil g others) hOthers
              fun h hMem =>
                hHalf h (List.mem_cons_of_mem f hMem)]

end Line

end Courier

------------------------------------------------------------
-- What Is Cut Out
------------------------------------------------------------

namespace Courier

namespace Line

/- In front of the leftmost separator stands a clear field. -/
theorem exists_leftmost
    {chars : List Char}
    (hSep : hasSeparator chars = true) :
    ∃ field rest,
      chars = field ++ separator ++ rest ∧ IsClear field := by
  induction chars with
  | nil => simp [hasSeparator] at hSep
  | cons c chars ih =>
      by_cases hStart : StartsClear (c :: chars)
      · have hTail : hasSeparator chars = true := by
          rw [hasSeparator_iff, List.infix_cons_iff] at hSep
          rcases hSep with ⟨rest, hEq⟩ | hIn
          · exact absurd hEq.symm (hStart rest)
          · rwa [hasSeparator_iff]
        rcases ih hTail with ⟨field, rest, rfl, hClear⟩
        refine ⟨c :: field, rest, rfl, ?_, ?_⟩
        · cases hHere : hasSeparator (c :: field) with
          | false => rfl
          | true =>
              rw [hasSeparator_iff,
                List.infix_cons_iff] at hHere
              rcases hHere with ⟨after, hEq⟩ | hIn
              · apply False.elim
                apply hStart (after ++ separator ++ rest)
                rw [← List.cons_append, ← List.cons_append,
                  ← hEq]
                simp [separator]
              · rw [← hasSeparator_iff, hClear.1] at hIn
                cases hIn
        · cases hHere : endsInHalf (c :: field) with
          | false => rfl
          | true =>
              rw [endsInHalf, List.isSuffixOf_iff_suffix,
                List.suffix_cons_iff] at hHere
              rcases hHere with hEq | hIn
              · cases hEq
                exact absurd rfl (hStart ('|' :: '#' :: rest))
              · rw [← List.isSuffixOf_iff_suffix] at hIn
                have hOpen := hClear.2
                rw [endsInHalf, hIn] at hOpen
                cases hOpen
      · simp only [StartsClear, ne_eq, Classical.not_forall,
          Classical.not_not] at hStart
        rcases hStart with ⟨rest, hEq⟩
        exact ⟨[], rest, by rw [hEq]; rfl, by decide⟩

/- Cutting leaves at least one field. -/
theorem fields_ne_nil
    (chars : List Char) :
    fields chars ≠ [] := by
  cases hSep : hasSeparator chars with
  | false => simp [fields_of_hasSeparator hSep]
  | true =>
      rcases exists_leftmost hSep with
        ⟨field, rest, rfl, hClear⟩
      rw [fields_append rest hClear]
      exact List.cons_ne_nil _ _

/-
  No field that was cut out has a separator in it, and none
  in front of a separator ends in the first part of one.
-/
theorem fields_isClear
    (chars : List Char) :
    (∀ f ∈ fields chars, hasSeparator f = false) ∧
      ∀ f ∈ (fields chars).dropLast, IsClear f := by
  induction hLength : chars.length using
      Nat.strongRecOn generalizing chars with
  | _ length ih =>
      cases hSep : hasSeparator chars with
      | false => simp [fields_of_hasSeparator hSep, hSep]
      | true =>
          rcases exists_leftmost hSep with
            ⟨field, rest, rfl, hClear⟩
          have hShorter : rest.length < length := by
            rw [← hLength]
            simp only [separator, List.length_append,
              List.length_cons]
            omega
          rcases ih rest.length hShorter rest rfl with
            ⟨hNone, hFollowed⟩
          rw [fields_append rest hClear,
            List.dropLast_cons_of_ne_nil
              (fields_ne_nil rest)]
          constructor
          · intro f hMem
            rw [List.mem_cons] at hMem
            rcases hMem with rfl | hMem
            · exact hClear.1
            · exact hNone f hMem
          · intro f hMem
            rw [List.mem_cons] at hMem
            rcases hMem with rfl | hMem
            · exact hClear
            · exact hFollowed f hMem

end Line

end Courier

------------------------------------------------------------
-- Lists with Shortened Fields
------------------------------------------------------------

namespace Courier

namespace Line

/- What comes first in the characters comes first in a field. -/
theorem exists_fields_of_bar
    (rest : List Char) :
    ∃ field others,
      fields ('|' :: rest) = ('|' :: field) :: others := by
  cases hSep : hasSeparator ('|' :: rest) with
  | false => exact ⟨rest, [], fields_of_hasSeparator hSep⟩
  | true =>
      rcases exists_leftmost hSep with
        ⟨field, after, hEq, hClear⟩
      rw [hEq, fields_append after hClear]
      cases field with
      | nil => cases hEq
      | cons c field =>
          have hHead := (List.cons.inj hEq).1
          rw [← hHead]
          exact ⟨field, fields after, rfl⟩

/-
  The first field that ends in the first part of a separator
  comes back without that part, after the fields before it,
  and the next one starts with the bar.
-/
theorem exists_shortened
    {all : List (List Char)}
    (hSep : ∀ f ∈ all, hasSeparator f = false)
    (hHalf : ∃ f ∈ all.dropLast, endsInHalf f = true) :
    ∃ before short after next rest,
      all.dropLast =
          before ++ (short ++ ['#', '|']) :: after ∧
        (∀ f ∈ before, endsInHalf f = false) ∧
        fields (List.intercalate separator all) =
          before ++ short :: ('|' :: next) :: rest := by
  induction all with
  | nil => simp at hHalf
  | cons f rest ih =>
      have hFirst := hSep f List.mem_cons_self
      have hOthers :
          ∀ g ∈ rest, hasSeparator g = false :=
        fun g hMem => hSep g (List.mem_cons_of_mem f hMem)
      cases rest with
      | nil => simp at hHalf
      | cons g others =>
          rw [List.intercalate_cons_cons]
          cases hEnd : endsInHalf f with
          | true =>
              rw [endsInHalf,
                List.isSuffixOf_iff_suffix] at hEnd
              rcases hEnd with ⟨short, rfl⟩
              have hCut :=
                fields_append_half
                  (List.intercalate separator (g :: others))
                  hFirst
              rcases exists_fields_of_bar _ with
                ⟨next, rest, hNext⟩
              rw [hNext] at hCut
              exact
                ⟨[], short, (g :: others).dropLast, next,
                  rest, rfl, by simp, hCut⟩
          | false =>
              have hMore :
                  ∃ h ∈ (g :: others).dropLast,
                    endsInHalf h = true := by
                rcases hHalf with ⟨h, hMem, hTrue⟩
                rw [List.dropLast_cons_cons,
                  List.mem_cons] at hMem
                rcases hMem with rfl | hMem
                · rw [hEnd] at hTrue
                  cases hTrue
                · exact ⟨h, hMem, hTrue⟩
              rcases ih hOthers hMore with
                ⟨before, short, after, next, rest, hAll,
                  hBefore, hFields⟩
              refine
                ⟨f :: before, short, after, next, rest, ?_,
                  ?_, ?_⟩
              · rw [List.dropLast_cons_cons, hAll]
                rfl
              · intro h hMem
                rw [List.mem_cons] at hMem
                rcases hMem with rfl | hMem
                · exact hEnd
                · exact hBefore h hMem
              · rw [fields_append _ ⟨hFirst, hEnd⟩, hFields]
                rfl

end Line

end Courier
