import Courier.Proofs.Envelope.Line

/-
  Texts that stay whole as a field of a line, whatever other
  fields stand around them.

  Messages are put together from fixed text, numbers and
  text that somebody else has sent.  Only the last can hold
  a sign that a line needs for itself.

  Key definitions include:
    * `Line.IsWhole`
    * `Line.IsBare`
    * `Line.HasNoBreak`

  Key theorems include:
    * `Line.isWhole_bare_append`
    * `Line.isWhole_append_bare`
    * `Line.isWhole_quote`
-/

------------------------------------------------------------
-- Whole Texts
------------------------------------------------------------

namespace Courier

namespace Line

/- The characters are accepted and come back as one field. -/
def IsWhole
    (chars : List Char) : Prop :=
  Fits chars ∧ endsInHalf chars = false

/- No line ends in the characters. -/
def HasNoBreak
    (chars : List Char) : Prop :=
  ∀ c ∈ chars, isLineBreak c = false

/- A separator starts or goes on with the character, or a
  line ends in it. -/
def isSign
    (c : Char) : Bool :=
  c == '#' || c == '|' || isLineBreak c

/- The characters hold nothing that a line needs. -/
def IsBare
    (chars : List Char) : Prop :=
  ∀ c ∈ chars, isSign c = false

instance
    (chars : List Char) :
    Decidable (IsBare chars) :=
  List.decidableBAll (isSign · = false) chars

/- A clear text is whole unless it has a line break. -/
theorem isWhole_iff_of_isClear
    {chars : List Char}
    (hClear : IsClear chars) :
    IsWhole chars ↔ HasNoBreak chars := by
  unfold IsWhole Fits HasNoBreak
  rw [hClear.1, hClear.2]
  simp

/- What a bare character is not. -/
theorem ne_of_isSign
    {c : Char}
    (hBare : isSign c = false) :
    c ≠ '#' ∧ c ≠ '|' ∧ isLineBreak c = false := by
  simpa [isSign, and_assoc] using hBare

/- The first and the other characters of a bare text. -/
theorem isBare_cons
    {c : Char}
    {chars : List Char} :
    IsBare (c :: chars) ↔ isSign c = false ∧ IsBare chars :=
  List.forall_mem_cons

/- Bare texts one after the other are bare. -/
theorem isBare_append
    {front back : List Char} :
    IsBare (front ++ back) ↔ IsBare front ∧ IsBare back :=
  List.forall_mem_append

end Line

end Courier

------------------------------------------------------------
-- Bare Text in Front
------------------------------------------------------------

namespace Courier

namespace Line

/- A character that is no sign begins no separator. -/
theorem hasSeparator_cons
    {c : Char}
    {chars : List Char}
    (hStart : StartsClear (c :: chars)) :
    hasSeparator (c :: chars) = hasSeparator chars := by
  rw [hasSeparator]
  intro rest hC hChars
  exact hStart rest (by rw [hC, hChars])

/- Bare text in front adds no separator. -/
theorem hasSeparator_bare_append
    {front chars : List Char}
    (hBare : IsBare front) :
    hasSeparator (front ++ chars) = hasSeparator chars := by
  induction front with
  | nil => rfl
  | cons c front ih =>
      rcases isBare_cons.mp hBare with ⟨hSign, hRest⟩
      have hStart : StartsClear (c :: (front ++ chars)) := by
        intro rest hEq
        exact (ne_of_isSign hSign).1 (List.cons.inj hEq).1
      rw [List.cons_append, hasSeparator_cons hStart,
        ih hRest]

/- Bare text in front does not change the end. -/
theorem endsInHalf_bare_append
    {front chars : List Char}
    (hBare : IsBare front) :
    endsInHalf (front ++ chars) = endsInHalf chars := by
  induction front with
  | nil => rfl
  | cons c front ih =>
      rcases isBare_cons.mp hBare with ⟨hSign, hRest⟩
      rw [← ih hRest, Bool.eq_iff_iff]
      simp only [endsInHalf, List.isSuffixOf_iff_suffix,
        List.cons_append]
      rw [List.suffix_cons_iff]
      constructor
      · rintro (hEq | hEnd)
        · have hHead := (List.cons.inj hEq).1
          exact absurd hHead.symm (ne_of_isSign hSign).1
        · exact hEnd
      · exact Or.inr

/- Bare text in front makes no difference. -/
theorem isWhole_bare_append
    {front chars : List Char}
    (hBare : IsBare front) :
    IsWhole (front ++ chars) ↔ IsWhole chars := by
  have hNoBreak : ∀ c ∈ front, isLineBreak c = false :=
    fun c hMem => (ne_of_isSign (hBare c hMem)).2.2
  unfold IsWhole Fits
  rw [hasSeparator_bare_append hBare,
    endsInHalf_bare_append hBare, List.forall_mem_append,
    and_iff_right hNoBreak]

/- A bare text is whole. -/
theorem isWhole_of_isBare
    {chars : List Char}
    (hBare : IsBare chars) :
    IsWhole chars := by
  rw [← List.append_nil chars, isWhole_bare_append hBare]
  exact ⟨⟨rfl, by simp⟩, rfl⟩

end Line

end Courier

------------------------------------------------------------
-- Bare Text Behind
------------------------------------------------------------

namespace Courier

namespace Line

/- Bare text behind completes no separator. -/
theorem hasSeparator_append_bare
    {chars back : List Char}
    (hSep : hasSeparator chars = false)
    (hBare : IsBare back) :
    hasSeparator (chars ++ back) = false := by
  induction chars with
  | nil =>
      have hNone : hasSeparator (back ++ []) = false :=
        hasSeparator_bare_append hBare
      rw [List.append_nil] at hNone
      exact hNone
  | cons c chars ih =>
      have hStart : StartsClear (c :: (chars ++ back)) := by
        intro rest hEq
        match chars with
        | [] =>
            cases hEq
            have hSign := hBare '|' List.mem_cons_self
            exact absurd hSign (by decide)
        | [d] =>
            cases hEq
            have hSign := hBare '#' List.mem_cons_self
            exact absurd hSign (by decide)
        | d :: e :: others =>
            simp only [List.cons_append,
              List.cons.injEq] at hEq
            rcases hEq with ⟨rfl, rfl, rfl, -⟩
            simp [hasSeparator] at hSep
      rw [List.cons_append, hasSeparator_cons hStart]
      exact ih (hasSeparator_tail hSep)

/- Bare text behind ends in no part of a separator. -/
theorem endsInHalf_append_bare
    (chars : List Char)
    {back : List Char}
    (hBare : IsBare back)
    (hSome : back ≠ []) :
    endsInHalf (chars ++ back) = false := by
  rw [Bool.eq_false_iff]
  intro hEnd
  rw [endsInHalf, List.isSuffixOf_iff_suffix] at hEnd
  have hLast := hEnd.getLast (by simp)
  rw [List.getLast_append_of_ne_nil _ hSome] at hLast
  have hSign := hBare _ (List.getLast_mem hSome)
  rw [← hLast] at hSign
  exact absurd hSign (by decide)

/- Between bare texts a text has to be without breaks. -/
theorem isWhole_append_bare
    {chars back : List Char}
    (hSep : hasSeparator chars = false)
    (hBare : IsBare back)
    (hSome : back ≠ []) :
    IsWhole (chars ++ back) ↔ HasNoBreak chars := by
  have hNoBreak : ∀ c ∈ back, isLineBreak c = false :=
    fun c hMem => (ne_of_isSign (hBare c hMem)).2.2
  unfold IsWhole Fits HasNoBreak
  rw [hasSeparator_append_bare hSep hBare,
    endsInHalf_append_bare chars hBare hSome,
    List.forall_mem_append]
  simp only [true_and, and_true]
  exact ⟨fun hAll => hAll.1, fun hAll => ⟨hAll, hNoBreak⟩⟩

end Line

end Courier

------------------------------------------------------------
-- Numbers
------------------------------------------------------------

namespace Courier

namespace Line

/- A number is bare. -/
theorem isBare_toString
    (n : Nat) :
    IsBare (toString n).toList := by
  intro c hMem
  have hDigit := Numeral.isDigit_of_mem_toString hMem
  cases hSign : isSign c with
  | false => rfl
  | true =>
      simp only [isSign, isLineBreak, Bool.or_eq_true,
        beq_iff_eq] at hSign
      rcases hSign with (rfl | rfl) | rfl | rfl
      all_goals exact absurd hDigit (by decide)

/- Hexadecimal digits are bare. -/
theorem isBare_toDigits
    (n : Nat) :
    IsBare (Nat.toDigits 16 n) := by
  have hDigit : ∀ d, d < 16 → isSign d.digitChar = false := by
    decide
  induction n using Nat.strongRecOn with
  | _ n ih =>
      rw [Nat.toDigits_eq_if (by decide)]
      split
      · next hSmall =>
          intro c hMem
          rw [List.mem_singleton] at hMem
          rw [hMem]
          exact hDigit n hSmall
      · next hLarge =>
          intro c hMem
          rcases List.mem_append.mp hMem with hMem | hMem
          · exact ih (n / 16) (by omega) c hMem
          · rw [List.mem_singleton] at hMem
            rw [hMem]
            exact hDigit (n % 16) (Nat.mod_lt n (by decide))

end Line

end Courier

------------------------------------------------------------
-- Quoted Text
------------------------------------------------------------

namespace Courier

namespace Line

/- A character is shown as itself or by bare characters. -/
theorem escape_cases
    (c : Char) :
    (Quoted.escape c = [c] ∧ isLineBreak c = false) ∨
      (IsBare (Quoted.escape c) ∧ Quoted.escape c ≠ []) := by
  unfold Quoted.escape
  split
  · exact Or.inr (by decide)
  split
  · exact Or.inr (by decide)
  split
  · exact Or.inr (by decide)
  split
  · exact Or.inr (by decide)
  split
  · exact Or.inr (by decide)
  split
  · exact Or.inr (by decide)
  split
  · next _ _ hLine hReturn _ _ _ =>
      apply Or.inl
      simp [isLineBreak, hLine, hReturn]
  · have hOpen : IsBare ['\\', 'u', '\x7b'] := by decide
    have hClose : IsBare ['\x7d'] := by decide
    apply Or.inr
    refine ⟨?_, by simp⟩
    intro d hMem
    rcases List.mem_append.mp hMem with hMem | hMem
    · rcases List.mem_append.mp hMem with hMem | hMem
      · exact hOpen d hMem
      · exact isBare_toDigits c.toNat d hMem
    · exact hClose d hMem

/- A sign in quoted text was in the text itself. -/
theorem flatMap_escape_eq_cons
    {text more : List Char}
    {d : Char}
    (hSign : isSign d = true)
    (hEq : text.flatMap Quoted.escape = d :: more) :
    ∃ rest,
      text = d :: rest ∧
        rest.flatMap Quoted.escape = more := by
  cases text with
  | nil => cases hEq
  | cons c rest =>
      rw [List.flatMap_cons] at hEq
      rcases escape_cases c with
        ⟨hSelf, -⟩ | ⟨hBare, hSome⟩
      · rw [hSelf, List.singleton_append,
          List.cons.injEq] at hEq
        exact ⟨rest, by rw [hEq.1], hEq.2⟩
      · cases hForm : Quoted.escape c with
        | nil => exact absurd hForm hSome
        | cons e others =>
            rw [hForm] at hEq hBare
            have hHead := (List.cons.inj hEq).1
            have hNot := hBare e List.mem_cons_self
            rw [hHead, hSign] at hNot
            cases hNot

/- Quoting adds no separator. -/
theorem hasSeparator_flatMap_escape
    {text : List Char}
    (hSep : hasSeparator text = false) :
    hasSeparator (text.flatMap Quoted.escape) = false := by
  induction text with
  | nil => rfl
  | cons c rest ih =>
      have hRest := ih (hasSeparator_tail hSep)
      rw [List.flatMap_cons]
      rcases escape_cases c with ⟨hSelf, -⟩ | ⟨hBare, -⟩
      · have hStart :
            StartsClear
              (c :: rest.flatMap Quoted.escape) := by
          intro after hEq
          rw [List.cons.injEq] at hEq
          rcases hEq with ⟨rfl, hTail⟩
          rcases
            flatMap_escape_eq_cons (by decide) hTail with
            ⟨rest', rfl, hTail'⟩
          rcases
            flatMap_escape_eq_cons (by decide) hTail' with
            ⟨rest'', rfl, -⟩
          simp [hasSeparator] at hSep
        rw [hSelf, List.singleton_append,
          hasSeparator_cons hStart]
        exact hRest
      · rw [hasSeparator_bare_append hBare]
        exact hRest

/- Quoting leaves no line break. -/
theorem hasNoBreak_flatMap_escape
    (text : List Char) :
    HasNoBreak (text.flatMap Quoted.escape) := by
  intro d hMem
  rcases List.mem_flatMap.mp hMem with ⟨c, -, hForm⟩
  rcases escape_cases c with ⟨hSelf, hBreak⟩ | ⟨hBare, -⟩
  · rw [hSelf, List.mem_singleton] at hForm
    rw [hForm]
    exact hBreak
  · exact (ne_of_isSign (hBare d hForm)).2.2

/- A text without a separator is whole in quotation marks. -/
theorem isWhole_quote
    {text : String}
    (hSep : hasSeparator text.toList = false) :
    IsWhole (Quoted.quote text).toList := by
  have hMark : IsBare ['"'] := by decide
  have hForm :
      (Quoted.quote text).toList =
        ['"'] ++
          (text.toList.flatMap Quoted.escape ++ ['"']) := by
    simp [Quoted.quote]
  rw [hForm, isWhole_bare_append hMark,
    isWhole_append_bare (hasSeparator_flatMap_escape hSep)
      hMark (by simp)]
  exact hasNoBreak_flatMap_escape text.toList

end Line

end Courier
