import Courier.Text.Blank
import Mathlib.Data.List.TakeWhile

/-
  What is left of a text without the blanks around it.

  The core of a text has blanks before and after it, and
  neither begins nor ends with one.  Each text has one core,
  and trimming finds it.

  Key definitions include:
    * `Blank.IsCore`

  Key theorems include:
    * `Blank.isCore_trim`
    * `Blank.trim_of_isCore`
    * `Blank.trim_eq_iff`
    * `Blank.trim_surrounded`
-/

------------------------------------------------------------
-- Cores
------------------------------------------------------------

namespace Courier

namespace Blank

/-
  The characters are the core with blanks around it, and all
  blanks at the ends are outside of the core.
-/
structure IsCore
    (core chars : List Char) : Prop where
  around :
    ∃ front back,
      chars = front ++ core ++ back ∧
        (∀ c ∈ front, isBlank c = true) ∧
        ∀ c ∈ back, isBlank c = true
  first : ∀ c ∈ core.head?, isBlank c = false
  last : ∀ c ∈ core.getLast?, isBlank c = false

/- Characters that do not begin with a blank are kept. -/
theorem dropWhile_of_head?
    {chars : List Char}
    (hFirst : ∀ c ∈ chars.head?, isBlank c = false) :
    chars.dropWhile isBlank = chars := by
  cases chars with
  | nil => rfl
  | cons c rest =>
      apply List.dropWhile_cons_of_neg
      rw [hFirst c rfl]
      exact Bool.false_ne_true

/- What is kept does not begin with a blank. -/
theorem isBlank_of_mem_head?_dropWhile
    {chars : List Char}
    {c : Char}
    (hFirst : c ∈ (chars.dropWhile isBlank).head?) :
    isBlank c = false := by
  have hNot := List.head?_dropWhile_not isBlank chars
  rw [Option.mem_def.mp hFirst] at hNot
  exact hNot

/- The blanks that are dropped at the end come last. -/
theorem exists_trimEnd_append
    (chars : List Char) :
    ∃ back,
      chars = trimEnd chars ++ back ∧
        ∀ c ∈ back, isBlank c = true := by
  refine ⟨(chars.reverse.takeWhile isBlank).reverse, ?_, ?_⟩
  · rw [trimEnd, ← List.reverse_append,
      List.takeWhile_append_dropWhile, List.reverse_reverse]
  · intro c hMem
    exact List.mem_takeWhile_imp (List.mem_reverse.mp hMem)

/- Trimming leaves a core. -/
theorem isCore_trim
    (chars : List Char) :
    IsCore (trim chars) chars := by
  rcases exists_trimEnd_append (chars.dropWhile isBlank) with
    ⟨back, hKept, hBack⟩
  constructor
  · refine ⟨chars.takeWhile isBlank, back, ?_, ?_, hBack⟩
    · rw [List.append_assoc, trim, ← hKept,
        List.takeWhile_append_dropWhile]
    · intro c hMem
      exact List.mem_takeWhile_imp hMem
  · intro c hFirst
    have hHead :
        (trimEnd (chars.dropWhile isBlank)).head? = some c :=
      hFirst
    have hHere : c ∈ (chars.dropWhile isBlank).head? := by
      rw [hKept, List.head?_append, hHead]
      rfl
    exact isBlank_of_mem_head?_dropWhile hHere
  · intro c hLast
    rw [trim, trimEnd, List.getLast?_reverse] at hLast
    exact isBlank_of_mem_head?_dropWhile hLast

/- Trimming leaves nothing else. -/
theorem trim_of_isCore
    {core chars : List Char}
    (hCore : IsCore core chars) :
    trim chars = core := by
  rcases hCore.around with
    ⟨front, back, rfl, hFront, hBack⟩
  have hReverse : ∀ c ∈ back.reverse, isBlank c = true :=
    fun c hMem => hBack c (List.mem_reverse.mp hMem)
  have hFirst :
      (front ++ core ++ back).dropWhile isBlank =
        (core ++ back).dropWhile isBlank := by
    rw [List.append_assoc,
      List.dropWhile_append_of_pos hFront]
  have hLast (chars : List Char) :
      trimEnd (chars ++ back) = trimEnd chars := by
    rw [trimEnd, List.reverse_append,
      List.dropWhile_append_of_pos hReverse, trimEnd]
  have hWhole : trimEnd core = core := by
    rw [trimEnd, dropWhile_of_head?, List.reverse_reverse]
    rw [List.head?_reverse]
    exact hCore.last
  rw [trim, hFirst]
  cases hSome : core with
  | nil =>
      rw [List.nil_append, List.dropWhile_eq_nil_iff.mpr hBack]
      rfl
  | cons c rest =>
      have hKept :
          (core ++ back).dropWhile isBlank = core ++ back := by
        apply dropWhile_of_head?
        intro d hHead
        apply hCore.first
        rw [hSome] at hHead ⊢
        exact hHead
      rw [← hSome, hKept, hLast, hWhole]

/- Trimming finds the core of a text. -/
theorem trim_eq_iff
    {core chars : List Char} :
    trim chars = core ↔ IsCore core chars := by
  constructor
  · rintro rfl
    exact isCore_trim chars
  · exact trim_of_isCore

/- Only blanks are dropped, and all those at the ends. -/
theorem trim_surrounded
    {front chars back : List Char}
    (hFront : ∀ c ∈ front, isBlank c = true)
    (hChars : ∀ c ∈ chars, isBlank c = false)
    (hBack : ∀ c ∈ back, isBlank c = true) :
    trim (front ++ chars ++ back) = chars :=
  trim_of_isCore
    { around := ⟨front, back, rfl, hFront, hBack⟩
      first := fun c hHead =>
        hChars c (List.mem_of_head? hHead)
      last := fun c hLast =>
        hChars c (List.mem_of_getLast? hLast) }

end Blank

end Courier
