/-
  Cutting lists of characters at a chosen character.

  Key definitions include:
    * `Split.pieces`
    * `Split.cut?`

  Key theorems include:
    * `Split.pieces_nil`
    * `Split.pieces_cons`
    * `Split.pieces_of_not_mem`
    * `Split.pieces_divider`
    * `Split.cut?_eq_some`
    * `Split.cut?_append`
    * `Split.cut?_of_not_mem`
-/

------------------------------------------------------------
-- Pieces
------------------------------------------------------------

namespace Courier

namespace Split

/-
  Put one character in front of a list of pieces: the
  divider opens a new piece, any other character extends
  the first one.
-/
def extend
    (divider c : Char)
    (rest : List (List Char)) : List (List Char) :=
  if c = divider then
    [] :: rest
  else
    match rest with
    | [] => [[c]]
    | piece :: others => (c :: piece) :: others

/- The pieces between the dividers, at least one. -/
def pieces
    (divider : Char)
    (chars : List Char) : List (List Char) :=
  chars.foldr (extend divider) [[]]

/- No characters are one empty piece. -/
theorem pieces_nil
    (divider : Char) :
    pieces divider [] = [[]] :=
  rfl

/- The pieces of a longer list. -/
theorem pieces_cons
    (divider c : Char)
    (chars : List Char) :
    pieces divider (c :: chars) =
      extend divider c (pieces divider chars) :=
  rfl

variable {divider : Char}
variable {chars : List Char}

/- Without a divider there is one piece. -/
theorem pieces_of_not_mem
    (hNot : divider ∉ chars) :
    pieces divider chars = [chars] := by
  induction chars with
  | nil => rfl
  | cons c chars ih =>
      rw [List.mem_cons, not_or] at hNot
      rw [pieces_cons, ih hNot.2, extend,
        if_neg (Ne.symm hNot.1)]

/- There is at least one piece. -/
theorem pieces_ne_nil
    (chars : List Char) :
    pieces divider chars ≠ [] := by
  cases chars with
  | nil => exact List.cons_ne_nil _ _
  | cons c chars =>
      rw [pieces_cons]
      unfold extend
      split
      · exact List.cons_ne_nil _ _
      · split <;> exact List.cons_ne_nil _ _

/- A divider parts the pieces before it from those after it. -/
theorem pieces_divider
    (chars rest : List Char) :
    pieces divider (chars ++ divider :: rest) =
      pieces divider chars ++ pieces divider rest := by
  induction chars with
  | nil =>
      rw [List.nil_append, pieces_cons, pieces_nil]
      unfold extend
      rw [if_pos rfl]
      rfl
  | cons c chars ih =>
      rw [List.cons_append, pieces_cons, pieces_cons, ih]
      unfold extend
      split
      · rfl
      · cases hPieces : pieces divider chars with
        | nil => exact absurd hPieces (pieces_ne_nil chars)
        | cons piece others => rfl

/- The first divider ends the first piece. -/
theorem pieces_append
    (hNot : divider ∉ chars)
    (rest : List Char) :
    pieces divider (chars ++ divider :: rest) =
      chars :: pieces divider rest := by
  rw [pieces_divider, pieces_of_not_mem hNot]
  rfl

end Split

end Courier

------------------------------------------------------------
-- The First Cut
------------------------------------------------------------

namespace Courier

namespace Split

/- What stands before and after the first divider. -/
def cut?
    (divider : Char)
    (chars : List Char) :
    Option (List Char × List Char) :=
  match chars.dropWhile (· != divider) with
  | [] => none
  | _ :: after =>
      some (chars.takeWhile (· != divider), after)

/- The two sides of a cut and the divider make the whole. -/
theorem cut?_eq_some
    {divider : Char}
    {chars before after : List Char}
    (hCut : cut? divider chars = some (before, after)) :
    chars = before ++ divider :: after := by
  unfold cut? at hCut
  split at hCut
  · exact absurd hCut (by simp)
  · next c rest hDrop =>
      have hHead : c = divider := by
        have hNot := List.head?_dropWhile_not
          (fun x : Char => x != divider) chars
        rw [hDrop] at hNot
        simpa using hNot
      subst hHead
      obtain ⟨rfl, rfl⟩ :
          chars.takeWhile (· != c) = before ∧
            rest = after := by
        simpa using hCut
      rw [← hDrop]
      exact List.takeWhile_append_dropWhile.symm

/- All characters without a divider are passed over. -/
theorem bne_of_not_mem
    {divider : Char}
    {chars : List Char}
    (hNot : divider ∉ chars) :
    ∀ c ∈ chars, (c != divider) = true := by
  intro c hMem
  rw [bne_iff_ne]
  rintro rfl
  exact hNot hMem

/- The first divider is where the cut is made. -/
theorem cut?_append
    {divider : Char}
    {before : List Char}
    (hNot : divider ∉ before)
    (after : List Char) :
    cut? divider (before ++ divider :: after) =
      some (before, after) := by
  unfold cut?
  rw [List.dropWhile_append_of_pos (bne_of_not_mem hNot),
    List.takeWhile_append_of_pos (bne_of_not_mem hNot)]
  simp

/- Without a divider there is no cut. -/
theorem cut?_of_not_mem
    {divider : Char}
    {chars : List Char}
    (hNot : divider ∉ chars) :
    cut? divider chars = none := by
  have hNone : chars.dropWhile (· != divider) = [] := by
    rw [← List.append_nil chars,
      List.dropWhile_append_of_pos (bne_of_not_mem hNot)]
    rfl
  rw [cut?, hNone]

end Split

end Courier
