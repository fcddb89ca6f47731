import Courier.Storage.Shelf

/-
  Where the content of a file comes from.

  What a key has after some operations was stored last, or
  it was there before and none of them touched it.  This is
  told of anything that stands for operations, such as the
  steps of a schedule or the calls of a client.

  Key definitions include:
    * `Shelf.Operation.Spares`

  Key theorems include:
    * `Shelf.after_eq_some_iff`
    * `Shelf.run_eq_some_iff`
-/

------------------------------------------------------------
-- Last Stores
------------------------------------------------------------

namespace Courier

namespace Shelf

/- The operation does nothing to the file of a key. -/
def Operation.Spares
    (o : Operation)
    (key : FileKey) : Prop :=
  o.key = key → o = .find key

variable {key : FileKey}
variable {content : Bytes}

/- What one operation makes of the file of a key. -/
theorem after_eq_some_iff
    (m : Shelf)
    (o : Operation) :
    m.after o key = some content ↔
      o = .store key content ∨
        (m key = some content ∧ o.Spares key) := by
  by_cases hSame : key = o.key
  · cases o with
    | store other stored =>
        cases hSame
        simp [after, put_same, Operation.key,
          Operation.Spares]
    | find other =>
        cases hSame
        simp [after, Operation.key, Operation.Spares]
    | delete other =>
        cases hSame
        simp [after, erase_same, Operation.key,
          Operation.Spares]
  · rw [m.after_other o hSame]
    have hSpares : o.Spares key := fun hKey =>
      absurd hKey.symm hSame
    have hNot : o ≠ .store key content := by
      rintro rfl
      exact hSame rfl
    simp [hNot, hSpares]

variable {α : Type}

/- Some element is followed by the right ones, also here. -/
theorem exists_split_cons_iff
    {p : α → Prop}
    {q : List α → Prop}
    (x : α)
    (xs : List α) :
    (∃ before y after,
        x :: xs = before ++ y :: after ∧ p y ∧ q after) ↔
      (p x ∧ q xs) ∨
        ∃ before y after,
          xs = before ++ y :: after ∧ p y ∧ q after := by
  constructor
  · rintro ⟨before, y, after, hSplit, hHere, hAfter⟩
    cases before with
    | nil =>
        rcases List.cons.inj hSplit with ⟨rfl, rfl⟩
        exact Or.inl ⟨hHere, hAfter⟩
    | cons first before =>
        exact
          Or.inr
            ⟨before, y, after, (List.cons.inj hSplit).2, hHere,
              hAfter⟩
  · rintro (⟨hHere, hAfter⟩ |
      ⟨before, y, after, rfl, hHere, hAfter⟩)
    · exact ⟨[], x, xs, rfl, hHere, hAfter⟩
    · exact ⟨x :: before, y, after, rfl, hHere, hAfter⟩

/-
  A content that is there was there at first and nothing
  touched it, or it was stored and nothing touched it later.
-/
theorem run_eq_some_iff
    (f : α → Option Operation)
    (m : Shelf)
    (xs : List α) :
    m.run (xs.filterMap f) key = some content ↔
      (m key = some content ∧
          ∀ x ∈ xs, ∀ o ∈ f x, o.Spares key) ∨
        ∃ before x after,
          xs = before ++ x :: after ∧
            f x = some (.store key content) ∧
            ∀ later ∈ after, ∀ o ∈ f later, o.Spares key := by
  induction xs generalizing m with
  | nil => simp [run]
  | cons x xs ih =>
      rw [exists_split_cons_iff, List.forall_mem_cons]
      cases hFirst : f x with
      | none =>
          rw [List.filterMap_cons_none hFirst, ih]
          simp
      | some o =>
          have hRun :
              m.run (o :: xs.filterMap f) =
                (m.after o).run (xs.filterMap f) :=
            rfl
          rw [List.filterMap_cons_some hFirst, hRun, ih,
            after_eq_some_iff]
          simp only [Option.mem_def, Option.some.injEq,
            forall_eq']
          -- The first operation stores, or it spares the key.
          constructor
          · rintro (⟨hStore | ⟨hHere, hSpares⟩, hRest⟩ | hLater)
            · exact Or.inr (Or.inl ⟨hStore, hRest⟩)
            · exact Or.inl ⟨hHere, hSpares, hRest⟩
            · exact Or.inr (Or.inr hLater)
          · rintro (⟨hHere, hSpares, hRest⟩ |
              ⟨hStore, hRest⟩ | hLater)
            · exact Or.inl ⟨Or.inr ⟨hHere, hSpares⟩, hRest⟩
            · exact Or.inl ⟨Or.inl hStore, hRest⟩
            · exact Or.inr hLater

end Shelf

end Courier
