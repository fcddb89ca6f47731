import Courier.Text.Numeral

/-
  Numbers that are written in decimal and read back.

  Key theorems include:
    * `Numeral.isDigit_of_mem_toString`
    * `Numeral.natural?_toString`
    * `Numeral.natural64?_toString`
-/

------------------------------------------------------------
-- Written Digits
------------------------------------------------------------

namespace Courier

namespace Numeral

/- A number is written in digits only. -/
theorem isDigit_of_mem_toString
    {n : Nat}
    {c : Char}
    (hMem : c ∈ (toString n).toList) :
    isDigit c = true := by
  rw [Nat.toString_eq_repr, Nat.toList_repr] at hMem
  have hDigit : c.isDigit = true :=
    Nat.isDigit_of_mem_toDigits (by decide) (by decide) hMem
  simp only [Char.isDigit, ge_iff_le, Bool.and_eq_true,
    decide_eq_true_eq] at hDigit
  simp only [isDigit, Bool.and_eq_true, decide_eq_true_eq]
  exact hDigit

/- A number is written in one digit at least. -/
theorem toString_ne_nil
    (n : Nat) :
    (toString n).toList ≠ [] := by
  rw [Nat.toString_eq_repr, Nat.toList_repr]
  exact Nat.toDigits_ne_nil

/- The digits of a number have its value. -/
theorem value_toString
    (n : Nat) :
    value (toString n).toList = n := by
  rw [Nat.toString_eq_repr, Nat.toList_repr, value]
  have hOf := Nat.ofDigitChars_ten_toDigits (n := n)
  rw [Nat.ofDigitChars_eq_foldl] at hOf
  simpa [Nat.mul_comm] using hOf

/- The digits of a number spell it. -/
theorem digits?_toString
    (n : Nat) :
    digits? (toString n).toList = some n := by
  have hAll : (toString n).toList.all isDigit = true := by
    rw [List.all_eq_true]
    exact fun c hMem => isDigit_of_mem_toString hMem
  rw [digits?, hAll, value_toString]
  simp

end Numeral

end Courier

------------------------------------------------------------
-- Reading Back
------------------------------------------------------------

namespace Courier

namespace Numeral

/- A number below the bound is read back. -/
theorem natural?_toString
    {bound n : Nat}
    (hBound : n < bound) :
    natural? bound (toString n) = some n := by
  have hDigits := digits?_toString n
  unfold natural?
  split
  · next rest hPlus =>
      have hSign := isDigit_of_mem_toString
        (n := n) (c := '+') (by rw [hPlus]; simp)
      exact absurd hSign (by decide)
  · simp only [hDigits]
    rw [if_pos hBound]

/- A number of 64 bits is read back. -/
theorem natural64?_toString
    (n : UInt64) :
    natural64? (toString n.toNat) = some n.toNat :=
  natural?_toString n.toNat_lt

/- What is read is below the bound. -/
theorem lt_of_natural?
    {bound n : Nat}
    {text : String}
    (hRead : natural? bound text = some n) :
    n < bound := by
  unfold natural? at hRead
  simp only at hRead
  split at hRead
  · split at hRead
    · next hLt =>
        cases hRead
        exact hLt
    · cases hRead
  · cases hRead

end Numeral

end Courier
