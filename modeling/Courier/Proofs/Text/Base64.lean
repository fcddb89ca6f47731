import Courier.Proofs.Text.Utf8
import Courier.Text.Base64

/-
  What is written in Base64 is read back, and its symbols
  are letters, digits and a few other signs.

  Writing goes by groups of three octets and reading by
  groups of four symbols.  Only the last group can be short,
  so the proof follows the groups from the front.

  Key theorems include:
    * `Base64.decode_encodeBytes`
    * `Base64.decode_encode`
    * `Base64.isSymbol_of_mem_encode`
-/

------------------------------------------------------------
-- Symbols
------------------------------------------------------------

namespace Courier

namespace Base64

/- The value of a symbol is what the symbol was made of. -/
theorem value?_symbol
    {n : Nat}
    (hLt : n < 64) :
    value? (symbol n) = some n := by
  have hAll :
      ∀ m : Fin 64, value? (symbol m) = some m.val := by
    decide
  exact hAll ⟨n, hLt⟩

/- No symbol is the padding octet. -/
theorem symbol_ne_padding
    {n : Nat}
    (hLt : n < 64) :
    symbol n ≠ padding := by
  have hAll : ∀ m : Fin 64, symbol m ≠ padding := by
    decide
  exact hAll ⟨n, hLt⟩

/- An octet that written text is made of. -/
def isSymbol
    (b : UInt8) : Bool :=
  (value? b).isSome || b == padding

/- Symbols are symbols. -/
theorem isSymbol_symbol
    {n : Nat}
    (hLt : n < 64) :
    isSymbol (symbol n) = true := by
  simp [isSymbol, value?_symbol hLt]

end Base64

end Courier

------------------------------------------------------------
-- Groups
------------------------------------------------------------

namespace Courier

namespace Base64

/- The four symbols of three octets. -/
def group
    (a b c : UInt8) : Bytes :=
  [symbol (a.toNat / 4),
    symbol (a.toNat % 4 * 16 + b.toNat / 16),
    symbol (b.toNat % 16 * 4 + c.toNat / 64),
    symbol (c.toNat % 64)]

/- The symbols so far stand in front. -/
private theorem encodeFrom_eq
    (symbols : Bytes) :
    ∀ bytes : Bytes,
      encodeFrom symbols bytes =
        symbols.reverse ++ encodeFrom [] bytes
  | [] => by simp [encodeFrom]
  | [a] => by simp [encodeFrom]
  | [a, b] => by simp [encodeFrom]
  | a :: b :: c :: rest => by
      rw [encodeFrom, encodeFrom_eq _ rest, encodeFrom,
        encodeFrom_eq [_, _, _, _] rest]
      simp

/- Three octets in front become four symbols in front. -/
theorem encodeBytes_cons
    (a b c : UInt8)
    (rest : Bytes) :
    encodeBytes (a :: b :: c :: rest) =
      group a b c ++ encodeBytes rest := by
  unfold encodeBytes
  rw [encodeFrom, encodeFrom_eq]
  rfl

/- Only nothing becomes nothing. -/
theorem encodeBytes_ne_nil
    {bytes : Bytes}
    (hBytes : bytes ≠ []) :
    encodeBytes bytes ≠ [] := by
  match bytes with
  | [] => exact absurd rfl hBytes
  | [a] => simp [encodeBytes, encodeFrom]
  | [a, b] => simp [encodeBytes, encodeFrom]
  | a :: b :: c :: rest =>
      rw [encodeBytes_cons]
      simp [group]

/- The symbols come in groups of four. -/
theorem length_encodeBytes_mod :
    ∀ bytes : Bytes, (encodeBytes bytes).length % 4 = 0
  | [] => rfl
  | [a] => by simp [encodeBytes, encodeFrom]
  | [a, b] => by simp [encodeBytes, encodeFrom]
  | a :: b :: c :: rest => by
      have hRest := length_encodeBytes_mod rest
      rw [encodeBytes_cons, List.length_append]
      change (4 + (encodeBytes rest).length) % 4 = 0
      omega

/- All that is written is symbols and padding. -/
theorem isSymbol_of_mem_encodeBytes :
    ∀ (bytes : Bytes) (s : UInt8),
      s ∈ encodeBytes bytes → isSymbol s = true
  | [], s, hMem => by
      simp [encodeBytes, encodeFrom] at hMem
  | [a], s, hMem => by
      have hA := a.toNat_lt
      simp only [encodeBytes, encodeFrom, List.reverse_cons,
        List.reverse_nil, List.nil_append,
        List.cons_append, List.mem_cons, List.not_mem_nil,
        or_false] at hMem
      rcases hMem with rfl | rfl | rfl | rfl
      · exact isSymbol_symbol (by omega)
      · exact isSymbol_symbol (by omega)
      · rfl
      · rfl
  | [a, b], s, hMem => by
      have hA := a.toNat_lt
      have hB := b.toNat_lt
      simp only [encodeBytes, encodeFrom, List.reverse_cons,
        List.reverse_nil, List.nil_append,
        List.cons_append, List.mem_cons, List.not_mem_nil,
        or_false] at hMem
      rcases hMem with rfl | rfl | rfl | rfl
      · exact isSymbol_symbol (by omega)
      · exact isSymbol_symbol (by omega)
      · exact isSymbol_symbol (by omega)
      · rfl
  | a :: b :: c :: rest, s, hMem => by
      have hA := a.toNat_lt
      have hB := b.toNat_lt
      have hC := c.toNat_lt
      rw [encodeBytes_cons, List.mem_append] at hMem
      rcases hMem with hGroup | hRest
      · simp only [group, List.mem_cons, List.not_mem_nil,
          or_false] at hGroup
        rcases hGroup with rfl | rfl | rfl | rfl
        · exact isSymbol_symbol (by omega)
        · exact isSymbol_symbol (by omega)
        · exact isSymbol_symbol (by omega)
        · exact isSymbol_symbol (by omega)
      · exact isSymbol_of_mem_encodeBytes rest s hRest

end Base64

end Courier

------------------------------------------------------------
-- Reading Groups
------------------------------------------------------------

namespace Courier

namespace Base64

/- The symbols of values have these values. -/
private theorem values_symbols
    (offset : Nat)
    (ns : List Nat)
    (hLt : ∀ n ∈ ns, n < 64) :
    values offset (ns.map symbol) = .ok ns := by
  induction ns generalizing offset with
  | nil => rfl
  | cons n ns ih =>
      have hFirst := value?_symbol (hLt n List.mem_cons_self)
      have hRest :=
        ih (offset + 1) fun m hMem =>
          hLt m (List.mem_cons_of_mem n hMem)
      simp [values, hFirst, hRest]

/- An octet from its upper six bits and the two after it. -/
private theorem first_octet
    (a b : UInt8) :
    UInt8.ofNat
        (a.toNat / 4 * 4 +
          (a.toNat % 4 * 16 + b.toNat / 16) / 16) = a := by
  have hA := a.toNat_lt
  have hB := b.toNat_lt
  have hEq :
      a.toNat / 4 * 4 +
        (a.toNat % 4 * 16 + b.toNat / 16) / 16 = a.toNat := by
    omega
  rw [hEq, UInt8.ofNat_toNat]

/- An octet from its upper four bits and the four after it. -/
private theorem second_octet
    (a b c : UInt8) :
    UInt8.ofNat
        ((a.toNat % 4 * 16 + b.toNat / 16) * 16 +
          (b.toNat % 16 * 4 + c.toNat / 64) / 4) = b := by
  have hA := a.toNat_lt
  have hB := b.toNat_lt
  have hC := c.toNat_lt
  apply UInt8.toNat.inj
  rw [UInt8.toNat_ofNat']
  omega

/- An octet from its upper two bits and the six after it. -/
private theorem third_octet
    (b c : UInt8) :
    UInt8.ofNat
        ((b.toNat % 16 * 4 + c.toNat / 64) * 64 +
          c.toNat % 64) = c := by
  have hC := c.toNat_lt
  apply UInt8.toNat.inj
  rw [UInt8.toNat_ofNat']
  omega

end Base64

end Courier

------------------------------------------------------------
-- The Last Group
------------------------------------------------------------

namespace Courier

namespace Base64

/- A last group of two symbols, with no stray bits. -/
private theorem decodeLast_two
    (octets : Bytes)
    (offset : Nat)
    {p q : Nat}
    (hP : p < 64)
    (hQ : q < 64)
    (hStray : q % 16 = 0) :
    decodeLast octets offset
        [symbol p, symbol q, padding, padding] =
      .ok
        (octets.reverse ++
          [UInt8.ofNat (p * 4 + q / 16)]) := by
  have hValues :=
    values_symbols offset [p, q] (by simp [hP, hQ])
  simp only [List.map_cons, List.map_nil] at hValues
  simp [decodeLast, symbol_ne_padding hP,
    symbol_ne_padding hQ, hValues, hStray, bind,
    Except.bind, pure, Except.pure]

/- A last group of three symbols, with no stray bits. -/
private theorem decodeLast_three
    (octets : Bytes)
    (offset : Nat)
    {p q r : Nat}
    (hP : p < 64)
    (hQ : q < 64)
    (hR : r < 64)
    (hStray : r % 4 = 0) :
    decodeLast octets offset
        [symbol p, symbol q, symbol r, padding] =
      .ok
        (octets.reverse ++
          [UInt8.ofNat (p * 4 + q / 16),
            UInt8.ofNat (q * 16 + r / 4)]) := by
  have hValues :=
    values_symbols offset [p, q, r]
      (by simp [hP, hQ, hR])
  simp only [List.map_cons, List.map_nil] at hValues
  simp [decodeLast, symbol_ne_padding hP,
    symbol_ne_padding hQ, symbol_ne_padding hR, hValues,
    hStray, bind, Except.bind, pure, Except.pure]

/- A last group of four symbols. -/
private theorem decodeLast_four
    (octets : Bytes)
    (offset : Nat)
    {p q r s : Nat}
    (hP : p < 64)
    (hQ : q < 64)
    (hR : r < 64)
    (hS : s < 64) :
    decodeLast octets offset
        [symbol p, symbol q, symbol r, symbol s] =
      .ok
        (octets.reverse ++
          [UInt8.ofNat (p * 4 + q / 16),
            UInt8.ofNat (q * 16 + r / 4),
            UInt8.ofNat (r * 64 + s)]) := by
  have hValues :=
    values_symbols offset [p, q, r, s]
      (by simp [hP, hQ, hR, hS])
  simp only [List.map_cons, List.map_nil] at hValues
  simp [decodeLast, symbol_ne_padding hP,
    symbol_ne_padding hQ, symbol_ne_padding hR,
    symbol_ne_padding hS, hValues, bind, Except.bind, pure,
    Except.pure]

end Base64

end Courier

------------------------------------------------------------
-- Reading
------------------------------------------------------------

namespace Courier

namespace Base64

/- A full group with more behind it is read on its own. -/
private theorem decodeFrom_group
    (octets : Bytes)
    (offset : Nat)
    (a b c : UInt8)
    {rest : Bytes}
    (hRest : rest ≠ []) :
    decodeFrom octets offset (group a b c ++ rest) =
      decodeFrom (c :: b :: a :: octets) (offset + 4)
        rest := by
  have hA := a.toNat_lt
  have hB := b.toNat_lt
  have hC := c.toNat_lt
  cases rest with
  | nil => exact absurd rfl hRest
  | cons e rest =>
      have hValues :=
        values_symbols offset
          [a.toNat / 4, a.toNat % 4 * 16 + b.toNat / 16,
            b.toNat % 16 * 4 + c.toNat / 64, c.toNat % 64]
          (by
            simp only [List.mem_cons, List.not_mem_nil,
              or_false, forall_eq_or_imp, forall_eq]
            omega)
      simp only [List.map_cons, List.map_nil] at hValues
      simp only [group, List.cons_append, List.nil_append,
        decodeFrom, hValues, first_octet, second_octet,
        third_octet]

/- Reading goes on after groups that were written. -/
private theorem decodeFrom_encodeBytes
    (octets : Bytes)
    (offset : Nat) :
    ∀ bytes : Bytes,
      bytes ≠ [] →
        decodeFrom octets offset (encodeBytes bytes) =
          .ok (octets.reverse ++ bytes)
  | [], hBytes => absurd rfl hBytes
  | [a], _ => by
      have hA := a.toNat_lt
      have hLast :=
        decodeLast_two octets offset
          (p := a.toNat / 4) (q := a.toNat % 4 * 16)
          (by omega) (by omega) (by omega)
      have hOctet := first_octet a 0
      simp only [UInt8.toNat_zero, Nat.zero_div,
        Nat.add_zero] at hOctet
      rw [hOctet] at hLast
      exact hLast
  | [a, b], _ => by
      have hA := a.toNat_lt
      have hB := b.toNat_lt
      have hLast :=
        decodeLast_three octets offset
          (p := a.toNat / 4)
          (q := a.toNat % 4 * 16 + b.toNat / 16)
          (r := b.toNat % 16 * 4)
          (by omega) (by omega) (by omega) (by omega)
      have hOctet := second_octet a b 0
      simp only [UInt8.toNat_zero, Nat.zero_div,
        Nat.add_zero] at hOctet
      rw [first_octet, hOctet] at hLast
      exact hLast
  | [a, b, c], _ => by
      have hA := a.toNat_lt
      have hB := b.toNat_lt
      have hC := c.toNat_lt
      have hLast :=
        decodeLast_four octets offset
          (p := a.toNat / 4)
          (q := a.toNat % 4 * 16 + b.toNat / 16)
          (r := b.toNat % 16 * 4 + c.toNat / 64)
          (s := c.toNat % 64)
          (by omega) (by omega) (by omega) (by omega)
      rw [first_octet, second_octet, third_octet] at hLast
      exact hLast
  | a :: b :: c :: d :: rest, _ => by
      have hMore : d :: rest ≠ [] := List.cons_ne_nil d rest
      rw [encodeBytes_cons,
        decodeFrom_group octets offset a b c
          (encodeBytes_ne_nil hMore),
        decodeFrom_encodeBytes _ _ (d :: rest) hMore]
      simp

/- What is written is read back. -/
theorem decode_encodeBytes
    (bytes : Bytes) :
    decode (encodeBytes bytes) = .ok bytes := by
  by_cases hBytes : bytes = []
  · subst hBytes
    rfl
  · have hLast := encodeBytes_ne_nil hBytes
    have hLength := length_encodeBytes_mod bytes
    unfold decode
    rw [List.getLast?_eq_some_getLast hLast]
    -- whole groups leave no lone symbol that is checked first
    simp only [hLength, Nat.zero_ne_one, false_and,
      if_false]
    exact decodeFrom_encodeBytes [] 0 bytes hBytes

end Base64

end Courier

------------------------------------------------------------
-- Texts
------------------------------------------------------------

namespace Courier

namespace Base64

/- Symbols are letters, digits, and three other signs. -/
theorem toNat_of_isSymbol
    {b : UInt8}
    (hSymbol : isSymbol b = true) :
    (65 ≤ b.toNat ∧ b.toNat ≤ 90) ∨
      (97 ≤ b.toNat ∧ b.toNat ≤ 122) ∨
      (48 ≤ b.toNat ∧ b.toNat ≤ 57) ∨
      b.toNat = 43 ∨ b.toNat = 47 ∨ b.toNat = 61 := by
  by_cases hPadding : b = padding
  · subst hPadding
    decide
  · have hValue : (value? b).isSome = true := by
      simpa [isSymbol, hPadding] using hSymbol
    unfold value? at hValue
    -- each branch with a value is one of the ranges
    grind

/- A character of the text of a byte string. -/
theorem isSymbol_of_mem_encode
    {bytes : Bytes}
    {c : Char}
    (hMem : c ∈ (encode bytes).toList) :
    ∃ b : UInt8,
      isSymbol b = true ∧ c = Char.ofNat b.toNat := by
  simp only [encode, String.toList_ofList,
    List.mem_map] at hMem
  rcases hMem with ⟨b, hByte, rfl⟩
  exact ⟨b, isSymbol_of_mem_encodeBytes bytes b hByte, rfl⟩

/- The octets of the text are the symbols. -/
theorem utf8_encode
    (bytes : Bytes) :
    Utf8.encode (encode bytes).toList = encodeBytes bytes := by
  have hSeven :
      ∀ b ∈ encodeBytes bytes,
        (Char.ofNat b.toNat).toNat = b.toNat ∧
          b.toNat < 128 := by
    intro b hMem
    have hRange :=
      toNat_of_isSymbol
        (isSymbol_of_mem_encodeBytes bytes b hMem)
    have hLt : b.toNat < 128 := by omega
    exact ⟨Utf8.toNat_ofNat (Or.inl (by omega)), hLt⟩
  have hAscii :
      ∀ c ∈ (encode bytes).toList, c.toNat < 128 := by
    intro c hMem
    simp only [encode, String.toList_ofList,
      List.mem_map] at hMem
    rcases hMem with ⟨b, hByte, rfl⟩
    rw [(hSeven b hByte).1]
    exact (hSeven b hByte).2
  rw [Utf8.encode_of_ascii hAscii, encode,
    String.toList_ofList, List.map_map]
  calc
    (encodeBytes bytes).map
        ((fun c => UInt8.ofNat c.toNat) ∘
          fun b => Char.ofNat b.toNat) =
        (encodeBytes bytes).map id := by
      apply List.map_congr_left
      intro b hMem
      simp [(hSeven b hMem).1]
    _ = encodeBytes bytes := List.map_id _

/- What is written as text is read back from its octets. -/
theorem decode_encode
    (bytes : Bytes) :
    decode (Utf8.encode (encode bytes).toList) =
      .ok bytes := by
  rw [utf8_encode]
  exact decode_encodeBytes bytes

end Base64

end Courier

------------------------------------------------------------
-- Foreign Octets
------------------------------------------------------------

namespace Courier

namespace Base64

/- Octets that start with a foreign one have no values. -/
theorem values_of_foreign
    {b : UInt8}
    (offset : Nat)
    (rest : Bytes)
    (hForeign : value? b = none) :
    values offset (b :: rest) = .error (.symbol b offset) := by
  rw [values, hForeign]

/- Octets that start with a foreign one are no Base64. -/
theorem exists_fault_of_foreign
    {b : UInt8}
    (rest : Bytes)
    (hForeign : value? b = none)
    (hPadding : b ≠ padding) :
    ∃ fault, decode (b :: rest) = .error fault := by
  have hLast (octets : Bytes) (offset : Nat) (group : Bytes) :
      decodeLast octets offset (b :: group) =
        .error (.symbol b offset) := by
    have hBody :
        (b :: group).takeWhile (fun c => c != padding) =
          b :: group.takeWhile fun c => c != padding :=
      List.takeWhile_cons_of_pos (by simpa using hPadding)
    rw [decodeLast, hBody, values_of_foreign _ _ hForeign]
    rfl
  unfold decode
  split
  · next hNone => simp at hNone
  · split
    · exact ⟨_, rfl⟩
    · unfold decodeFrom
      split
      · next hEq =>
          cases hEq
          rw [values_of_foreign _ _ hForeign]
          exact ⟨_, rfl⟩
      · exact ⟨_, hLast _ _ _⟩

end Base64

end Courier
