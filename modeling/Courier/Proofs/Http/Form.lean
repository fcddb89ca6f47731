import Courier.Http.Form
import Courier.Proofs.Text.Utf8

/-
  Names and values in queries come back as they were.

  What is written for a name or a value has none of the signs
  that part them, so that the signs are found again where
  they were put.

  Key definitions include:
    * `Form.signs`

  Key theorems include:
    * `Form.decodeText_escape`
    * `Form.decode_encode`
    * `Form.decode_divider`
-/

------------------------------------------------------------
-- Single Octets
------------------------------------------------------------

namespace Courier

namespace Form

/- The signs that part a target and the pairs in it. -/
def signs : List Char := ['&', '=', '#']

/- A digit is read back, and is none of the signs. -/
theorem digit_spec :
    ∀ n < 16,
      Bytes.hexValue? (digit n) = some n ∧
        digit n ∉ signs := by
  decide

/- Signs with a meaning do not stand for themselves. -/
theorem not_mem_of_isPlain
    {b : UInt8}
    (hPlain : isPlain b = true) :
    b.toNat < 128 ∧
      Char.ofNat b.toNat ∉ '%' :: '+' :: signs := by
  simp only [isPlain, Bool.and_eq_true,
    decide_eq_true_eq] at hPlain
  obtain ⟨hSeven, hSign⟩ := hPlain
  refine ⟨hSeven, fun hMem => ?_⟩
  simp only [signs, List.mem_cons, List.not_mem_nil,
    or_false] at hMem
  rcases hMem with hEq | hEq | hEq | hEq | hEq
  all_goals
    rw [hEq] at hSign
    exact absurd hSign (by decide)

/- What is written for an octet has none of the signs. -/
theorem not_mem_of_mem_escapeByte
    {b : UInt8}
    {c : Char}
    (hMem : c ∈ escapeByte b) :
    c ∉ signs := by
  have hLt := b.toNat_lt
  unfold escapeByte at hMem
  split at hMem
  · rw [List.mem_singleton] at hMem
    subst hMem
    decide
  · split at hMem
    · next hPlain =>
        rw [List.mem_singleton] at hMem
        subst hMem
        have hNot := (not_mem_of_isPlain hPlain).2
        simp only [List.mem_cons, not_or] at hNot
        exact hNot.2.2
    · simp only [List.mem_cons, List.not_mem_nil,
        or_false] at hMem
      rcases hMem with rfl | rfl | rfl
      · decide
      · exact (digit_spec _ (by omega)).2
      · exact (digit_spec _ (by omega)).2

/- What is written for an octet is read as the octet. -/
theorem unescape_escapeByte
    (b : UInt8)
    (rest : List Char) :
    unescape (escapeByte b ++ rest) = b :: unescape rest := by
  have hLt := b.toNat_lt
  unfold escapeByte
  split
  · next hSpace =>
      subst hSpace
      rfl
  · split
    · next hPlain =>
        obtain ⟨hSeven, hNot⟩ := not_mem_of_isPlain hPlain
        simp only [List.mem_cons, not_or] at hNot
        obtain ⟨hPercent, hPlus, -⟩ := hNot
        have hNumber : (Char.ofNat b.toNat).toNat = b.toNat :=
          Utf8.toNat_ofNat (Or.inl (by omega))
        have hOctets :
            String.utf8EncodeChar (Char.ofNat b.toNat) = [b] := by
          have hText :
              Utf8.encode [Char.ofNat b.toNat] =
                [Char.ofNat b.toNat].map
                  fun c => UInt8.ofNat c.toNat :=
            Utf8.encode_of_ascii (by simp [hNumber, hSeven])
          simpa [Utf8.encode, hNumber] using hText
        rw [List.singleton_append, unescape]
        · rw [if_neg hPlus, hOctets]
          rfl
        · exact fun _ _ _ hEq _ => hPercent hEq
    · have hHigh := (digit_spec (b.toNat / 16) (by omega)).1
      have hLow := (digit_spec (b.toNat % 16) (by omega)).1
      have hWhole :
          UInt8.ofNat (b.toNat / 16 * 16 + b.toNat % 16) = b := by
        rw [Nat.div_add_mod', UInt8.ofNat_toNat]
      simp only [List.cons_append, List.nil_append, unescape,
        hHigh, hLow, hWhole]

end Form

end Courier

------------------------------------------------------------
-- Texts
------------------------------------------------------------

namespace Courier

namespace Form

/- What is written for some octets is read as them. -/
theorem unescape_escapeBytes
    (bytes : Bytes) :
    unescape (bytes.flatMap escapeByte) = bytes := by
  induction bytes with
  | nil => rfl
  | cons b bytes ih =>
      rw [List.flatMap_cons, unescape_escapeByte, ih]

/- What is written for a text is read as the text. -/
theorem decodeText_escape
    (text : String) :
    decodeText (escape text) = text := by
  rw [decodeText, escape, unescape_escapeBytes,
    Utf8.decodeLossy_encode, String.ofList_toList]

/- What is written for a text has none of the signs. -/
theorem not_mem_of_mem_escape
    {text : String}
    {c : Char}
    (hMem : c ∈ escape text) :
    c ∉ signs := by
  rcases List.mem_flatMap.1 hMem with ⟨b, -, hByte⟩
  exact not_mem_of_mem_escapeByte hByte

/- What is written for a pair is read as the pair. -/
theorem decodePair_encodePair
    (pair : String × String) :
    decodePair (encodePair pair) = pair := by
  have hNot : '=' ∉ escape pair.1 :=
    fun hMem => not_mem_of_mem_escape hMem (by decide)
  rw [decodePair, encodePair, Split.cut?_append hNot]
  simp only
  rw [decodeText_escape, decodeText_escape]

/- What is written for a pair has one of the signs. -/
theorem eq_of_mem_encodePair
    {pair : String × String}
    {c : Char}
    (hMem : c ∈ encodePair pair)
    (hSign : c ∈ signs) :
    c = '=' := by
  rcases List.mem_append.1 hMem with hName | hRest
  · exact absurd hSign (not_mem_of_mem_escape hName)
  · rcases List.mem_cons.1 hRest with hEq | hValue
    · exact hEq
    · exact absurd hSign (not_mem_of_mem_escape hValue)

end Form

end Courier

------------------------------------------------------------
-- Queries
------------------------------------------------------------

namespace Courier

namespace Form

/- A sign between two queries parts them. -/
theorem decode_divider
    (first second : List Char) :
    decode (first ++ '&' :: second) =
      decode first ++ decode second := by
  unfold decode
  rw [Split.pieces_divider, List.filter_append,
    List.map_append]

/- A pair is a query. -/
theorem decode_encodePair
    (pair : String × String) :
    decode (encodePair pair) = [pair] := by
  have hNot : '&' ∉ encodePair pair := by
    intro hMem
    have hEq := eq_of_mem_encodePair hMem (by decide)
    exact absurd hEq (by decide)
  have hSome : encodePair pair ≠ [] :=
    List.append_ne_nil_of_right_ne_nil _
      (List.cons_ne_nil _ _)
  rw [decode, Split.pieces_of_not_mem hNot]
  simp [hSome, decodePair_encodePair]

/- The pairs that are written are read back. -/
theorem decode_encode
    (pairs : List (String × String)) :
    decode (encode pairs).toList = pairs := by
  rw [encode, String.toList_ofList]
  match pairs with
  | [] => rfl
  | [pair] =>
      rw [List.map_singleton, List.intercalate_singleton]
      exact decode_encodePair pair
  | pair :: next :: rest =>
      have hRest := decode_encode (next :: rest)
      rw [encode, String.toList_ofList] at hRest
      have hCons :
          ['&'].intercalate
              ((pair :: next :: rest).map encodePair) =
            encodePair pair ++
              '&' ::
                ['&'].intercalate
                  ((next :: rest).map encodePair) := by
        simp [List.intercalate]
      rw [hCons, decode_divider, decode_encodePair, hRest]
      rfl

end Form

end Courier
