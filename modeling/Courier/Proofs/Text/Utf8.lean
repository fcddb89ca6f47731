import Courier.Text.Utf8

/-
  What is written in UTF-8 is read back, by the strict and
  by the lenient reader, and the strict reader takes nothing
  else.

  The front of the octets of a character is that character,
  whatever follows it.  Both readers then skip the octets
  after its lead.

  Key definitions include:
    * `Utf8.IsFront`

  Key theorems include:
    * `Utf8.head_encodeChar`
    * `Utf8.decode_encode`
    * `Utf8.decode_eq_ok_iff`
    * `Utf8.decodeLossy_encode`
-/

------------------------------------------------------------
-- The Front of One Character
------------------------------------------------------------

namespace Courier

namespace Utf8

/- The octets that continue a character, and its lead. -/
private theorem toNat_octet
    {n : Nat}
    (hLt : n < 256) :
    (UInt8.ofNat n).toNat = n := by
  rw [UInt8.toNat_ofNat']
  exact Nat.mod_eq_of_lt hLt

/- Six bits with the mark in front of them continue. -/
private theorem isContinuation_mark
    (n : Nat) :
    isContinuation (n % 64 + 128) = true := by
  simp only [isContinuation, Bool.and_eq_true,
    decide_eq_true_eq]
  omega

/- A character of seven bits is its own octet. -/
private theorem head_one
    (c : Char)
    (rest : Bytes)
    (hMost : c.toNat ≤ 127) :
    head (UInt8.ofNat c.toNat) rest = .char c 1 := by
  have hLead := toNat_octet (n := c.toNat) (by omega)
  simp only [head, hLead, Char.ofNat_toNat]
  rw [if_pos (by omega)]

/- A character of eleven bits takes two octets. -/
private theorem head_two
    (c : Char)
    (rest : Bytes)
    (hLeast : 127 < c.toNat)
    (hMost : c.toNat ≤ 2047) :
    head (UInt8.ofNat (c.toNat / 64 % 32 + 192))
        (UInt8.ofNat (c.toNat % 64 + 128) :: rest) =
      .char c 2 := by
  have hLead :
      (UInt8.ofNat (c.toNat / 64 % 32 + 192)).toNat =
        c.toNat / 64 + 192 := by
    rw [toNat_octet (by omega)]
    omega
  have hSecond :=
    toNat_octet (n := c.toNat % 64 + 128) (by omega)
  have hValue :
      (c.toNat / 64 + 192 - 192) * 64 +
        (c.toNat % 64 + 128 - 128) = c.toNat := by
    omega
  simp only [head, headOfTwo, hLead, hSecond, hValue,
    isContinuation_mark, Char.ofNat_toNat]
  rw [if_neg (by omega), if_neg (by omega),
    if_pos (by omega)]
  rfl

/- A character of sixteen bits takes three octets. -/
private theorem head_three
    (c : Char)
    (rest : Bytes)
    (hLeast : 2047 < c.toNat)
    (hMost : c.toNat ≤ 65535) :
    head (UInt8.ofNat (c.toNat / 4096 % 16 + 224))
        (UInt8.ofNat (c.toNat / 64 % 64 + 128) ::
          UInt8.ofNat (c.toNat % 64 + 128) :: rest) =
      .char c 3 := by
  have hValid :
      c.toNat < 0xD800 ∨
        0xDFFF < c.toNat ∧ c.toNat < 0x110000 :=
    c.valid
  have hLead :
      (UInt8.ofNat (c.toNat / 4096 % 16 + 224)).toNat =
        c.toNat / 4096 + 224 := by
    rw [toNat_octet (by omega)]
    omega
  have hSecond :=
    toNat_octet (n := c.toNat / 64 % 64 + 128) (by omega)
  have hThird :=
    toNat_octet (n := c.toNat % 64 + 128) (by omega)
  have hAllowed :
      secondOfThree (c.toNat / 4096 + 224)
        (c.toNat / 64 % 64 + 128) = true := by
    unfold secondOfThree
    split
    · simp only [Bool.and_eq_true, decide_eq_true_eq]
      omega
    · split
      · simp only [Bool.and_eq_true, decide_eq_true_eq]
        omega
      · exact isContinuation_mark _
  have hValue :
      (c.toNat / 4096 + 224 - 224) * 4096 +
        (c.toNat / 64 % 64 + 128 - 128) * 64 +
        (c.toNat % 64 + 128 - 128) = c.toNat := by
    omega
  simp only [head, headOfThree, hLead, hSecond, hThird,
    hAllowed, hValue, isContinuation_mark,
    Char.ofNat_toNat]
  rw [if_neg (by omega), if_neg (by omega),
    if_neg (by omega), if_pos (by omega)]
  rfl

/- All other characters take four octets. -/
private theorem head_four
    (c : Char)
    (rest : Bytes)
    (hLeast : 65535 < c.toNat) :
    head (UInt8.ofNat (c.toNat / 262144 % 8 + 240))
        (UInt8.ofNat (c.toNat / 4096 % 64 + 128) ::
          UInt8.ofNat (c.toNat / 64 % 64 + 128) ::
          UInt8.ofNat (c.toNat % 64 + 128) :: rest) =
      .char c 4 := by
  have hValid :
      c.toNat < 0xD800 ∨
        0xDFFF < c.toNat ∧ c.toNat < 0x110000 :=
    c.valid
  have hLead :
      (UInt8.ofNat (c.toNat / 262144 % 8 + 240)).toNat =
        c.toNat / 262144 + 240 := by
    rw [toNat_octet (by omega)]
    omega
  have hSecond :=
    toNat_octet (n := c.toNat / 4096 % 64 + 128) (by omega)
  have hThird :=
    toNat_octet (n := c.toNat / 64 % 64 + 128) (by omega)
  have hFourth :=
    toNat_octet (n := c.toNat % 64 + 128) (by omega)
  have hAllowed :
      secondOfFour (c.toNat / 262144 + 240)
        (c.toNat / 4096 % 64 + 128) = true := by
    unfold secondOfFour
    split
    · simp only [Bool.and_eq_true, decide_eq_true_eq]
      omega
    · split
      · simp only [Bool.and_eq_true, decide_eq_true_eq]
        omega
      · exact isContinuation_mark _
  have hValue :
      (c.toNat / 262144 + 240 - 240) * 262144 +
        (c.toNat / 4096 % 64 + 128 - 128) * 4096 +
        (c.toNat / 64 % 64 + 128 - 128) * 64 +
        (c.toNat % 64 + 128 - 128) = c.toNat := by
    omega
  simp only [head, headOfFour, hLead, hSecond, hThird,
    hFourth, hAllowed, hValue, isContinuation_mark,
    Char.ofNat_toNat]
  rw [if_neg (by omega), if_neg (by omega),
    if_neg (by omega), if_neg (by omega),
    if_pos (by omega)]
  rfl

/-
  The octets of a character are a lead and some more, and
  the front of them is the character with its width.
-/
theorem head_encodeChar
    (c : Char) :
    ∃ lead tail,
      String.utf8EncodeChar c = lead :: tail ∧
        ∀ rest : Bytes,
          head lead (tail ++ rest) =
            .char c (tail.length + 1) := by
  have hVal : c.val.toNat = c.toNat := rfl
  unfold String.utf8EncodeChar
  simp only [hVal]
  split
  · next hMost =>
      exact ⟨_, _, rfl, fun rest => head_one c rest hMost⟩
  · split
    · next hLeast hMost =>
        exact
          ⟨_, _, rfl,
            fun rest => head_two c rest (by omega) hMost⟩
    · split
      · next hLeast hMost =>
          exact
            ⟨_, _, rfl,
              fun rest =>
                head_three c rest (by omega) hMost⟩
      · next hLeast =>
          exact
            ⟨_, _, rfl,
              fun rest => head_four c rest (by omega)⟩

end Utf8

end Courier

------------------------------------------------------------
-- Reading
------------------------------------------------------------

namespace Courier

namespace Utf8

/- Octets that are to be skipped are skipped. -/
private theorem decodeFrom_skip
    (chars : List Char)
    (index : Nat)
    (tail rest : Bytes) :
    decodeFrom chars index tail.length (tail ++ rest) =
      decodeFrom chars (index + tail.length) 0 rest := by
  induction tail generalizing index with
  | nil => rfl
  | cons b tail ih =>
      simp only [List.length_cons, List.cons_append,
        decodeFrom]
      rw [ih]
      congr 1
      omega

/- One character is read from its octets. -/
private theorem decodeFrom_encodeChar
    (chars : List Char)
    (index : Nat)
    (c : Char)
    (rest : Bytes) :
    ∃ index',
      decodeFrom chars index 0
          (String.utf8EncodeChar c ++ rest) =
        decodeFrom (c :: chars) index' 0 rest := by
  rcases head_encodeChar c with ⟨lead, tail, hEq, hHead⟩
  refine ⟨index + 1 + tail.length, ?_⟩
  rw [hEq, List.cons_append, decodeFrom, hHead rest]
  exact decodeFrom_skip (c :: chars) (index + 1) tail rest

/- Reading goes on after characters that were written. -/
private theorem decodeFrom_encode
    (chars : List Char)
    (index : Nat)
    (text : List Char) :
    decodeFrom chars index 0 (encode text) =
      .ok (chars.reverse ++ text) := by
  induction text generalizing chars index with
  | nil => simp [encode, decodeFrom]
  | cons c text ih =>
      rcases
          decodeFrom_encodeChar chars index c
            (encode text) with
        ⟨index', hEq⟩
      have hCons :
          encode (c :: text) =
            String.utf8EncodeChar c ++ encode text := rfl
      rw [hCons, hEq, ih]
      simp

/- What is written is read back. -/
theorem decode_encode
    (text : List Char) :
    decode (encode text) = .ok text := by
  simpa [decode] using decodeFrom_encode [] 0 text

end Utf8

end Courier

------------------------------------------------------------
-- Exact Reading
------------------------------------------------------------

namespace Courier

namespace Utf8

/- The number of the character of a valid number. -/
theorem toNat_ofNat
    {n : Nat}
    (hValid : n.isValidChar) :
    (Char.ofNat n).toNat = n := by
  rw [Char.ofNat, dif_pos hValid]
  rfl

/- An octet is the one of its number. -/
private theorem eq_octet
    {b : UInt8}
    {n : Nat}
    (hEq : n = b.toNat) :
    UInt8.ofNat n = b := by
  rw [hEq, UInt8.ofNat_toNat]

/- The octets of a character of eleven bits at most. -/
private theorem encodeChar_two
    {c : Char}
    (hLeast : 127 < c.toNat)
    (hMost : c.toNat ≤ 2047) :
    String.utf8EncodeChar c =
      [UInt8.ofNat (c.toNat / 64 % 32 + 192),
        UInt8.ofNat (c.toNat % 64 + 128)] := by
  have hVal : c.val.toNat = c.toNat := rfl
  unfold String.utf8EncodeChar
  simp only [hVal]
  rw [if_neg (by omega), if_pos hMost]

/- The octets of a character of sixteen bits at most. -/
private theorem encodeChar_three
    {c : Char}
    (hLeast : 2047 < c.toNat)
    (hMost : c.toNat ≤ 65535) :
    String.utf8EncodeChar c =
      [UInt8.ofNat (c.toNat / 4096 % 16 + 224),
        UInt8.ofNat (c.toNat / 64 % 64 + 128),
        UInt8.ofNat (c.toNat % 64 + 128)] := by
  have hVal : c.val.toNat = c.toNat := rfl
  unfold String.utf8EncodeChar
  simp only [hVal]
  rw [if_neg (by omega), if_neg (by omega), if_pos hMost]

/- The octets of all other characters. -/
private theorem encodeChar_four
    {c : Char}
    (hLeast : 65535 < c.toNat) :
    String.utf8EncodeChar c =
      [UInt8.ofNat (c.toNat / 262144 % 8 + 240),
        UInt8.ofNat (c.toNat / 4096 % 64 + 128),
        UInt8.ofNat (c.toNat / 64 % 64 + 128),
        UInt8.ofNat (c.toNat % 64 + 128)] := by
  have hVal : c.val.toNat = c.toNat := rfl
  unfold String.utf8EncodeChar
  simp only [hVal]
  rw [if_neg (by omega), if_neg (by omega), if_neg (by omega)]

/-
  The character was read from a lead and the octets after
  it, which are its own octets.
-/
def IsFront
    (lead : UInt8)
    (rest : Bytes)
    (c : Char)
    (width : Nat) : Prop :=
  ∃ tail more,
    rest = tail ++ more ∧
      width = tail.length + 1 ∧
      String.utf8EncodeChar c = lead :: tail

/- A character of width two has the octets it was read from. -/
private theorem isFront_two
    {lead : UInt8}
    {rest : Bytes}
    {c : Char}
    {width : Nat}
    (hLeast : 194 ≤ lead.toNat)
    (hMost : lead.toNat < 224)
    (hHead : headOfTwo lead.toNat rest = .char c width) :
    IsFront lead rest c width := by
  unfold headOfTwo at hHead
  split at hHead
  · cases hHead
  · next b more =>
      split at hHead
      · next hSecond =>
          simp only [isContinuation, Bool.and_eq_true,
            decide_eq_true_eq] at hSecond
          rw [Head.char.injEq] at hHead
          rcases hHead with ⟨hChar, rfl⟩
          have hNumber :
              c.toNat =
                (lead.toNat - 192) * 64 + (b.toNat - 128) := by
            rw [← hChar, toNat_ofNat (Or.inl (by omega))]
          refine ⟨[b], more, rfl, rfl, ?_⟩
          rw [encodeChar_two (by omega) (by omega),
            eq_octet (b := lead) (by omega),
            eq_octet (b := b) (by omega)]
      · cases hHead

/- What may stand after a lead of width three. -/
private theorem bounds_of_secondOfThree
    {lead second : Nat}
    (hSecond : secondOfThree lead second = true) :
    128 ≤ second ∧ second < 192 ∧
      (lead = 224 → 160 ≤ second) ∧
      (lead = 237 → second < 160) := by
  unfold secondOfThree at hSecond
  split at hSecond
  · simp only [Bool.and_eq_true, decide_eq_true_eq]
      at hSecond
    omega
  · split at hSecond
    · simp only [Bool.and_eq_true, decide_eq_true_eq]
        at hSecond
      omega
    · simp only [isContinuation, Bool.and_eq_true,
        decide_eq_true_eq] at hSecond
      omega

/- What may stand after a lead of width four. -/
private theorem bounds_of_secondOfFour
    {lead second : Nat}
    (hSecond : secondOfFour lead second = true) :
    128 ≤ second ∧ second < 192 ∧
      (lead = 240 → 144 ≤ second) ∧
      (lead = 244 → second < 144) := by
  unfold secondOfFour at hSecond
  split at hSecond
  · simp only [Bool.and_eq_true, decide_eq_true_eq]
      at hSecond
    omega
  · split at hSecond
    · simp only [Bool.and_eq_true, decide_eq_true_eq]
        at hSecond
      omega
    · simp only [isContinuation, Bool.and_eq_true,
        decide_eq_true_eq] at hSecond
      omega

/-
  A character of width three has the octets it was read
  from.
-/
private theorem isFront_three
    {lead : UInt8}
    {rest : Bytes}
    {c : Char}
    {width : Nat}
    (hLeast : 224 ≤ lead.toNat)
    (hMost : lead.toNat < 240)
    (hHead : headOfThree lead.toNat rest = .char c width) :
    IsFront lead rest c width := by
  unfold headOfThree at hHead
  split at hHead
  · cases hHead
  · split at hHead <;> cases hHead
  · next b d more =>
      split at hHead
      · cases hHead
      split at hHead
      · cases hHead
      next hSecond hThird =>
        simp only [Bool.not_eq_true', Bool.not_eq_false]
          at hSecond hThird
        rcases bounds_of_secondOfThree hSecond with
          ⟨hLow, hHigh, hFirst, hSurrogate⟩
        simp only [isContinuation, Bool.and_eq_true,
          decide_eq_true_eq] at hThird
        rw [Head.char.injEq] at hHead
        rcases hHead with ⟨hChar, rfl⟩
        have hNumber :
            c.toNat =
              (lead.toNat - 224) * 4096 +
                (b.toNat - 128) * 64 + (d.toNat - 128) := by
          rw [← hChar, toNat_ofNat]
          unfold Nat.isValidChar
          omega
        refine ⟨[b, d], more, rfl, rfl, ?_⟩
        rw [encodeChar_three (by omega) (by omega),
          eq_octet (b := lead) (by omega),
          eq_octet (b := b) (by omega),
          eq_octet (b := d) (by omega)]

/-
  A character of width four has the octets it was read
  from.
-/
private theorem isFront_four
    {lead : UInt8}
    {rest : Bytes}
    {c : Char}
    {width : Nat}
    (hLeast : 240 ≤ lead.toNat)
    (hMost : lead.toNat < 245)
    (hHead : headOfFour lead.toNat rest = .char c width) :
    IsFront lead rest c width := by
  unfold headOfFour at hHead
  split at hHead
  · cases hHead
  · split at hHead <;> cases hHead
  · split at hHead
    · cases hHead
    split at hHead <;> cases hHead
  · next b d e more =>
      split at hHead
      · cases hHead
      split at hHead
      · cases hHead
      split at hHead
      · cases hHead
      next hSecond hThird hFourth =>
        simp only [Bool.not_eq_true', Bool.not_eq_false]
          at hSecond hThird hFourth
        rcases bounds_of_secondOfFour hSecond with
          ⟨hLow, hHigh, hFirst, hLast⟩
        simp only [isContinuation, Bool.and_eq_true,
          decide_eq_true_eq] at hThird hFourth
        rw [Head.char.injEq] at hHead
        rcases hHead with ⟨hChar, rfl⟩
        have hNumber :
            c.toNat =
              (lead.toNat - 240) * 262144 +
                (b.toNat - 128) * 4096 +
                (d.toNat - 128) * 64 + (e.toNat - 128) := by
          rw [← hChar, toNat_ofNat]
          unfold Nat.isValidChar
          omega
        refine ⟨[b, d, e], more, rfl, rfl, ?_⟩
        rw [encodeChar_four (by omega),
          eq_octet (b := lead) (by omega),
          eq_octet (b := b) (by omega),
          eq_octet (b := d) (by omega),
          eq_octet (b := e) (by omega)]

/- A character at the front has the octets it was read from. -/
theorem isFront_of_head
    {lead : UInt8}
    {rest : Bytes}
    {c : Char}
    {width : Nat}
    (hHead : head lead rest = .char c width) :
    IsFront lead rest c width := by
  simp only [head] at hHead
  split at hHead
  · rw [Head.char.injEq] at hHead
    rcases hHead with ⟨hChar, rfl⟩
    have hNumber : c.val.toNat = lead.toNat := by
      rw [← hChar]
      exact toNat_ofNat (Or.inl (by omega))
    refine ⟨[], rest, rfl, rfl, ?_⟩
    rw [String.utf8EncodeChar, if_pos (by omega), hNumber,
      UInt8.ofNat_toNat]
  split at hHead
  · cases hHead
  split at hHead
  · exact isFront_two (by omega) (by omega) hHead
  split at hHead
  · exact isFront_three (by omega) (by omega) hHead
  split at hHead
  · exact isFront_four (by omega) (by omega) hHead
  · cases hHead

/-
  What reading gives has the octets that were not skipped as
  its own.
-/
private theorem encode_of_decodeFrom
    {chars text : List Char}
    {index skip : Nat}
    {bytes : Bytes}
    (hSkip : skip ≤ bytes.length)
    (hRead : decodeFrom chars index skip bytes = .ok text) :
    encode text =
      encode chars.reverse ++ bytes.drop skip := by
  induction bytes generalizing chars index skip with
  | nil =>
      cases hRead
      simp
  | cons b rest ih =>
      cases skip with
      | succ skip =>
          rw [decodeFrom] at hRead
          exact ih (by simpa using hSkip) hRead
      | zero =>
          rw [decodeFrom] at hRead
          split at hRead
          · next c width hHead =>
              rcases isFront_of_head hHead with
                ⟨tail, more, rfl, rfl, hChar⟩
              rw [ih (by simp) hRead]
              simp [encode, hChar]
          · cases hRead
          · cases hRead

/- Bytes spell exactly the characters that spell them. -/
theorem decode_eq_ok_iff
    {bytes : Bytes}
    {text : List Char} :
    decode bytes = .ok text ↔ bytes = encode text := by
  constructor
  · intro hRead
    have hSame := encode_of_decodeFrom (Nat.zero_le _) hRead
    simpa [encode] using hSame.symm
  · rintro rfl
    exact decode_encode text

end Utf8

end Courier

------------------------------------------------------------
-- Lenient Reading
------------------------------------------------------------

namespace Courier

namespace Utf8

/- Octets that are to be skipped are skipped. -/
private theorem decodeLossyFrom_skip
    (chars : List Char)
    (tail rest : Bytes) :
    decodeLossyFrom chars tail.length (tail ++ rest) =
      decodeLossyFrom chars 0 rest := by
  induction tail with
  | nil => rfl
  | cons b tail ih =>
      simpa only [List.length_cons, List.cons_append,
        decodeLossyFrom] using ih

/- Reading goes on after characters that were written. -/
private theorem decodeLossyFrom_encode
    (chars text : List Char) :
    decodeLossyFrom chars 0 (encode text) =
      chars.reverse ++ text := by
  induction text generalizing chars with
  | nil => simp [encode, decodeLossyFrom]
  | cons c text ih =>
      rcases head_encodeChar c with
        ⟨lead, tail, hEq, hHead⟩
      have hCons :
          encode (c :: text) =
            lead :: (tail ++ encode text) := by
        change String.utf8EncodeChar c ++ encode text = _
        rw [hEq]
        rfl
      rw [hCons, decodeLossyFrom, hHead (encode text)]
      change
        decodeLossyFrom (c :: chars) tail.length
          (tail ++ encode text) = _
      rw [decodeLossyFrom_skip, ih]
      simp

/- Nothing that was written is replaced. -/
theorem decodeLossy_encode
    (text : List Char) :
    decodeLossy (encode text) = text := by
  simpa [decodeLossy] using decodeLossyFrom_encode [] text

end Utf8

end Courier

------------------------------------------------------------
-- Texts
------------------------------------------------------------

namespace Courier

namespace Utf8

/- The octets of two texts in a row. -/
theorem encode_append
    (first second : List Char) :
    encode (first ++ second) =
      encode first ++ encode second := by
  simp [encode]

/- Characters of seven bits are their own octets. -/
theorem encode_of_ascii
    {chars : List Char}
    (hAscii : ∀ c ∈ chars, c.toNat < 128) :
    encode chars =
      chars.map fun c => UInt8.ofNat c.toNat := by
  induction chars with
  | nil => rfl
  | cons c chars ih =>
      have hFirst : c.val.toNat ≤ 127 := by
        have hLt := hAscii c List.mem_cons_self
        have hVal : c.val.toNat = c.toNat := rfl
        omega
      have hChar :
          String.utf8EncodeChar c =
            [UInt8.ofNat c.toNat] := by
        unfold String.utf8EncodeChar
        rw [if_pos hFirst]
        rfl
      have hRest :=
        ih fun d hMem =>
          hAscii d (List.mem_cons_of_mem c hMem)
      have hCons :
          encode (c :: chars) =
            String.utf8EncodeChar c ++ encode chars := rfl
      rw [hCons, hChar, hRest]
      rfl

/- The bytes of an array from an index on, after others. -/
theorem toList_loop
    (bytes : ByteArray)
    (i : Nat)
    (done : Bytes) :
    ByteArray.toList.loop bytes i done =
      done.reverse ++ bytes.data.toList.drop i := by
  fun_induction ByteArray.toList.loop bytes i done with
  | case1 i done hLt ih =>
      have hIndex : i < bytes.data.toList.length := by
        simpa using hLt
      have hGet : bytes.get! i = bytes.data.toList[i] := by
        have hSize : i < bytes.data.size := by
          simpa using hIndex
        rw [ByteArray.get!, getElem!_pos bytes.data i hSize,
          Array.getElem_toList]
      rw [ih, List.drop_eq_getElem_cons hIndex, hGet]
      simp
  | case2 i done hGe =>
      have hIndex : bytes.data.toList.length ≤ i := by
        simpa using hGe
      rw [List.drop_of_length_le hIndex, List.append_nil]

/- The octets of a text are those of its characters. -/
theorem ofText_eq_encode
    (text : String) :
    Bytes.ofText text = encode text.toList := by
  have hList := toList_loop text.toUTF8 0 []
  rw [Bytes.ofText, ByteArray.toList, hList,
    List.reverse_nil, List.nil_append, List.drop_zero,
    String.toUTF8_eq_toByteArray,
    ← String.utf8Encode_toList, List.utf8Encode,
    List.toList_data_toByteArray]
  rfl

end Utf8

end Courier
